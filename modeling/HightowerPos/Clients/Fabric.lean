import HightowerPos.Clients.Sentry

/-!
# The Fabric client

`write_sales_order` with a client, that is with a transaction service configured: the
drain worker does not start without one.
-/

namespace HightowerPos

/-- What httpx does with the POST of a sales order. -/
inductive FabricExchange
  | /-- `post` raises an `httpx.HTTPError` with this text. -/
    httpError (text : String)
  | /-- `post` raises anything else. -/
    otherError (repr : String)
  | /-- A response.  `statusError` is the text of the `HTTPStatusError` that
    `raise_for_status` raises for it; the body is `none` where `response.json()`
    raises. -/
    response (status : Nat) (statusError : String) (body : Option Json)

namespace Fabric

/-- `write_sales_order`. -/
def writeSalesOrder : FabricExchange → Except PyExc Json
  | .httpError text => .error (.fabricClient s!"sales order write failed: {text}")
  | .otherError repr => .error (.httpx repr)
  | .response status statusError body =>
      if 200 ≤ status ∧ status < 300 then
        -- `except httpx.HTTPError` does not cover what `response.json()` raises
        match body with
        | none => .error .jsonDecode
        | some body =>
            if body.isObject then .ok body
            else
              let name := body.typeName
              .error (.fabricClient s!"sales order write returned non-object payload: {name}")
      else .error (.fabricClient s!"sales order write failed: {statusError}")

/-- Bind a JSON value to a text column: what SQLite stores, or the exception it
raises. -/
def bindText (rt : Runtime) : Json → Except PyExc (Option String)
  | .null => .ok none
  | .bool b => .ok (some (if b then "1" else "0"))
  | .int n => if -2 ^ 63 ≤ n ∧ n < 2 ^ 63 then .ok (some (toString n)) else .error .overflow
  | .float r => .ok (rt.realText r)
  | .str s => match s.encode with
      | some t => .ok (some t)
      | none => .error .unicodeEncode
  | .array _ | .object _ => .error .interface

end Fabric

end HightowerPos
