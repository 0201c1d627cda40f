import HightowerPos.Clients.Fabric
import HightowerPos.Services.Pricing

/-!
# The Fabric price sync

`fetch_price_catalog`, with a client, and `sync_once`, which writes what it returns in batches and
commits once.  What the sync reports of its duration is left out, and so is the text of the
exception that a malformed row raises.
-/

namespace HightowerPos

namespace Json

/-- `int(x)` for a finite float, given by the decimal that `repr` shows: from 2^53 on the float is
the nearest multiple of a power of two. -/
def truncate (d : Decimal) : Int :=
  let v := |d.toRat|
  let whole := ⌊v⌋₊
  let n : Int :=
    if whole < 2 ^ 53 then whole
    else
      let k := Nat.log 2 whole - 52
      roundEven (v / 2 ^ k) * 2 ^ k
  if d.coeff < 0 then -n else n

/-- The blanks around a number: `int` looks for those of ASCII in an ASCII text, and for all that
are spaces in another. -/
def stripBlanks (cs : List Char) : List Char :=
  let isBlank (c : Char) : Bool :=
    if cs.all fun c ↦ c.toNat < 128 then c = ' ' || (9 ≤ c.toNat && c.toNat ≤ 13)
    else PyStr.isSpace c
  ((cs.dropWhile isBlank).reverse.dropWhile isBlank).reverse

/-- `int(text)`; `none` is a `ValueError`. -/
def intOfText (text : PyStr) : Option Int := do
  let text ← text.encode
  let (negative, cs) := PyDecimal.splitSign (stripBlanks text.toList)
  let groups := cs.splitOn '_'
  let digits ← cs.filter (· ≠ '_') |>.mapM PyStr.decimalValue
  if [] ∈ groups ∨ PyStr.intMaxStrDigits < digits.length then none
  else
    let n := (Nat.ofDigits 10 digits.reverse : Int)
    some (if negative then -n else n)

example : intOfText (.ofString " -1_250\n") = some (-1250) ∧
    intOfText (.ofString "12.0") = none := by
  decide +kernel

/-- `int(v)`; `none` is a `TypeError` or a `ValueError`, which the client handles. -/
def toInt : Json → Except PyExc (Option Int)
  | .bool b => .ok (some (if b then 1 else 0))
  | .int n => .ok (some n)
  | .str s => .ok (intOfText s)
  | .float repr => match PyDecimal.parse repr with
      | some (.finite d) => .ok (some (truncate d))
      | some (.infinity _) => .error .overflow
      | _ => .ok none
  | .null | .array _ | .object _ => .ok none

end Json

namespace Fabric

/-- `item[name]`; `none` is a `KeyError` or a `TypeError`. -/
def subscript (item : Json) (name : String) : Option Json :=
  (item.fields.reverse.find? fun kv ↦ kv.1 = PyStr.ofString name).map (·.2)

/-- `(str(item["sku"]), int(item["unit_price_cents"]))`; `none` is what the client handles. -/
def catalogRow (rt : Runtime) (item : Json) : Except PyExc (Option (PyStr × Int)) :=
  match subscript item "sku", subscript item "unit_price_cents" with
  | some sku, some cents => do
      let cents ← cents.toInt
      return cents.map fun cents ↦ (rt.str sku, cents)
  | _, _ => .ok none

/-- The rows of the catalog, up to the first that raises; `none` is what the client handles. -/
def catalogRows (rt : Runtime) : List Json → Except PyExc (Option (List (PyStr × Int)))
  | [] => .ok (some [])
  | item :: items => do
      match ← catalogRow rt item with
      | none => return none
      | some row =>
          let rows ← catalogRows rt items
          return rows.map (row :: ·)

/-- `fetch_price_catalog`. -/
def fetchPriceCatalog (rt : Runtime) : FabricExchange → Except PyExc (List (PyStr × Int))
  | .httpError text => .error (.fabricClient s!"price catalog fetch failed: {text}")
  | .otherError repr => .error (.httpx repr)
  | .response status statusError body =>
      if 200 ≤ status ∧ status < 300 then
        match body with
        | none => .error .jsonDecode
        | some (.array items) => do
            match ← catalogRows rt items with
            | none => .error (.fabricClient "price catalog fetch returned malformed rows")
            | some rows => .ok rows
        | some body =>
            let name := body.typeName
            .error (.fabricClient s!"price catalog fetch returned non-list payload: {name}")
      else .error (.fabricClient s!"price catalog fetch failed: {statusError}")

end Fabric

namespace FabricPriceSync

open Pricing

/-- `set_={"unit_price_cents": …, "updated_at": func.now()}`. -/
def fabricConflict (cents : Cents) (now : Time) : Update POSPrice POSPrice.sku where
  set p := { p with unitPriceCents := cents, updatedAt := now.timestamp }

/-- `payload[i : i + size]` for `i in range(0, len(payload), size)`. -/
def batches {α : Type} (size : Nat) (payload : List α) : List (List α) :=
  (List.range ((payload.length + size - 1) / size)).map fun i ↦ (payload.drop (i * size)).take size

/-- The statements of a sync; `clock i` is the time of the `i`-th. -/
def executeAll (limits : Limits) (clock : Nat → Time) (batches : List (List (PyStr × Int)))
    (prices : Table POSPrice POSPrice.sku) : Except PyExc (Table POSPrice POSPrice.sku) :=
  batches.zipIdx.foldlM (fun prices batch ↦
    execute limits fabricConflict (clock batch.2) batch.1 prices) prices

/-- `SyncResult`. -/
structure SyncResult where
  rowsFetched : Nat
  rowsUpserted : Nat
  error : Option String := none
deriving Repr, DecidableEq

/-- `sync_once`, on the tables that it finds; `batchSize` is `UPSERT_BATCH_SIZE`. -/
def syncOnce (rt : Runtime) (limits : Limits) (batchSize : Nat) (answer : FabricExchange)
    (clock : Nat → Time) (db : Db) : Except PyExc (SyncResult × Db) :=
  match Fabric.fetchPriceCatalog rt answer with
  | .error (.fabricClient message) => .ok (⟨0, 0, some message⟩, db)
  | .error e => .error e
  | .ok [] => .ok (⟨0, 0, none⟩, db)
  | .ok rows => do
      let posPrices ← executeAll limits clock (batches batchSize rows) db.posPrices
      return (⟨rows.length, rows.length, none⟩, { db with posPrices := posPrices })

end FabricPriceSync

end HightowerPos
