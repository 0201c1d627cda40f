import HightowerPos.Errors

/-!
# The Sentry client

`SentryClient` tries a request up to three times.  Here the outcome of each try is an
`Attempt`, and a method of the client is the function from the outcomes of its tries to
the value it returns or the exception it raises.  Between two tries the client touches
nothing that other handlers can see, so that a whole request is one await.

Schema validation belongs to pydantic, and `str` of a JSON value that is not a string
belongs to Python: both are parameters (`Runtime`).  The client is the one that talks
to a server, `sentry_mock = False`.
-/

namespace HightowerPos

/-! ## Messages -/

/-- A cart line as `validate_cart` sends it. -/
structure CartLine where
  sku : String
  warehouseId : String
  binId : String
  quantity : Int
deriving Repr, DecidableEq

structure ValidationResult where
  valid : Bool
  conflicts : List CartConflict := []
deriving Repr, DecidableEq

/-- A line of a sales order. -/
structure CheckoutLine where
  sku : String
  warehouseId : String
  binId : String
  quantity : Int
  unitPriceCents : Cents
  taxCents : Cents
  lineTotalCents : Cents
deriving Repr, DecidableEq

/-- `PaymentSummary` and `RefundSummary`. -/
structure PaymentSummary where
  method : PaymentMethod
  subtotalCents : Cents
  taxCents : Cents
  totalCents : Cents
  tenders : List Tender
deriving Repr, DecidableEq

structure CheckoutRequest where
  idempotencyKey : Id
  externalTxnRef : Option String
  cashierId : String
  terminalId : String
  completedAt : Time
  paymentSummary : PaymentSummary
  lines : List CheckoutLine
deriving Repr, DecidableEq

structure CheckoutResult where
  soId : String
deriving Repr, DecidableEq

structure RefundRequest where
  idempotencyKey : Id
  originalSoId : String
  originalExternalTxnRef : Option String
  externalRefundRef : Option String
  cashierId : String
  terminalId : String
  completedAt : Time
  refundSummary : PaymentSummary
deriving Repr, DecidableEq

structure RefundResult where
  refundSoId : String
deriving Repr, DecidableEq

/-! ## Requests -/

/-- The outcome of one try of a request. -/
inductive Attempt
  | /-- A response; the body is `none` where `r.json()` raises. -/
    response (status : Nat) (body : Option Json)
  | /-- `httpx.NetworkError`. -/
    networkError (repr : String)
  | /-- `httpx.TimeoutException`. -/
    timeout (repr : String)
  | /-- Any other exception of httpx. -/
    otherError (repr : String)

/-- The outcomes of the tries of one request, in order. -/
abbrev Attempts := Nat → Attempt

structure SentryResponse where
  statusCode : Nat
  body : Option Json

/-- `r.is_success`. -/
def SentryResponse.isSuccess (r : SentryResponse) : Bool :=
  200 ≤ r.statusCode ∧ r.statusCode < 300

/-- What the client takes from pydantic and from Python. -/
structure Runtime where
  /-- `str(v)` for a JSON value that is not a string.  It never holds a lone surrogate:
  inside a list or a dictionary strings are shown by `repr`, which escapes them. -/
  render : Json → String
  /-- `model_validate`; `none` is a `ValidationError`.  A `str` field never accepts a
  lone surrogate. -/
  validationResult : Json → Option ValidationResult
  checkoutResult : Json → Option CheckoutResult
  refundResult : Json → Option RefundResult
  /-- What SQLite stores for a float bound to a text column; a NaN becomes `NULL`. -/
  realText : String → Option String

/-- `str(v)`. -/
def Runtime.str (rt : Runtime) : Json → PyStr
  | .str s => s
  | v => PyStr.ofString (rt.render v)

namespace Sentry

def maxRetries : Nat := 3

/-- `last_exc`. -/
inductive LastExc
  | client (e : SentryClientError)
  | transport (repr : String)

/-- The loop of `_request`, with `left` tries to go. -/
def requestLoop (outcome : Attempts) (method path : String) :
    (left attempt : Nat) → Option LastExc → Except PyExc SentryResponse
  | 0, _, none => .error .assertion
  | 0, _, some (.client e) => .error (.sentryClient e)
  | 0, _, some (.transport repr) => .error (.sentryClient
      { message := .ofString s!"sentry request failed after {maxRetries} attempts: {repr}" })
  | left + 1, attempt, _ => match outcome attempt with
      | .response status body =>
          if 500 ≤ status ∧ status < 600 then
            requestLoop outcome method path left (attempt + 1) (some (.client
              { message := .ofString s!"sentry returned {status} for {method} {path}"
                statusCode := some status }))
          else .ok ⟨status, body⟩
      | .networkError repr | .timeout repr =>
          requestLoop outcome method path left (attempt + 1) (some (.transport repr))
      | .otherError repr => .error (.httpx repr)

/-- `_request`. -/
def request (outcome : Attempts) (method path : String) : Except PyExc SentryResponse :=
  requestLoop outcome method path maxRetries 0 none

/-- `_safe_json`. -/
def safeJson (r : SentryResponse) : Json :=
  match r.body with
  | some body => if body.isObject then body else .object []
  | none => .object []

/-- `_error_from_body`: the error code and the message. -/
def errorFromBody (rt : Runtime) (body : Json) (defaultKind : String) : PyStr × PyStr :=
  let kind := (body.get "error_kind").orElse ((body.get "error").orElse
    (.str (.ofString defaultKind)))
  let msg := (body.get "message").orElse kind
  (rt.str kind, rt.str msg)

/-- The `SentryClientError` that a response is turned into. -/
def errorOf (rt : Runtime) (r : SentryResponse) (defaultKind : String) : SentryClientError :=
  let e := errorFromBody rt (safeJson r) defaultKind
  { message := e.2, statusCode := some r.statusCode, errorCode := some e.1 }

/-- `_raise_for_status`. -/
def raiseForStatus (rt : Runtime) (r : SentryResponse) : Except PyExc Unit :=
  let status := r.statusCode
  if r.isSuccess then .ok ()
  else .error (.sentryClient (errorOf rt r s!"sentry_returned_{status}"))

/-- `Model.model_validate(r.json())`. -/
def parseBody {α : Type} (validate : Json → Option α) (r : SentryResponse) : Except PyExc α :=
  match r.body with
  | none => .error .jsonDecode
  | some body => match validate body with
      | none => .error .validation
      | some a => .ok a

/-- `validate_cart`. -/
def validateCart (rt : Runtime) (outcome : Attempts) : Except PyExc ValidationResult := do
  let r ← request outcome "POST" "/api/v1/pos/validate-cart"
  if r.statusCode = 409 then
    match rt.validationResult (safeJson r) with
    | none => .error .validation
    | some result => .ok result
  else
    raiseForStatus rt r
    parseBody rt.validationResult r

/-- The common end of `create_pos_so` and `create_pos_refund`: 409 and 422 are errors of
the kind `failed`, any other status outside 2xx one of its own kind. -/
def created {α : Type} (rt : Runtime) (validate : Json → Option α) (failed : String)
    (r : SentryResponse) : Except PyExc α := do
  if r.statusCode = 409 ∨ r.statusCode = 422 then
    .error (.sentryClient (errorOf rt r failed))
  else
    raiseForStatus rt r
    parseBody validate r

/-- `create_pos_so`. -/
def createPosSo (rt : Runtime) (outcome : Attempts) : Except PyExc CheckoutResult :=
  request outcome "POST" "/api/v1/pos/checkout" >>=
    created rt rt.checkoutResult "checkout_failed"

/-- `create_pos_refund`. -/
def createPosRefund (rt : Runtime) (outcome : Attempts) : Except PyExc RefundResult :=
  request outcome "POST" "/api/v1/pos/refund" >>=
    created rt rt.refundResult "refund_failed"

end Sentry

end HightowerPos
