import HightowerPos.Models
import HightowerPos.Python.Text

/-!
# Exceptions

The exceptions that the modelled code raises, catches or lets through, with the codes,
the HTTP statuses and the details that reach the client.
-/

namespace HightowerPos

/-- A conflict that Sentry reports for a cart line. -/
structure CartConflict where
  lineIndex : Int
  sku : String
  warehouseId : String
  binId : String
  requestedQty : Int
  availableQty : Int
  reason : String
deriving Repr, DecidableEq

/-- `CheckoutError`, with its extra details. -/
inductive CheckoutError
  | priceMissing (skusWithoutPrice : List String)
  | sentryUnavailable
  | validationFailed (conflicts : List CartConflict)
  | insufficientTender (totalCents : Cents)
  | windcaveUnavailable
  | transactionNotFound
  | invalidState (currentStatus : Status)
  | notACompletedSale (currentStatus : Status)
  | refundWindowExpired (daysSinceSale : Int)
  | alreadyRefunded (refundTransactionId : Id)
  | tenderMismatch (expected : PaymentMethod)
  | missingOriginalDpsTxnRef
deriving Repr, DecidableEq

namespace CheckoutError

/-- `exc.code`. -/
def code : CheckoutError → String
  | priceMissing _ => "price_missing"
  | sentryUnavailable => "sentry_unavailable"
  | validationFailed _ => "validation_failed"
  | insufficientTender _ => "insufficient_tender"
  | windcaveUnavailable => "windcave_unavailable"
  | transactionNotFound => "transaction_not_found"
  | invalidState _ => "invalid_state"
  | notACompletedSale _ => "not_a_completed_sale"
  | refundWindowExpired _ => "refund_window_expired"
  | alreadyRefunded _ => "already_refunded"
  | tenderMismatch _ => "tender_mismatch"
  | missingOriginalDpsTxnRef => "missing_original_dps_txn_ref"

end CheckoutError

/-- `TillError`, with its details. -/
inductive TillError
  | alreadyOpen (existingSessionId : Id)
  | noOpenSession
  | invalidDenomination (key : String)
  | negativeOrNonIntegerCount (key : String) (value : Int)
deriving Repr, DecidableEq

/-- `SentryClientError`: `message` is `str(exc)`, `errorCode` the text of
`exc.error_code`. -/
structure SentryClientError where
  message : PyStr
  statusCode : Option Nat := none
  errorCode : Option PyStr := none
deriving Repr, DecidableEq

/-- `PricingError`. -/
inductive PricingError
  | emptyCsv
  | badHeader (header : List String)
  | tooManyRows (rows : Nat) (maxRows : Int)
deriving Repr, DecidableEq

/-- `EXPECTED_HEADER`. -/
def expectedHeader : List String := ["sku", "price"]

/-- What the modelled code can raise. -/
inductive PyExc
  | checkout (e : CheckoutError)
  | till (e : TillError)
  | /-- `HTTPException` of an admin route. -/
    http (statusCode : Nat) (error : String)
  | sentryClient (e : SentryClientError)
  | windcaveClient (message : String)
  | fabricClient (message : String)
  | /-- An exception of httpx that the client in question does not handle. -/
    httpx (repr : String)
  | /-- `r.json()` on a body that is not JSON. -/
    jsonDecode
  | /-- `model_validate` on a value of another shape. -/
    validation
  | /-- A text with a lone surrogate is bound to a statement. -/
    unicodeEncode
  | /-- A value of a type that SQLite does not take is bound to a statement. -/
    interface
  | /-- An integer beyond 64 bits is bound to a statement, or a quotient is beyond the floats. -/
    overflow
  | /-- A unique index refuses a row. -/
    integrity
  | value (message : String)
  | invalidOperation
  | /-- `decimal.Overflow`. -/
    decimalOverflow
  | assertion
  | pricing (e : PricingError)
  | /-- `csv.Error`. -/
    csv (message : String)
  | /-- SQLite refuses a statement that is too large. -/
    operational
deriving Repr, DecidableEq

end HightowerPos
