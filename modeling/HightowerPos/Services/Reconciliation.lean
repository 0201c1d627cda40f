import HightowerPos.Services.Refund

/-!
# Reconciliation

`services/reconciliation.py`: a payment that Sentry did not take is sent again, by the
admin route for one transaction or by the command line for all of them.
-/

namespace HightowerPos.Reconciliation

open Async

/-! ## What is assigned -/

/-- Sentry refused again. -/
def retryFailed (error : String) (retryCount : Nat) : TransactionUpdate where
  set t := { t with lastError := some error, retryCount := retryCount + 1 }

/-- Sentry has the order or the refund now. -/
def retried (soId : String) (retryCount : Nat) : TransactionUpdate where
  set t :=
    { t with
      status := .complete
      sentrySoId := some soId
      lastError := none
      retryCount := retryCount + 1 }

/-! ## One transaction -/

/-- What Sentry's answer makes of a sale that is sent again. -/
def finishRetrySale (rt : Runtime) (txn : POSTransaction) (outcome : Attempts) :
    App Bool := do
  match Sentry.createPosSo rt outcome with
  | .error (.sentryClient exc) =>
      let error ← App.bindText (Checkout.errorText exc)
      let _ ← App.saveTransaction txn (retryFailed error txn.retryCount)
      return false
  | .error e => .raise e
  | .ok result =>
      let _ ← App.saveTransaction txn (retried result.soId txn.retryCount)
      return true

/-- `retry_one_sale`. -/
def retryOneSale (rt : Runtime) (txn : POSTransaction) : App Bool := do
  let w ← Prog.read
  let request := Checkout.buildCheckoutRequest txn (txn.paymentMethod.getD .cash) w.now
  let outcome ← App.call (.sentryCreatePosSo request)
  finishRetrySale rt txn outcome

/-- What Sentry's answer makes of a refund that is sent again. -/
def finishRetryRefund (rt : Runtime) (refund original : POSTransaction)
    (outcome : Attempts) : App Bool := do
  match Sentry.createPosRefund rt outcome with
  | .error (.sentryClient exc) =>
      let error ← App.bindText (Checkout.errorText exc)
      let _ ← App.saveTransaction refund (retryFailed error refund.retryCount)
      return false
  | .error e => .raise e
  | .ok result =>
      App.commit fun w ↦
        (w.updateTransaction refund.id
          (retried result.refundSoId refund.retryCount)).updateTransaction
          original.id (Refund.linked refund.id)
      return true

/-- `retry_one_refund`. -/
def retryOneRefund (rt : Runtime) (refund : POSTransaction) : App Bool := do
  let w ← Prog.read
  match refund.parentTransactionId.bind w.db.transaction with
  | none => return false
  | some original =>
      let request := Refund.buildRefundRequest refund original w.now
      let outcome ← App.call (.sentryCreatePosRefund request)
      finishRetryRefund rt refund original outcome

/-- The admin route `retry_sentry`. -/
def retrySentry (rt : Runtime) (transactionId : Id) : App Unit := do
  match ← App.getTransaction transactionId with
  | none => .raise (.http 404 "transaction_not_found")
  | some txn =>
      match txn.txnType with
      | .sale =>
          if txn.status ≠ .inventoryUpdateFailed then .raise (.http 400 "invalid_state")
          else
            let _ ← retryOneSale rt txn
            return ()
      | .refund =>
          if txn.status ≠ .refundInventoryUpdateFailed then .raise (.http 400 "invalid_state")
          else
            let _ ← retryOneRefund rt txn
            return ()

/-! ## All of them -/

/-- `RetryReport`. -/
structure RetryReport where
  scanned : Nat := 0
  succeeded : List Id := []
  stillFailing : List Id := []
deriving Repr, DecidableEq

/-- The loop of the two batch commands. -/
def retryAll (retryOne : POSTransaction → App Bool) :
    List POSTransaction → RetryReport → App RetryReport
  | [], report => return report
  | txn :: txns, report => do
      if ← retryOne txn then
        retryAll retryOne txns { report with succeeded := report.succeeded ++ [txn.id] }
      else
        retryAll retryOne txns { report with stillFailing := report.stillFailing ++ [txn.id] }

/-- The rows a batch command scans. -/
def rowsIn (type : TxnType) (status : Status) : App (List POSTransaction) := do
  let w ← Prog.read
  return w.db.posTransactions.select fun t ↦ t.txnType = type ∧ t.status = status

/-- `retry_failed_sales`. -/
def retryFailedSales (rt : Runtime) : App RetryReport := do
  let rows ← rowsIn .sale .inventoryUpdateFailed
  retryAll (retryOneSale rt) rows { scanned := rows.length }

/-- `retry_failed_refunds`. -/
def retryFailedRefunds (rt : Runtime) : App RetryReport := do
  let rows ← rowsIn .refund .refundInventoryUpdateFailed
  retryAll (retryOneRefund rt) rows { scanned := rows.length }

end HightowerPos.Reconciliation
