import HightowerPos.Data.Paging
import HightowerPos.Routes

/-!
# The reports on till sessions

`list_sessions` and `list_session_transactions` of `routes/till.py`, with what they answer.  The
column `opened_at` holds a text without a fraction, and a bound of the query is bound as a text with
one: in the same second, the column is the smaller text.
-/

namespace HightowerPos

/-- The text in the column `status`. -/
def TillStatus.text : TillStatus → String
  | .open => "OPEN"
  | .closed => "CLOSED"

/-- `TillSessionSummary`. -/
structure TillSessionSummary where
  sessionId : Id
  cashierId : String
  terminalId : String
  status : TillStatus
  openingFloatCents : Cents
  cashSalesCents : Cents
  cashRefundsCents : Cents
  expectedClosingCents : Option Cents
  closingCountCents : Option Cents
  varianceCents : Option Cents
  transactionCount : Int
  cashTransactionCount : Int
  openedAt : Time
  closedAt : Option Time
  pdfUrl : Option String
deriving Repr, DecidableEq

/-- `TillSessionTransactionRow`. -/
structure TillSessionTransactionRow where
  id : Id
  txnType : TxnType
  status : Status
  paymentMethod : Option PaymentMethod
  totalCents : Cents
  sentrySoId : Option String
  cashierId : String
  createdAt : Time
deriving Repr, DecidableEq

/-- `TillSessionTransactionsResponse`. -/
structure TillSessionTransactions where
  sessionId : Id
  transactions : List TillSessionTransactionRow
deriving Repr, DecidableEq

namespace Till

open Async Paging

/-- `_pdf_url`. -/
def pdfUrl (uuid : Id → String) (sessionId : Id) : String :=
  "/api/till/sessions/" ++ uuid sessionId ++ "/pdf"

/-- `_session_summary`. -/
def sessionSummary (uuid : Id → String) (row : TillSession) : TillSessionSummary where
  sessionId := row.id
  cashierId := row.cashierId
  terminalId := row.terminalId
  status := row.status
  openingFloatCents := row.openingFloatCents
  cashSalesCents := row.cashSalesCents
  cashRefundsCents := row.cashRefundsCents
  expectedClosingCents := row.expectedClosingCents
  closingCountCents := row.closingCountCents
  varianceCents := row.varianceCents
  transactionCount := row.transactionCount
  cashTransactionCount := row.cashTransactionCount
  openedAt := row.openedAt
  closedAt := row.closedAt
  pdfUrl := if row.status = .closed then some (pdfUrl uuid row.id) else none

/-- The conditions of the query. -/
def matchesFilter (f : Route.SessionFilter) (s : TillSession) : Bool :=
  f.cashierId.all (s.cashierId = ·) &&
    f.status.all (fun status ↦ status = "" ∨ s.status.text = status) &&
    f.since.all (fun t : Time ↦ t.timestamp < s.openedAt) &&
    f.upTo.all (fun t : Time ↦ s.openedAt ≤ t)

/-- What is ordered by `opened_at`, the last one first. -/
def matchingSessions (db : Db) (f : Route.SessionFilter) : List TillSession :=
  (db.tillSessions.select (matchesFilter f)).insertionSort fun a b ↦ b.openedAt ≤ a.openedAt

/-- `list_sessions`. -/
def listSessions (uuid : Id → String) (f : Route.SessionFilter) :
    App (List TillSessionSummary) := do
  let w ← Prog.read
  return (page (matchingSessions w.db f) f.limit f.offset).map (sessionSummary uuid)

/-- A row of `list_session_transactions`. -/
def transactionRow (t : POSTransaction) : TillSessionTransactionRow where
  id := t.id
  txnType := t.txnType
  status := t.status
  paymentMethod := t.paymentMethod
  totalCents := t.totalCents
  sentrySoId := t.sentrySoId
  cashierId := t.cashierId
  createdAt := t.createdAt

/-- `list_session_transactions`. -/
def listSessionTransactions (sessionId : Id) : App TillSessionTransactions := do
  let w ← Prog.read
  match w.db.session sessionId with
  | none => .raise (.http 404 "session_not_found")
  | some session =>
      let txns := (w.db.posTransactions.select fun t ↦
        t.tillSessionId = some session.id).insertionSort fun a b ↦ a.createdAt ≤ b.createdAt
      return ⟨session.id, txns.map transactionRow⟩

end Till

end HightowerPos
