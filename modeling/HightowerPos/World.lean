import HightowerPos.Async.Serial
import HightowerPos.Async.Protocol
import HightowerPos.Async.Stretch
import HightowerPos.Clients.Fabric
import HightowerPos.Clients.Windcave

/-!
# The shared state and the calls

A handler of the service is a program (`App`) over the `World`: the database, the
clock, and what Windcave makes of the transactions posted to it.  A handler awaits the
answers to `Call`s.

One access to the database is atomic.  A `read` sees the committed rows.  A commit
writes just the columns it assigns: a handler keeps the row it loaded, so a value it
read before an await may be stale when it is used, but a column it does not assign is
not written back.
-/

namespace HightowerPos

open Async

/-! ## Calls and answers -/

/-- The payload of an inbound activity log entry. -/
inductive InboundPayload
  | checkout (request : CheckoutRequest)
  | refund (request : RefundRequest)

/-- What a handler awaits.  `elapsedMs` is the poller's own clock, which is not sent. -/
inductive Call
  | windcaveCharge (amountCents : Cents) (txnRef : Id)
  | windcaveRefund (amountCents : Cents) (originalDpsTxnRef : String) (txnRef : Id)
  | windcaveStatus (txnRef : Id) (elapsedMs : Int)
  | windcaveCancel (txnRef : Id)
  | /-- The response goes out; what a route leaves behind starts after it. -/
    respond (txnRef : Id)
  | pollSleep (txnRef : Id) (elapsedMs : Int)
  | /-- A poll loop whose iterations exceed what the model follows: it never ends. -/
    pollOn (txnRef : Id)
  | sentryValidateCart (lines : List CartLine)
  | sentryCreatePosSo (request : CheckoutRequest)
  | sentryCreatePosRefund (request : RefundRequest)
  | sentryLogInboundActivity (eventType : String) (payload : InboundPayload)
      (errorContext : PyStr)
  | fabricWriteSalesOrder (entry : Id) (payload : FabricPayload)
  | drainSleep (seconds : Int)
  | /-- The report is rendered; it is `none` when the renderer raises. -/
    renderCloseReport (session : TillSession)

/-- The answer to a call: what the client's method returns or raises for Windcave, the
outcomes of the tries for Sentry, the exchange for Fabric. -/
@[reducible] def Answer : Call → Type
  | .windcaveCharge _ _ | .windcaveRefund _ _ _ | .windcaveStatus _ _ =>
      Except PyExc WindcaveStatusResponse
  | .windcaveCancel _ => Except PyExc Bool
  | .respond _ | .pollSleep _ _ | .drainSleep _ => Unit
  | .pollOn _ => Empty
  | .sentryValidateCart _ | .sentryCreatePosSo _ | .sentryCreatePosRefund _
  | .sentryLogInboundActivity _ _ _ => Attempts
  | .fabricWriteSalesOrder _ _ => FabricExchange
  | .renderCloseReport _ => Option String

/-! ## The world -/

/-- What a posted Windcave transaction is. -/
inductive PostedKind
  | purchase
  | refund
deriving Repr, DecidableEq

/-- What Windcave has made of a posted transaction. -/
inductive Outcome
  | pending
  | approved
  | declined
deriving Repr, DecidableEq

/-- A transaction posted to Windcave; one that does not reach it is `declined` in the end. -/
structure Posted where
  txnRef : Id
  kind : PostedKind
  amountCents : Cents
  outcome : Outcome := .pending
deriving Repr, DecidableEq

/-- A commit of a transaction row: the row it left, and the session that was open for
the row's cashier at that moment.  The journal is a record for the statements about
runs; no handler reads it. -/
structure JournalEntry where
  row : POSTransaction
  openTill : Option Id
deriving Repr, DecidableEq

structure World where
  db : Db
  now : Time
  acquirer : List Posted := []
  journal : List JournalEntry := []

/-- Programs of the service. -/
abbrev App := Prog World Call Answer PyExc

/-- The calls that post a transaction to Windcave.  `_raw_post` posts it again, `MAX_RETRIES` times
in all, after a timeout, a network error or a status of 500 and more, each time under the same
`TxnRef`; how often is not counted. -/
def Call.Posts : Call → Prop
  | .windcaveCharge _ _ | .windcaveRefund _ _ _ => True
  | _ => False

/-- A call that posts a transaction to Windcave makes it pending there, each time it is posted. -/
def World.send : Call → World → World
  | .windcaveCharge amount ref, w =>
      { w with acquirer := w.acquirer ++ [⟨ref, .purchase, amount, .pending⟩] }
  | .windcaveRefund amount _ ref, w =>
      { w with acquirer := w.acquirer ++ [⟨ref, .refund, amount, .pending⟩] }
  | _, w => w

/-- A call writes nothing to the database. -/
@[simp] theorem World.send_db (q : Call) (w : World) : (w.send q).db = w.db := by
  cases q <;> rfl

@[simp] theorem World.send_journal (q : Call) (w : World) : (w.send q).journal = w.journal := by
  cases q <;> rfl

/-! ## Statements -/

namespace Db

/-- The OPEN session of a cashier: the query of `get_open_session`. -/
def openSession (db : Db) (cashierId : String) : Option TillSession :=
  db.tillSessions.first? fun s ↦ s.cashierId = cashierId ∧ s.status = .open

/-- The session that is found is the cashier's, and OPEN. -/
theorem openSession_spec {db : Db} {cashierId : String} {s : TillSession}
    (h : db.openSession cashierId = some s) :
    db.session s.id = some s ∧ s.cashierId = cashierId ∧ s.status = .open := by
  unfold openSession Table.first? at h
  have hs := List.find?_some h
  rw [decide_eq_true_eq] at hs
  exact ⟨Table.get?_of_mem (List.mem_of_find?_eq_some h), hs⟩

end Db

/-- An update that also assigns `updated_at`, as `onupdate` does. -/
def TransactionUpdate.touch (u : TransactionUpdate) (now : Time) : TransactionUpdate where
  set t := { u.set t with updatedAt := now.timestamp }
  keeps t := u.keeps t

/-- The same for the outbox. -/
def OutboxUpdate.touch (u : OutboxUpdate) (now : Time) : OutboxUpdate where
  set e := { u.set e with updatedAt := now.timestamp }
  keeps e := u.keeps e

namespace World

/-- `UPDATE pos_transactions`. -/
def updateTransaction (w : World) (id : Id) (u : TransactionUpdate) : World :=
  let table := w.db.posTransactions.modify id (u.touch w.now)
  { w with
    db := { w.db with posTransactions := table }
    journal := w.journal ++ ((table.get? id).map fun row ↦
      ⟨row, (w.db.openSession row.cashierId).map (·.id)⟩).toList }

/-- `INSERT INTO pos_transactions`. -/
def addTransaction (w : World) (d : Draft POSTransaction POSTransaction.id) : World :=
  { w with db := { w.db with posTransactions := w.db.posTransactions.add d } }

/-- `UPDATE till_sessions`. -/
def updateSession (w : World) (id : Id) (u : TillUpdate) : World :=
  { w with db := { w.db with tillSessions := w.db.tillSessions.modify id u } }

/-- `INSERT INTO till_sessions`. -/
def addSession (w : World) (d : Draft TillSession TillSession.id) : World :=
  { w with db := { w.db with tillSessions := w.db.tillSessions.add d } }

/-- `UPDATE fabric_outbox`. -/
def updateOutboxEntry (w : World) (id : Id) (u : OutboxUpdate) : World :=
  { w with db := { w.db with fabricOutbox := w.db.fabricOutbox.modify id (u.touch w.now) } }

/-- `INSERT INTO fabric_outbox`. -/
def addOutboxEntry (w : World) (d : Draft FabricOutboxEntry FabricOutboxEntry.id) : World :=
  { w with db := { w.db with fabricOutbox := w.db.fabricOutbox.add d } }

end World

/-! ## What a commit leaves -/

/-- A row without the columns that commits assign: what a new row is given for good. -/
def POSTransaction.origin (t : POSTransaction) : POSTransaction :=
  { t with
    status := .pendingValidation
    refundTransactionId := none
    paymentMethod := none
    tenders := none
    windcaveTxnRef := none
    windcaveResponseXml := none
    sentrySoId := none
    lastError := none
    retryCount := 0
    tillSessionId := none
    updatedAt := 0 }

/-- A column of the origin. -/
theorem POSTransaction.eq_of_origin {β : Type} {t t' : POSTransaction} (h : t'.origin = t.origin)
    (f : POSTransaction → β) (hf : ∀ t, f t.origin = f t := by intro; rfl) : f t' = f t := by
  rw [← hf t', h, hf]

/-- The committed status of a transaction. -/
def World.status (w : World) (x : Id) : Option Status := (w.db.transaction x).map (·.status)

/-- From `w` to `w'` the row `x` was updated by `u`; the other transactions and what
Windcave holds are the same. -/
structure World.Updated (x : Id) (u : TransactionUpdate) (w w' : World) : Prop where
  row : w'.db.transaction x = (w.db.transaction x).map (u.touch w.now).set
  others : ∀ y, y ≠ x → w'.db.transaction y = w.db.transaction y
  acquirer : w'.acquirer = w.acquirer

namespace World

theorem status_of_row {w : World} {x : Id} {txn : POSTransaction}
    (h : w.db.transaction x = some txn) : w.status x = some txn.status := by
  rw [World.status, h, Option.map_some]

/-- The status after an update that assigns one. -/
theorem Updated.status {w w' : World} {x : Id} {u : TransactionUpdate}
    (h : w.Updated x u w') {s : Status} (hs : ∀ t, (u.set t).status = s) (hx : w.status x ≠ none) :
    w'.status x = some s := by
  unfold World.status at hx ⊢
  rw [h.row]
  cases hrow : w.db.transaction x with
  | none => simp [hrow] at hx
  | some txn => simp [TransactionUpdate.touch, hs]

theorem Updated.status_ne {w w' : World} {x y : Id} {u : TransactionUpdate}
    (h : w.Updated x u w') (hy : y ≠ x) : w'.status y = w.status y := by
  unfold World.status
  rw [h.others y hy]

/-- A row after an update: it is the same, or it is the updated one. -/
theorem Updated.row_of {w w' : World} {x y : Id} {u : TransactionUpdate}
    (h : w.Updated x u w') {t : POSTransaction} (ht : w.db.transaction y = some t) :
    ∃ t', w'.db.transaction y = some t' ∧ (t' = t ∨ t' = (u.touch w.now).set t) := by
  by_cases hy : y = x
  · subst hy
    exact ⟨_, by rw [h.row, ht, Option.map_some], .inr rfl⟩
  · exact ⟨t, (h.others y hy).trans ht, .inl rfl⟩

theorem updated_updateTransaction (w : World) (x : Id) (u : TransactionUpdate) :
    w.Updated x u (w.updateTransaction x u) where
  row := Table.get?_modify_self
  others _ h := Table.get?_modify_ne h
  acquirer := rfl

theorem Updated.addOutboxEntry {w w' : World} {x : Id} {u : TransactionUpdate}
    (h : w.Updated x u w') (d : Draft FabricOutboxEntry FabricOutboxEntry.id) :
    w.Updated x u (w'.addOutboxEntry d) := ⟨h.row, h.others, h.acquirer⟩

theorem Updated.updateSession {w w' : World} {x s : Id} {u : TransactionUpdate}
    (h : w.Updated x u w') (v : TillUpdate) : w.Updated x u (w'.updateSession s v) :=
  ⟨h.row, h.others, h.acquirer⟩

end World

/-! ## Accesses -/

namespace App

/-- Await the answer to a call. -/
def call (q : Call) : App (Answer q) := Prog.call q

/-- Write, in one transaction. -/
def commit (f : World → World) : App Unit := Prog.commit fun w ↦ .ok (f w)

/-- `db.get(POSTransaction, id)`. -/
def getTransaction (id : Id) : App (Option POSTransaction) := do
  let w ← Prog.read
  return w.db.transaction id

/-- Assign columns of a loaded row and commit.  The loaded row keeps the values it had
in every other column. -/
def saveTransaction (txn : POSTransaction) (u : TransactionUpdate) : App POSTransaction :=
  .atomic (fun w ↦ .ok (w.updateTransaction txn.id u)) fun w ↦
    .pure ((u.touch w.now).set txn)

/-- Bind a text to a statement. -/
def bindText (s : PyStr) : App String :=
  match s.encode with
  | some t => .pure t
  | none => .raise .unicodeEncode

/-- An `INTEGER` column of SQLite takes 64 bits; `sqlite3` raises `OverflowError` for more. -/
abbrev FitsInteger (n : Int) : Prop := -2 ^ 63 ≤ n ∧ n < 2 ^ 63

/-- Bind integers to a statement. -/
def bindIntegers (ns : List Int) : App Unit :=
  if ∀ n ∈ ns, FitsInteger n then .pure () else .raise .overflow

/-- `return` or `raise`. -/
def ofExcept {α : Type} : Except PyExc α → App α
  | .ok a => .pure a
  | .error e => .raise e

variable {γ α : Type} {C : Calculus World Call Answer γ} {g : γ} {w : World}

@[simp] theorem wp_call (q : Call) (post : γ → Except PyExc (Answer q) → World → Prop) :
    (call q).wp C post g w = C.await g w q fun a g' w' ↦ post g' (.ok a) w' := rfl

@[simp] theorem wp_commit (f : World → World) (post : γ → Except PyExc Unit → World → Prop) :
    (commit f).wp C post g w = (C.write w (f w) ∧ post g (.ok ()) (f w)) := rfl

@[simp] theorem wp_getTransaction (id : Id)
    (post : γ → Except PyExc (Option POSTransaction) → World → Prop) :
    (getTransaction id).wp C post g w = post g (.ok (w.db.transaction id)) w := by
  simp [getTransaction]

/-- A row is loaded. -/
theorem stretch_getTransaction (id : Id) (f : Option POSTransaction → App α) :
    (getTransaction id >>= f).stretch World.send w =
      (f (w.db.transaction id)).stretch World.send w := rfl

/-- The loaded row keeps its id. -/
theorem id_touch_set (u : TransactionUpdate) (now : Time) (txn : POSTransaction) :
    ((u.touch now).set txn).id = txn.id := (u.touch now).keeps txn

@[simp] theorem wp_saveTransaction (txn : POSTransaction) (u : TransactionUpdate)
    (post : γ → Except PyExc POSTransaction → World → Prop) :
    (saveTransaction txn u).wp C post g w =
      (C.write w (w.updateTransaction txn.id u) ∧
        post g (.ok ((u.touch w.now).set txn)) (w.updateTransaction txn.id u)) := rfl

@[simp] theorem wp_ofExcept (r : Except PyExc α) (post : γ → Except PyExc α → World → Prop) :
    (ofExcept r).wp C post g w = post g r w := by
  cases r <;> rfl

/-- A text is bound, or it holds a lone surrogate. -/
theorem wp_bindText {s : PyStr} {post : γ → Except PyExc String → World → Prop}
    (hok : ∀ t, s.encode = some t → post g (.ok t) w)
    (herr : s.encode = none → post g (.error .unicodeEncode) w) :
    (bindText s).wp C post g w := by
  unfold bindText
  cases h : s.encode with
  | some t => exact hok t h
  | none => exact herr h

theorem bindIntegers_of_fit {ns : List Int} (h : ∀ n ∈ ns, FitsInteger n) :
    bindIntegers ns = .pure () := if_pos h

theorem bindIntegers_of_not_fit {ns : List Int} (h : ¬ ∀ n ∈ ns, FitsInteger n) :
    bindIntegers ns = .raise .overflow := if_neg h

/-- Integers are bound, or one of them is too large. -/
theorem wp_bindIntegers {ns : List Int} {post : γ → Except PyExc Unit → World → Prop}
    (hok : post g (.ok ()) w) (herr : post g (.error .overflow) w) :
    (bindIntegers ns).wp C post g w := by
  by_cases h : ∀ n ∈ ns, FitsInteger n
  · rw [bindIntegers_of_fit h]
    exact hok
  · rw [bindIntegers_of_not_fit h]
    exact herr

end App

end HightowerPos
