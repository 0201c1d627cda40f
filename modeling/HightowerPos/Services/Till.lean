import HightowerPos.Data.Collect
import HightowerPos.World
import Mathlib.Algebra.Order.BigOperators.Group.List

/-!
# Till sessions

`services/till.py` and the till routes.  `attribute_transaction` assigns columns of a
session that its caller commits: it returns them as an `Attribution`.
-/

namespace HightowerPos.Till

open Async

/-! ## Denominations -/

/-- `DENOMINATIONS`. -/
def denominations : List (String × Cents) :=
  [("hundred", 10000), ("fifty", 5000), ("twenty", 2000), ("ten", 1000), ("five", 500),
    ("one", 100), ("quarter", 25), ("dime", 10), ("nickel", 5), ("penny", 1)]

/-- `DENOMINATION_KEYS`. -/
def denominationKeys : List String := denominations.map (·.1)

/-- The second loop of `denominations_to_cents`. -/
def sumCounts (counts : Denominations) : List (String × Cents) → Except TillError Cents
  | [] => .ok 0
  | (name, value) :: rest =>
      let qty := (counts.lookup name).getD 0
      if qty < 0 then .error (.negativeOrNonIntegerCount name qty)
      else (sumCounts counts rest).map (qty * value + ·)

/-- `denominations_to_cents`. -/
def denominationsToCents (counts : Denominations) : Except TillError Cents :=
  match counts.find? fun kv ↦ kv.1 ∉ denominationKeys with
  | some kv => .error (.invalidDenomination kv.1)
  | none => sumCounts counts denominations

/-- The loop gives an amount exactly where no count is negative. -/
theorem sumCounts_eq_ok_iff (counts : Denominations) (l : List (String × Cents)) (total : Cents) :
    sumCounts counts l = .ok total ↔ (∀ d ∈ l, 0 ≤ (counts.lookup d.1).getD 0) ∧
      (l.map fun d ↦ (counts.lookup d.1).getD 0 * d.2).sum = total := by
  induction l generalizing total with
  | nil =>
      rw [sumCounts, List.map_nil, List.sum_nil, Except.ok.injEq]
      exact ⟨fun h ↦ ⟨fun _ hd ↦ absurd hd List.not_mem_nil, h⟩, fun h ↦ h.2⟩
  | cons d l ih =>
      simp only [sumCounts]
      rw [List.forall_mem_cons, List.map_cons, List.sum_cons]
      by_cases hneg : (counts.lookup d.1).getD 0 < 0
      · rw [if_pos hneg]
        constructor
        · intro h
          cases h
        · intro h
          exact absurd h.1.1 (not_le.mpr hneg)
      · rw [if_neg hneg]
        constructor
        · intro h
          obtain ⟨rest, hrest, rfl⟩ := exists_of_map_ok h
          obtain ⟨hall, rfl⟩ := (ih rest).mp hrest
          exact ⟨⟨not_lt.mp hneg, hall⟩, rfl⟩
        · rintro ⟨⟨-, hall⟩, rfl⟩
          rw [(ih _).mpr ⟨hall, rfl⟩]
          rfl

/-- An amount that the denominations add up to: none of them is counted negative. -/
theorem denominationsToCents_eq {counts : Denominations} {total : Cents}
    (h : denominationsToCents counts = .ok total) :
    (∀ d ∈ denominations, 0 ≤ (counts.lookup d.1).getD 0) ∧
      (denominations.map fun d ↦ (counts.lookup d.1).getD 0 * d.2).sum = total := by
  unfold denominationsToCents at h
  split at h
  · cases h
  · exact (sumCounts_eq_ok_iff ..).mp h

/-- A drawer holds no less than nothing. -/
theorem nonneg_of_denominationsToCents {counts : Denominations} {total : Cents}
    (h : denominationsToCents counts = .ok total) : 0 ≤ total := by
  obtain ⟨hcounts, rfl⟩ := denominationsToCents_eq h
  apply List.sum_nonneg
  intro cents hcents
  obtain ⟨d, hd, rfl⟩ := List.mem_map.mp hcents
  have hvalue : ∀ d ∈ denominations, 0 ≤ d.2 := by decide
  exact Int.mul_nonneg (hcounts d hd) (hvalue d hd)

/-- Go on with an amount, or raise. -/
def ofTill {α : Type} : Except TillError α → App α
  | .ok a => .pure a
  | .error e => .raise (.till e)

/-- An amount, or a refusal. -/
theorem wp_ofTill {γ α : Type} {C : Calculus World Call Answer γ} {g : γ} {w : World}
    {r : Except TillError α} {post : γ → Except PyExc α → World → Prop}
    (hok : ∀ a, r = .ok a → post g (.ok a) w)
    (herr : ∀ e, post g (.error (.till e)) w) : (ofTill r).wp C post g w := by
  cases r with
  | ok a => exact hok a rfl
  | error e => exact herr e

/-! ## Sessions -/

/-- `get_open_session`. -/
def getOpenSession (cashierId : String) : App (Option TillSession) := do
  let w ← Prog.read
  return w.db.openSession cashierId

@[simp] theorem wp_getOpenSession {γ : Type} {C : Calculus World Call Answer γ} {g : γ}
    {w : World} (cashierId : String)
    (post : γ → Except PyExc (Option TillSession) → World → Prop) :
    (getOpenSession cashierId).wp C post g w = post g (.ok (w.db.openSession cashierId)) w := by
  simp [getOpenSession]

/-- The OPEN session is looked up. -/
theorem stretch_getOpenSession {α : Type} {w : World} (cashierId : String)
    (f : Option TillSession → App α) :
    (getOpenSession cashierId >>= f).stretch World.send w =
      (f (w.db.openSession cashierId)).stretch World.send w := rfl

/-- `opening_float + cash_sales - cash_refunds`. -/
def expectedClosing (session : TillSession) : Cents :=
  session.openingFloatCents + session.cashSalesCents - session.cashRefundsCents

/-- The row that `open_session` stores. -/
def newSession (cashierId terminalId : String) (openingFloat : Cents)
    (opening : Denominations) (now : Time) : Draft TillSession TillSession.id where
  build id :=
    { id := id
      cashierId := cashierId
      terminalId := terminalId
      status := .open
      openingFloatCents := openingFloat
      openingDenominations := opening
      openedAt := now.timestamp }

/-- Store a session; the partial unique index refuses a second OPEN one. -/
def storeSession (cashierId terminalId : String) (openingFloat : Cents)
    (opening : Denominations) : App TillSession :=
  .atomic (fun w ↦
      if (w.db.openSession cashierId).isSome then .error .integrity
      else .ok (w.addSession (newSession cashierId terminalId openingFloat opening w.now)))
    fun w ↦ .pure ((newSession cashierId terminalId openingFloat opening w.now).build
      w.db.tillSessions.fresh)

/-- A session is stored when the cashier has none open. -/
theorem wp_storeSession {γ : Type} {C : Calculus World Call Answer γ} {g : γ} {w : World}
    {cashierId terminalId : String} {float : Cents} {opening : Denominations}
    {post : γ → Except PyExc TillSession → World → Prop}
    (hnone : w.db.openSession cashierId = none)
    (h : C.write w (w.addSession (newSession cashierId terminalId float opening w.now)) ∧
      ∀ s, post g (.ok s) (w.addSession (newSession cashierId terminalId float opening w.now))) :
    (storeSession cashierId terminalId float opening).wp C post g w := by
  unfold storeSession
  simp only [Prog.wp, hnone, Option.isSome_none, Bool.false_eq_true, if_false]
  exact ⟨h.1, h.2 _⟩

/-- `open_session`. -/
def openSession (cashierId terminalId : String) (openingDenominations : Denominations) :
    App TillSession := do
  match ← getOpenSession cashierId with
  | some existing => .raise (.till (.alreadyOpen existing.id))
  | none =>
      let openingFloat ← ofTill (denominationsToCents openingDenominations)
      App.bindIntegers [openingFloat]
      storeSession cashierId terminalId openingFloat openingDenominations

/-- The columns `close_session` assigns, from the row it read. -/
def closing (session : TillSession) (closingCount : Cents) (counts : Denominations)
    (now : Time) : TillUpdate where
  set s :=
    { s with
      status := .closed
      closingDenominations := some counts
      closingCountCents := some closingCount
      expectedClosingCents := some (expectedClosing session)
      varianceCents := some (closingCount - expectedClosing session)
      closedAt := some now }

/-- The integers that `close_session` assigns. -/
def closingIntegers (session : TillSession) (closingCount : Cents) : List Int :=
  [closingCount, expectedClosing session, closingCount - expectedClosing session]

/-- The column `_try_render_pdf` assigns. -/
def withPdfPath (path : String) : TillUpdate where
  set s := { s with pdfPath := some path }

/-- `_try_render_pdf`. -/
def tryRenderPdf (session : TillSession) : App Unit := do
  let w ← Prog.read
  match w.db.posUsers.get? session.cashierId with
  | none => return ()
  | some _ =>
      let rendered : Option String ← App.call (.renderCloseReport session)
      match rendered with
      | none => return ()
      | some path => App.commit fun w ↦ w.updateSession session.id (withPdfPath path)

/-- `close_session`; `renders` says that it was given the settings, as the route does. -/
def closeSession (cashierId : String) (closingDenominations : Denominations)
    (renders : Bool) : App Unit := do
  match ← getOpenSession cashierId with
  | none => .raise (.till .noOpenSession)
  | some session =>
      let closingCount ← ofTill (denominationsToCents closingDenominations)
      App.bindIntegers (closingIntegers session closingCount)
      App.commit fun w ↦ w.updateSession session.id
        (closing session closingCount closingDenominations w.now)
      -- `db.refresh(session)`
      let w ← Prog.read
      if renders then
        match w.db.session session.id with
        | some session => tryRenderPdf session
        | none => .raise .assertion
      else return ()

section Stretches

variable {w : World} {cashierId : String} {counts : Denominations}

/-- A till that is opened. -/
theorem stretch_openSession {float : Cents} (hnone : w.db.openSession cashierId = none)
    (h : denominationsToCents counts = .ok float) (hfits : App.FitsInteger float)
    (terminalId : String) :
    (openSession cashierId terminalId counts).stretch World.send w =
      (w.addSession (newSession cashierId terminalId float counts w.now), .over
        (.ok ((newSession cashierId terminalId float counts w.now).build
          w.db.tillSessions.fresh))) := by
  rw [openSession, stretch_getOpenSession, hnone, h]
  simp only [ofTill, Prog.pure_bind,
    App.bindIntegers_of_fit (List.forall_mem_singleton.mpr hfits)]
  unfold storeSession
  simp only [Prog.stretch, hnone, Option.isSome_none, Bool.false_eq_true, if_false]

/-- A float that is too large. -/
theorem stretch_openSession_overflow {float : Cents} (hnone : w.db.openSession cashierId = none)
    (h : denominationsToCents counts = .ok float) (hfits : ¬ App.FitsInteger float)
    (terminalId : String) :
    (openSession cashierId terminalId counts).stretch World.send w =
      (w, .over (.error .overflow)) := by
  rw [openSession, stretch_getOpenSession, hnone, h]
  simp only [ofTill, Prog.pure_bind,
    App.bindIntegers_of_not_fit fun hall ↦ hfits (List.forall_mem_singleton.mp hall)]
  rfl

/-- The report is rendered after a close. -/
theorem stretch_tryRenderPdf (session : TillSession) :
    ((tryRenderPdf session).stretch World.send w).1 = w := by
  rw [tryRenderPdf, Prog.stretch_read_bind]
  cases w.db.posUsers.get? session.cashierId with
  | none => rfl
  | some user => rfl

variable {s : TillSession} {closingCount : Cents}

/-- A till that is closed. -/
theorem stretch_closeSession (hs : w.db.openSession cashierId = some s)
    (h : denominationsToCents counts = .ok closingCount)
    (hfit : ∀ n ∈ closingIntegers s closingCount, App.FitsInteger n) (renders : Bool) :
    ((closeSession cashierId counts renders).stretch World.send w).1 =
      w.updateSession s.id (closing s closingCount counts w.now) := by
  rw [closeSession, stretch_getOpenSession, hs, h]
  simp only [ofTill, Prog.pure_bind, App.bindIntegers_of_fit hfit]
  rw [Prog.stretch_bind]
  show (Prog.stretch World.send (Prog.read >>= _) _).1 = _
  rw [Prog.stretch_read_bind]
  cases renders with
  | false => rfl
  | true =>
      simp only [if_true]
      cases (w.updateSession s.id (closing s closingCount counts w.now)).db.session s.id with
      | none => rfl
      | some session => exact stretch_tryRenderPdf session

/-- An amount of the close is too large. -/
theorem stretch_closeSession_overflow (hs : w.db.openSession cashierId = some s)
    (h : denominationsToCents counts = .ok closingCount)
    (hfit : ¬ ∀ n ∈ closingIntegers s closingCount, App.FitsInteger n) (renders : Bool) :
    (closeSession cashierId counts renders).stretch World.send w =
      (w, .over (.error .overflow)) := by
  rw [closeSession, stretch_getOpenSession, hs, h]
  simp only [ofTill, Prog.pure_bind, App.bindIntegers_of_not_fit hfit]
  rfl

/-- A close is refused, or it is written, and then its amounts fit. -/
theorem stretch_closeSession_cases (w : World) (cashierId : String) (counts : Denominations)
    (renders : Bool) :
    ((closeSession cashierId counts renders).stretch World.send w).1 = w ∨
      ∃ s closingCount, w.db.openSession cashierId = some s ∧
        denominationsToCents counts = .ok closingCount ∧
        (∀ n ∈ closingIntegers s closingCount, App.FitsInteger n) ∧
        ((closeSession cashierId counts renders).stretch World.send w).1 =
          w.updateSession s.id (closing s closingCount counts w.now) := by
  cases hs : w.db.openSession cashierId with
  | none =>
      rw [closeSession, stretch_getOpenSession, hs]
      exact .inl rfl
  | some s =>
      cases h : denominationsToCents counts with
      | error e =>
          rw [closeSession, stretch_getOpenSession, hs, h]
          exact .inl rfl
      | ok closingCount =>
          by_cases hfit : ∀ n ∈ closingIntegers s closingCount, App.FitsInteger n
          · exact .inr ⟨s, closingCount, rfl, rfl, hfit, stretch_closeSession hs h hfit renders⟩
          · left
            rw [stretch_closeSession_overflow hs h hfit]

end Stretches

/-- `TillCurrentResponse`; `none` is the status `"NONE"`. -/
structure CurrentResponse where
  sessionId : Id
  openingFloatCents : Cents
  cashSalesCents : Cents
  cashRefundsCents : Cents
  transactionCount : Int
  cashTransactionCount : Int
  expectedClosingCents : Cents
  openedAt : Time
deriving Repr, DecidableEq

/-- The response for an OPEN session. -/
def currentResponse (session : TillSession) : CurrentResponse where
  sessionId := session.id
  openingFloatCents := session.openingFloatCents
  cashSalesCents := session.cashSalesCents
  cashRefundsCents := session.cashRefundsCents
  transactionCount := session.transactionCount
  cashTransactionCount := session.cashTransactionCount
  expectedClosingCents := expectedClosing session
  openedAt := session.openedAt

/-- `GET /api/till/current`. -/
def currentTill (cashierId : String) : App (Option CurrentResponse) := do
  let session ← getOpenSession cashierId
  return session.map currentResponse

/-! ## Attribution -/

/-- What `attribute_transaction` assigns: the session it stamps the transaction with,
and the columns of that session, from the row it read. -/
structure Attribution where
  session : TillSession
  txn : POSTransaction
  isRefund : Bool

namespace Attribution

/-- `column += txn.total_cents`: a column that keeps the value which was read is not written. -/
def added (a : Attribution) (read stored : Cents) : Cents :=
  if a.txn.totalCents = 0 then stored else read + a.txn.totalCents

@[simp] theorem added_self (a : Attribution) (n : Cents) : a.added n n = n + a.txn.totalCents := by
  unfold added
  split
  · next h => rw [h, Int.add_zero]
  · rfl

/-- The tallies. -/
def tally (a : Attribution) : TillUpdate where
  set s :=
    let s := { s with transactionCount := a.session.transactionCount + 1 }
    if a.txn.paymentMethod = some .cash then
      let s := { s with cashTransactionCount := a.session.cashTransactionCount + 1 }
      if a.isRefund then
        { s with cashRefundsCents := a.added a.session.cashRefundsCents s.cashRefundsCents }
      else { s with cashSalesCents := a.added a.session.cashSalesCents s.cashSalesCents }
    else s
  keeps s := by
    simp only
    split
    · split <;> rfl
    · rfl

/-- The tallies leave the other columns alone. -/
theorem tally_set (a : Attribution) (s : TillSession) :
    (a.tally.set s).cashierId = s.cashierId ∧ (a.tally.set s).status = s.status ∧
      (a.tally.set s).openingFloatCents = s.openingFloatCents := by
  simp only [tally]
  split
  · split <;> exact ⟨rfl, rfl, rfl⟩
  · exact ⟨rfl, rfl, rfl⟩

/-- A payment by card, or of nothing, leaves the cash alone. -/
theorem tally_set_cash {a : Attribution}
    (hm : ¬ (a.txn.paymentMethod = some .cash ∧ a.txn.totalCents ≠ 0)) (s : TillSession) :
    (a.tally.set s).cashSalesCents = s.cashSalesCents ∧
      (a.tally.set s).cashRefundsCents = s.cashRefundsCents := by
  by_cases hcash : a.txn.paymentMethod = some .cash
  · have hzero : a.txn.totalCents = 0 := by
      by_contra hne
      exact hm ⟨hcash, hne⟩
    simp only [tally, hcash, if_true, added, hzero]
    split <;> exact ⟨rfl, rfl⟩
  · simp only [tally, hcash, if_false, and_self]

/-- The stamp. -/
def stamp (a : Attribution) : TransactionUpdate where
  set t := { t with tillSessionId := some a.session.id }

end Attribution

/-- Write the tallies of the session, if there is one. -/
def commitTally : Option Attribution → World → World
  | none, w => w
  | some a, w => w.updateSession a.session.id a.tally

/-- `attribute_transaction`. -/
def attributeTransaction (txn : POSTransaction) (isRefund : Bool) :
    App (Option Attribution) := do
  let session ← getOpenSession txn.cashierId
  return session.map fun session ↦ ⟨session, txn, isRefund⟩

/-- The transactions are in another table. -/
theorem updated_commitTally {w w' : World} {x : Id} {u : TransactionUpdate}
    (h : w.Updated x u w') (a : Option Attribution) : w.Updated x u (commitTally a w') := by
  cases a with
  | none => exact h
  | some a => exact h.updateSession _

@[simp] theorem wp_attributeTransaction {γ : Type} {C : Calculus World Call Answer γ} {g : γ}
    {w : World} (txn : POSTransaction) (isRefund : Bool)
    (post : γ → Except PyExc (Option Attribution) → World → Prop) :
    (attributeTransaction txn isRefund).wp C post g w =
      post g (.ok ((w.db.openSession txn.cashierId).map fun s ↦ ⟨s, txn, isRefund⟩)) w := by
  simp [attributeTransaction]

end HightowerPos.Till
