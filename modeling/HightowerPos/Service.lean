import HightowerPos.Services.Reconciliation

/-!
# The service

The requests of the register and of the operators, the background pollers and the
drain worker, as one `System` of handlers over the `World`.  What Windcave, Sentry and
Fabric may answer, and what happens by itself, is an `Environment`; the statements
about runs say which one they assume.
-/

namespace HightowerPos

open Async

/-- What a handler is started for.  The pollers are started by the charge routes; they
are requests of their own as well, so that any number of them may run. -/
inductive Request
  | startCheckout (lines : List Checkout.CartLineIn) (cashierId : String)
      (customer : Option Checkout.CustomerAttachIn)
  | chargeCash (txnId : Id) (amountTenderedCents : Cents)
  | chargeCard (txnId : Id)
  | pollCardUntilComplete (txnId : Id)
  | cancelCheckout (txnId : Id)
  | lookupRefund (originalTransactionId : Id)
  | startRefund (originalTransactionId : Id) (cashierId : String)
  | chargeCardRefund (refundTxnId : Id)
  | chargeCashRefund (refundTxnId : Id)
  | pollRefundUntilComplete (refundTxnId : Id)
  | cancelRefund (refundTxnId : Id)
  | retrySentry (transactionId : Id)
  | retryFailedSales
  | retryFailedRefunds
  | openTill (cashierId : String) (openingDenominations : Denominations)
  | closeTill (cashierId : String) (closingDenominations : Denominations)
  | currentTill (cashierId : String)
  | drainOnce
  | runLoop
  | retryFabricOutboxEntry (entryId : Id)
deriving Repr, DecidableEq

/-- How the service is deployed: its settings, what it takes from libraries, and the
number of loop iterations that the model follows. -/
structure Deployment where
  settings : Settings
  runtime : Runtime
  fuel : Nat

/-- What the outside may answer, and what it may do by itself. -/
structure Environment where
  reply : World → (q : Call) → Answer q → Prop
  drift : World → World → Prop

/-- Forget what a program returns. -/
def App.void {α : Type} (p : App α) : App Unit := p >>= fun _ ↦ .pure ()

namespace Deployment

variable (D : Deployment)

/-- The handler of a request. -/
def handle : Request → App Unit
  | .startCheckout lines cashierId customer =>
      (Checkout.startCheckout D.runtime D.settings lines cashierId customer).void
  | .chargeCash txnId amount => Checkout.chargeCash D.runtime D.settings txnId amount
  | .chargeCard txnId => Checkout.chargeCardRoute D.runtime D.settings D.fuel txnId
  | .pollCardUntilComplete txnId =>
      Checkout.pollCardUntilComplete D.runtime D.settings D.fuel txnId
  | .cancelCheckout txnId => Checkout.cancelCheckout txnId
  | .lookupRefund originalId => (Refund.lookupRefund D.settings originalId).void
  | .startRefund originalId cashierId =>
      (Refund.startRefund D.settings originalId cashierId).void
  | .chargeCardRefund refundId =>
      Refund.chargeCardRefundRoute D.runtime D.settings D.fuel refundId
  | .chargeCashRefund refundId => Refund.chargeCashRefund D.runtime D.settings refundId
  | .pollRefundUntilComplete refundId =>
      Refund.pollRefundUntilComplete D.runtime D.settings D.fuel refundId
  | .cancelRefund refundId => Refund.cancelRefund refundId
  | .retrySentry txnId => Reconciliation.retrySentry D.runtime txnId
  | .retryFailedSales => (Reconciliation.retryFailedSales D.runtime).void
  | .retryFailedRefunds => (Reconciliation.retryFailedRefunds D.runtime).void
  | .openTill cashierId counts =>
      (Till.openSession cashierId D.settings.windcaveStation counts).void
  | .closeTill cashierId counts => Till.closeSession cashierId counts true
  | .currentTill cashierId => (Till.currentTill cashierId).void
  | .drainOnce => (FabricOutbox.drainOnce D.runtime D.settings.fabricOutboxBatchSize).void
  | .runLoop => FabricOutbox.runLoop D.runtime D.settings D.fuel
  | .retryFabricOutboxEntry entryId => FabricOutbox.retryFabricOutboxEntry entryId

/-- The handler of a request, behind what the route of `/start` validates. -/
def validated : Request → App Unit
  | .startCheckout lines cashierId customer =>
      if Checkout.validLines lines then D.handle (.startCheckout lines cashierId customer)
      else .raise .validation
  | i => D.handle i

/-- The service in an environment. -/
def system (E : Environment) : System World Call Answer PyExc Request where
  handle := D.handle
  send := World.send
  reply := E.reply
  drift := E.drift
  resends := Call.Posts

end Deployment

/-! ## Environments -/

/-- The transactions that Windcave has approved or may still approve. -/
def live (P : List Posted) : List Posted := P.filter (·.outcome ≠ .declined)

theorem live_eq_nil {P : List Posted} (h : ∀ p ∈ P, p.outcome = .declined) : live P = [] :=
  List.filter_eq_nil_iff.mpr fun p hp ↦ by simp [h p hp]

/-- A transaction that is posted when the earlier ones were declined is the only live
one. -/
theorem live_append_le {P : List Posted} (h : ∀ p ∈ P, p.outcome = .declined) {p : Posted} :
    (live (P ++ [p])).length ≤ 1 := by
  rw [live, List.filter_append, ← live, live_eq_nil h, List.nil_append]
  exact List.length_filter_le ..

/-- What is approved is live. -/
theorem approved_sublist_live (P : List Posted) :
    (P.filter (·.outcome = .approved)).Sublist (live P) :=
  List.monotone_filter_right P fun p hp ↦ by simp [of_decide_eq_true hp]

namespace World

/-- A pending transaction is approved or declined. -/
inductive Settles : List Posted → List Posted → Prop
  | settle {l r : List Posted} {p : Posted} (h : p.outcome = .pending) {o : Outcome}
      (ho : o ≠ .pending) : Settles (l ++ p :: r) (l ++ { p with outcome := o } :: r)

/-- Time passes, or Windcave settles a pending transaction. -/
inductive Drift : World → World → Prop
  | tick {w : World} {t : Time} (h : w.now ≤ t) : Drift w { w with now := t }
  | settle {w : World} {l : List Posted} (h : Settles w.acquirer l) :
      Drift w { w with acquirer := l }

/-- What Windcave holds under a reference. -/
def posted (w : World) (ref : Id) : List Posted := w.acquirer.filter (·.txnRef = ref)

/-- A purchase that is posted is held under its own reference. -/
theorem posted_charge (w : World) (amount : Cents) (x : Id) :
    (w.send (.windcaveCharge amount x)).posted x =
      w.posted x ++ [⟨x, .purchase, amount, .pending⟩] := by
  simp [posted, send]

theorem posted_charge_ne {w : World} {amount : Cents} {x y : Id} (h : y ≠ x) :
    (w.send (.windcaveCharge amount y)).posted x = w.posted x := by
  simp only [posted, send, List.filter_append]
  rw [List.filter_singleton, decide_eq_false h]
  exact List.append_nil _

/-- So is a refund. -/
theorem posted_refund (w : World) (amount : Cents) (dps : String) (r : Id) :
    (w.send (.windcaveRefund amount dps r)).posted r =
      w.posted r ++ [⟨r, .refund, amount, .pending⟩] := by
  simp [posted, send]

theorem posted_refund_ne {w : World} {amount : Cents} {dps : String} {r r' : Id} (h : r' ≠ r) :
    (w.send (.windcaveRefund amount dps r')).posted r = w.posted r := by
  simp only [posted, send, List.filter_append]
  rw [List.filter_singleton, decide_eq_false h]
  exact List.append_nil _

/-- Settling a transaction settles one of any part it is in. -/
theorem Settles.filter {l l' : List Posted} (h : Settles l l') (ref : Id) :
    l'.filter (·.txnRef = ref) = l.filter (·.txnRef = ref) ∨
      Settles (l.filter (·.txnRef = ref)) (l'.filter (·.txnRef = ref)) := by
  cases h with
  | @settle l r p hp o ho =>
      rw [List.filter_append, List.filter_append, List.filter_cons, List.filter_cons]
      by_cases hr : p.txnRef = ref
      · rw [if_pos (decide_eq_true hr), if_pos (decide_eq_true hr)]
        exact .inr (.settle hp ho)
      · rw [if_neg (by simpa using hr), if_neg (by simpa using hr)]
        exact .inl rfl

theorem Settles.exists_pending {l l' : List Posted} (h : Settles l l') :
    ∃ p ∈ l, p.outcome = .pending := by
  cases h with
  | settle hp => exact ⟨_, List.mem_append_right _ (.head _), hp⟩

/-- Settling changes nothing but outcomes. -/
theorem Settles.exists_mem {l l' : List Posted} (h : Settles l l') {p : Posted} (hp : p ∈ l') :
    ∃ p₀ ∈ l, p.txnRef = p₀.txnRef ∧ p.amountCents = p₀.amountCents := by
  cases h with
  | @settle l r p₀ _ o _ =>
      rcases List.mem_append.mp hp with hp | hp
      · exact ⟨p, List.mem_append_left _ hp, rfl, rfl⟩
      · rcases List.mem_cons.mp hp with rfl | hp
        · exact ⟨p₀, by simp, rfl, rfl⟩
        · exact ⟨p, by simp [hp], rfl, rfl⟩

/-- Settling can only make fewer transactions live. -/
theorem Settles.live_le {l l' : List Posted} (h : Settles l l') :
    (live l').length ≤ (live l).length := by
  cases h with
  | @settle l r p hp o ho =>
      simp only [live, List.filter_append, List.filter_cons, List.length_append, hp]
      by_cases h : o = .declined <;> simp [h]

/-- What the outside world does to one reference. -/
theorem Drift.posted {w w' : World} (h : Drift w w') (ref : Id) :
    w'.posted ref = w.posted ref ∨ Settles (w.posted ref) (w'.posted ref) := by
  cases h with
  | tick => exact .inl rfl
  | settle h => exact h.filter ref

/-- The outside world does not write to the database. -/
theorem Drift.db {w w' : World} (h : Drift w w') : w'.db = w.db := by
  cases h <;> rfl

/-- An update of a transaction posts nothing. -/
theorem Updated.posted {w w' : World} {x : Id} {u : TransactionUpdate} (h : w.Updated x u w')
    (ref : Id) : w'.posted ref = w.posted ref := by
  rw [World.posted, World.posted, h.acquirer]

/-- The row after an update. -/
theorem Updated.row_some {w w' : World} {x : Id} {u : TransactionUpdate}
    (h : w.Updated x u w') {t : POSTransaction} (ht : w.db.transaction x = some t) :
    w'.db.transaction x = some ((u.touch w.now).set t) := by
  rw [h.row, ht, Option.map_some]

end World

/-- Anything may be answered. -/
def Environment.any : Environment where
  reply _ _ _ := True
  drift := World.Drift

namespace World

/-- A reply about a reference says what Windcave has made of it. -/
def Tells (w : World) (ref : Id) : Except PyExc WindcaveStatusResponse → Prop
  | .ok r => r.complete = true →
      (r.approved = true → ∃ p ∈ w.posted ref, p.outcome = .approved) ∧
      (r.approved = false → ∀ p ∈ w.posted ref, p.outcome = .declined)
  | .error _ => True

/-- Windcave's replies are true; anything else may be answered. -/
def Truthful (w : World) : (q : Call) → Answer q → Prop
  | .windcaveCharge _ ref, a | .windcaveRefund _ _ ref, a | .windcaveStatus ref _, a =>
      w.Tells ref a
  | _, _ => True

end World

/-- Windcave approves and declines when it likes, loses replies and ignores cancels, but
never says of a transaction what is not so. -/
def Environment.truthful : Environment where
  reply := World.Truthful
  drift := World.Drift

/-! ## A register to try things on -/

/-- Validation that looks at the one field that matters. -/
def Runtime.sample : Runtime where
  render _ := ""
  validationResult v := match v.get "valid" with
    | .bool b => some { valid := b }
    | _ => none
  checkoutResult v := match v.get "so_id" with
    | .str s => s.encode.map CheckoutResult.mk
    | _ => none
  refundResult v := match v.get "refund_so_id" with
    | .str s => s.encode.map RefundResult.mk
    | _ => none
  realText r := some r

/-- A register that polls once a second, for two minutes at most. -/
def Deployment.sample : Deployment where
  settings :=
    { taxRate := ⟨810, -4⟩
      windcaveStation := "station"
      windcaveDeviceId := "register"
      windcaveCurrency := "USD"
      windcavePollIntervalMs := 1000
      windcaveMaxPollDurationS := 120
      refundWindowDays := 90
      fabricOutboxDrainIntervalS := 5
      fabricOutboxBatchSize := 50 }
  runtime := .sample
  fuel := 120

/-- A sale of 10.81 in a status. -/
def POSTransaction.sample (status : Status) : POSTransaction where
  id := 0
  status := status
  txnType := .sale
  cart := [⟨"mug", "Mug", "store", "A-1-1", 1, true, 1000, 81, 1081⟩]
  subtotalCents := 1000
  taxCents := 81
  totalCents := 1081
  cashierId := "alice"
  terminalId := "station"
  createdAt := 0
  updatedAt := 0

/-- A database with one transaction. -/
def Db.sample (txn : POSTransaction) : Db where
  posTransactions := .single txn
  tillSessions := .empty
  fabricOutbox := .empty
  posPrices := .empty
  posUsers := .empty

/-- A world with one transaction. -/
def World.sample (txn : POSTransaction) : World where
  db := .sample txn
  now := 0

/-- Alice's till, opened with 100.00. -/
def TillSession.sample : TillSession where
  id := 0
  cashierId := "alice"
  terminalId := "station"
  status := .open
  openingFloatCents := 10000
  openingDenominations := [("hundred", 1)]
  openedAt := 0

/-- A world with one transaction, and Alice's till open. -/
def World.atTill (txn : POSTransaction) : World where
  db := { Db.sample txn with tillSessions := .single .sample }
  now := 0

/-- Sentry answers at once, with this body. -/
def Attempts.ok (body : Json) : Attempts := fun _ ↦ .response 200 (some body)

/-- The body of an accepted order. -/
def Json.order (soId : String) : Json := .object [(.ofString "so_id", .str (.ofString soId))]

end HightowerPos
