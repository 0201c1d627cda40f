import HightowerPos.Transactions.Tenders
import HightowerPos.Drawer.CashSales

/-!
# Orders that are sent again

A retry builds its request from the row, as the first attempt did.  The two are the same, apart
from `completed_at`, since no commit after the payment touches what is read: the origin and the
receipt of the row, and for a refund the receipt and the order of its sale, which is `COMPLETE`.
-/

namespace HightowerPos

open Async Relation

/-! ## Requests -/

/-- A request that creates an order or a refund at Sentry. -/
inductive CreateRequest
  | sale (request : CheckoutRequest)
  | refund (request : RefundRequest)
deriving DecidableEq

namespace CreateRequest

def idempotencyKey : CreateRequest → Id
  | .sale request => request.idempotencyKey
  | .refund request => request.idempotencyKey

/-- The request without `completed_at`. -/
def undated : CreateRequest → CreateRequest
  | .sale request => .sale { request with completedAt := 0 }
  | .refund request => .refund { request with completedAt := 0 }

/-- The request is built from the committed row `t`. -/
inductive Built (db : Db) (t : POSTransaction) : CreateRequest → Prop
  | sale {now : Time} (hrow : db.transaction t.id = some t)
      (hs : t.status = .paymentSuccess ∨ t.status = .inventoryUpdateFailed) :
      Built db t (.sale (Checkout.buildCheckoutRequest t (t.paymentMethod.getD .cash) now))
  | refund {original : POSTransaction} {now : Time} (hrow : db.transaction t.id = some t)
      (hs : t.status = .refundPaymentSuccess ∨ t.status = .refundInventoryUpdateFailed)
      (horig : t.parentTransactionId.bind db.transaction = some original) :
      Built db t (.refund (Refund.buildRefundRequest t original now))

variable {db : Db} {t : POSTransaction} {r : CreateRequest}

theorem Built.key (h : r.Built db t) : r.idempotencyKey = t.id := by
  cases h <;> rfl

theorem Built.row (h : r.Built db t) : db.transaction t.id = some t := by
  cases h <;> assumption

theorem Built.paid (h : r.Built db t) : t.status ∈ Status.paid := by
  cases h with
  | sale _ hs | refund _ hs => rcases hs with hs | hs <;> rw [hs] <;> decide

end CreateRequest

/-- The request that a call makes. -/
def Call.creates : Call → Option CreateRequest
  | .sentryCreatePosSo request => some (.sale request)
  | .sentryCreatePosRefund request => some (.refund request)
  | _ => none

/-- Sentry takes the order or the refund. -/
def Call.Takes (rt : Runtime) : (q : Call) → Answer q → Prop
  | .sentryCreatePosSo _, a => ∃ r, Sentry.createPosSo rt a = .ok r
  | .sentryCreatePosRefund _, a => ∃ r, Sentry.createPosRefund rt a = .ok r
  | _, _ => False

/-- The requests that handlers are waiting for. -/
def requests (c : Config World Call Answer PyExc) : List CreateRequest :=
  c.calls.filterMap Call.creates

/-- A pending request is built from the rows as they are. -/
theorem built_of_run {D : Deployment} {w : World} {c : Config World Call Answer PyExc}
    (h : D.SerialRun (.idle w) c) {r : CreateRequest} (hr : r ∈ requests c) :
    ∃ t, r.Built c.state.db t := by
  obtain ⟨q, hq, hcreates⟩ := List.mem_filterMap.mp hr
  cases q with
  | sentryCreatePosSo request =>
      obtain rfl := Option.some.inj hcreates
      obtain ⟨w₀, ⟨t, hrow, hs, rfl⟩, hdb⟩ := D.sends_of_run h hq (by exact id)
      rw [hdb]
      exact ⟨t, .sale hrow hs⟩
  | sentryCreatePosRefund request =>
      obtain rfl := Option.some.inj hcreates
      obtain ⟨w₀, ⟨t, original, hrow, hs, horig, rfl⟩, hdb⟩ := D.sends_of_run h hq (by exact id)
      rw [hdb]
      exact ⟨t, .refund hrow hs horig⟩
  | _ => cases hcreates

/-! ## What no commit touches -/

/-- A row that is paid, and what becomes of it: the columns that requests are built from are the
same, and once it is `COMPLETE` so is its order. -/
structure Frozen (t t' : POSTransaction) : Prop where
  origin : t'.origin = t.origin
  receipt : t'.receipt = t.receipt
  status : t'.status ∈ Status.tendered
  complete : t.status = .complete → t'.status = .complete ∧ t'.sentrySoId = t.sentrySoId

variable {said : Replies} {t t' t'' original original' : POSTransaction} {w w' : World}

theorem Frozen.refl (hs : t.status ∈ Status.tendered) : Frozen t t :=
  ⟨rfl, rfl, hs, fun h ↦ ⟨h, rfl⟩⟩

theorem Frozen.trans (h : Frozen t t') (h' : Frozen t' t'') : Frozen t t'' where
  origin := h'.origin.trans h.origin
  receipt := h'.receipt.trans h.receipt
  status := h'.status
  complete hs := by
    obtain ⟨hs', hso⟩ := h.complete hs
    obtain ⟨hs'', hso'⟩ := h'.complete hs'
    exact ⟨hs'', hso'.trans hso⟩

/-- A paid row that advances. -/
theorem Frozen.advanced {u : TransactionUpdate} {now : Time} (ha : Advanced t (u.set t))
    (hs : t.status ∈ Status.tendered) : Frozen t ((u.touch now).set t) where
  origin := ha.origin
  receipt := ha.receipt (Status.paid_of_leads ha.status hs)
  status := Status.tendered_of_leads ha.status hs
  complete hc := by
    have hleads := ha.status
    rw [hc] at hleads
    cases hleads

theorem Becomes.frozen (hb : Becomes said t t') (hs : t.status ∈ Status.tendered) :
    Frozen t t' := by
  cases hb with
  | same => exact .refl hs
  | advances hu => exact .advanced hu.advanced hs
  | completes hu => exact .advanced hu.advanced hs
  | linked hc => exact ⟨rfl, rfl, hs, fun _ ↦ ⟨hc, rfl⟩⟩

/-- **What is paid is frozen** in a serial run. -/
theorem frozen_of_reaches {D : Deployment} (hr : D.Reaches said w w') (hl : Links w.db) {x : Id}
    (ht : w.db.transaction x = some t) (hs : t.status ∈ Status.tendered) :
    ∃ t', w'.db.transaction x = some t' ∧ Frozen t t' := by
  refine (D.keeps (P := fun w ↦ ∃ t', w.db.transaction x = some t' ∧ Frozen t t')
    (fun hl ⟨t', ht', hf⟩ hturn ↦ ?_) hr hl ⟨t, ht, .refl hs⟩).2
  obtain ⟨t'', ht'', hb⟩ := hturn.becomes hl ht'
  exact ⟨t'', ht'', hf.trans (hb.frozen hf.status)⟩

/-! ## Requests are the same -/

/-- The row as far as requests are built from it. -/
def POSTransaction.billed (t : POSTransaction) : POSTransaction :=
  { t.origin with
    paymentMethod := t.receipt.1
    tenders := t.receipt.2.1
    windcaveTxnRef := t.receipt.2.2 }

theorem Frozen.billed (h : Frozen t t') : t'.billed = t.billed := by
  unfold POSTransaction.billed
  rw [h.origin, h.receipt]

theorem undated_checkout (t : POSTransaction) (now : Time) :
    (CreateRequest.sale
      (Checkout.buildCheckoutRequest t (t.paymentMethod.getD .cash) now)).undated =
      .sale (Checkout.buildCheckoutRequest t.billed (t.billed.paymentMethod.getD .cash) 0) := rfl

theorem undated_refund (t original : POSTransaction) (now : Time) :
    (CreateRequest.refund (Refund.buildRefundRequest t original now)).undated =
      .refund (Refund.buildRefundRequest t.billed
        { original.billed with sentrySoId := original.sentrySoId } 0) := rfl

/-- Requests for one transaction, with the rows that they were built from. -/
theorem CreateRequest.Built.undated_eq {D : Deployment} {r r' : CreateRequest}
    (hreaches : D.Reaches said w w') (hl : Links w.db) (h : r.Built w.db t)
    (h' : r'.Built w'.db t') (hid : t.id = t'.id) : r.undated = r'.undated := by
  have htendered {t : POSTransaction} (hs : t.status ∈ Status.paid) :
      t.status ∈ Status.tendered := List.mem_cons_of_mem _ hs
  obtain ⟨t₁, h₁, hf⟩ := frozen_of_reaches hreaches hl h.row (htendered h.paid)
  obtain rfl : t₁ = t' := by
    rw [hid, h'.row] at h₁
    exact (Option.some.inj h₁).symm
  have hl' : Links w'.db :=
    (D.keeps (P := fun _ ↦ True) (fun _ _ _ ↦ trivial) hreaches hl trivial).1
  have htype : t₁.txnType = t.txnType := POSTransaction.eq_of_origin hf.origin (·.txnType)
  have hkind := hl.kind h.row
  have hkind' := hl'.kind h'.row
  cases h with
  | sale hrow hs =>
      have hsale : t.txnType = .sale := hkind _ (by rcases hs with hs | hs <;> rw [hs] <;> rfl)
      cases h' with
      | sale => rw [undated_checkout, undated_checkout, hf.billed]
      | refund _ hs' =>
          have hrefund : t₁.txnType = .refund :=
            hkind' _ (by rcases hs' with hs' | hs' <;> rw [hs'] <;> rfl)
          exact nomatch hsale.symm.trans (htype.symm.trans hrefund)
  | @refund original now hrow hs horig =>
      have hrefund : t.txnType = .refund :=
        hkind _ (by rcases hs with hs | hs <;> rw [hs] <;> rfl)
      cases h' with
      | sale _ hs' =>
          have hsale : t₁.txnType = .sale :=
            hkind' _ (by rcases hs' with hs' | hs' <;> rw [hs'] <;> rfl)
          exact nomatch hsale.symm.trans (htype.trans hrefund)
      | @refund original' now' hrow' hs' horig' =>
          -- the sale of the refund is complete, and the same row in both states
          obtain ⟨p, sale, hp, hsale, -, hcomplete, -⟩ := hl.parent hrow hrefund
          have hp' : t₁.parentTransactionId = some p :=
            (POSTransaction.eq_of_origin hf.origin (·.parentTransactionId)).trans hp
          rw [hp, Option.bind_some, hsale] at horig
          rw [hp', Option.bind_some] at horig'
          obtain rfl := Option.some.inj horig
          obtain ⟨sale', hsale', hfs⟩ :=
            frozen_of_reaches hreaches hl hsale (by rw [hcomplete]; decide)
          obtain rfl := Option.some.inj (hsale'.symm.trans horig')
          rw [undated_refund, undated_refund, hf.billed, hfs.billed, (hfs.complete hcomplete).2]

/-! ## Serial runs -/

/-- No request is pending for a transaction that is `COMPLETE`. -/
theorem key_ne_of_complete {D : Deployment} {c : Config World Call Answer PyExc}
    (h : D.SerialRun (.idle w) c) {x : Id} (hx : c.state.status x = some .complete)
    {r : CreateRequest} (hr : r ∈ requests c) : r.idempotencyKey ≠ x := by
  obtain ⟨t, hbuilt⟩ := built_of_run h hr
  rw [hbuilt.key]
  rintro rfl
  rw [World.status_of_row hbuilt.row] at hx
  have hpaid := hbuilt.paid
  rw [Option.some.inj hx] at hpaid
  exact absurd hpaid (by decide)

/-- What Sentry has taken is `COMPLETE`. -/
theorem complete_of_given {D : Deployment} {c c' : Config World Call Answer PyExc} {q : Call}
    {a : Answer q} (h : D.SerialRun (.idle w) c) (hg : Deployment.Given q a c c')
    (htakes : q.Takes D.runtime a) {r : CreateRequest} (hr : q.creates = some r) :
    c'.state.status r.idempotencyKey = some .complete := by
  have howes := Deployment.Given.reached D h hg
  cases q with
  | sentryCreatePosSo | sentryCreatePosRefund =>
      obtain rfl := Option.some.inj hr
      exact howes htakes
  | _ => cases hr

/-- **Orders that are sent again are the same.**  In a serial run every pending request has the
id of its transaction for a key; two requests, at any two moments, are the same but for
`completed_at` when they are for one transaction, and have different keys otherwise; and when
Sentry has taken a request there is no other one for its transaction. -/
theorem idempotent_replay (D : Deployment) {w : World} (ht : w.db.posTransactions = .empty)
    {c : Config World Call Answer PyExc} (h : D.SerialRun (.idle w) c) :
    (∀ r ∈ requests c, ∃ t, r.Built c.state.db t ∧ r.idempotencyKey = t.id) ∧
    (∀ c', D.SerialRun c c' → ∀ r ∈ requests c, ∀ r' ∈ requests c', ∀ t t',
      r.Built c.state.db t → r'.Built c'.state.db t' →
      (t.id = t'.id → r.undated = r'.undated) ∧
      (t.id ≠ t'.id → r.idempotencyKey ≠ r'.idempotencyKey)) ∧
    ∀ q a r c₁ c', q.creates = some r → q.Takes D.runtime a → Deployment.Given q a c c₁ →
      D.SerialRun c₁ c' → ∀ r' ∈ requests c', r'.idempotencyKey ≠ r.idempotencyKey := by
  have hlinks {c : Config World Call Answer PyExc} (h : D.SerialRun (.idle w) c) :
      Links c.state.db := (D.keeps (P := fun _ ↦ True) (fun _ _ _ ↦ trivial)
    (D.moves_of_run h .refl).1 (.empty ht) trivial).1
  refine ⟨fun r hr ↦ ?_, fun c' h' r _ r' _ t t' hbuilt hbuilt' ↦ ⟨fun hid ↦ ?_, fun hid ↦ ?_⟩,
    fun q a r c₁ c' hcreates htakes hg h' r' hr' ↦ ?_⟩
  · obtain ⟨t, hbuilt⟩ := built_of_run h hr
    exact ⟨t, hbuilt, hbuilt.key⟩
  · exact hbuilt.undated_eq (D.moves_of_run h h').2 (hlinks h) hbuilt' hid
  · rwa [hbuilt.key, hbuilt'.key]
  · have h₁ : D.SerialRun (.idle w) c₁ := h.trans (Deployment.Given.serialRun D hg)
    have hdone := complete_of_given h hg htakes hcreates
    obtain ⟨t, hrow, hs⟩ := Option.map_eq_some_iff.mp hdone
    obtain ⟨t', hrow', hs'⟩ :=
      status_stays D rfl (D.moves_of_run h₁ h').2 (hlinks h₁) hrow hs
    refine key_ne_of_complete (h₁.trans h') ?_ hr'
    rw [World.status_of_row hrow', hs']

/-- A mug is sold for cash, and the order is on its way. -/
def firstTry : List (Move World Call Answer Request) :=
  [.start (.startCheckout [Drawer.mug] "alice" none), .resume 0 Drawer.obliging,
    .start (.chargeCash 0 2000)]

/-- Sentry refuses it, and it is sent again. -/
def secondTry : List (Move World Call Answer Request) :=
  [.resume 0 Drawer.refusing, .resume 0 Drawer.refusing, .start (.retrySentry 0)]

theorem idempotent_replay_second :
    let c := (Config.idle Drawer.newRegister).playAll (Deployment.sample.system .any) firstTry
    let c' := c.playAll (Deployment.sample.system .any) secondTry
    ∃ r r', requests c = [r] ∧ requests c' = [r'] ∧ r.undated = r'.undated := by
  intro c c'
  have hkeys : (requests c).map CreateRequest.idempotencyKey = [0] ∧
      (requests c').map CreateRequest.idempotencyKey = [0] := by decide +kernel
  have hrun : Deployment.sample.SerialRun (.idle Drawer.newRegister) c :=
    Deployment.sample.run_of_playsAll (by decide +kernel)
  have hrun' : Deployment.sample.SerialRun c c' :=
    Deployment.sample.run_of_playsAll (by decide +kernel)
  obtain ⟨r, hr, hkey⟩ := List.map_eq_singleton_iff.mp hkeys.1
  obtain ⟨r', hr', hkey'⟩ := List.map_eq_singleton_iff.mp hkeys.2
  have hmem : r ∈ requests c := by rw [hr]; exact List.mem_singleton_self r
  have hmem' : r' ∈ requests c' := by rw [hr']; exact List.mem_singleton_self r'
  obtain ⟨t, hbuilt⟩ := built_of_run hrun hmem
  obtain ⟨t', hbuilt'⟩ := built_of_run (hrun.trans hrun') hmem'
  have hid : t.id = t'.id := by
    rw [← hbuilt.key, ← hbuilt'.key, hkey, hkey']
  exact ⟨r, r', hr, hr', ((idempotent_replay Deployment.sample rfl hrun).2.1 c' hrun' r hmem r'
    hmem' t t' hbuilt hbuilt').1 hid⟩

end HightowerPos
