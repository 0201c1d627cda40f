import HightowerPos.Transactions.Enqueued
import HightowerPos.Drawer.CashSales

/-!
# What Fabric is told of a transaction

The payload of an outbox row is made when the row is added.  Afterwards the transaction can
still be sent to Sentry again, and when Sentry accepts it then, it gets a `sentry_so_id` that
the payload does not have: nothing writes the payload again.
-/

namespace HightowerPos

open Async Relation

/-- The payload says what the row says, apart from the order at Sentry. -/
structure SameOrder (t : POSTransaction) (p : FabricPayload) : Prop where
  externalSoRef : p.externalSoRef = t.id
  txnType : p.txnType = t.txnType
  parentTransactionId : p.parentTransactionId = t.parentTransactionId
  paymentMethod : p.paymentMethod = t.paymentMethod
  subtotalCents : p.subtotalCents = t.subtotalCents
  taxCents : p.taxCents = t.taxCents
  totalCents : p.totalCents = t.totalCents
  customer : (p.customerId, p.customerName, p.customerEmail, p.customerPhone) =
    (t.customerId, t.customerName, t.customerEmail, t.customerPhone)
  lines : p.lines = t.cart

/-- The payload agrees with the row. -/
structure Agrees (t : POSTransaction) (p : FabricPayload) : Prop extends SameOrder t p where
  sentrySoId : p.sentrySoId = t.sentrySoId

/-- A payload that is made of a row. -/
theorem SameOrder.made {settings : Settings} {t held : POSTransaction} {completedAt : Time}
    (hid : held.id = t.id) (horigin : t.origin = held.origin)
    (hm : held.paymentMethod = t.paymentMethod) :
    SameOrder t (FabricOutbox.buildPayload settings held completedAt) where
  externalSoRef := hid
  txnType := (POSTransaction.eq_of_origin horigin (·.txnType)).symm
  parentTransactionId := (POSTransaction.eq_of_origin horigin (·.parentTransactionId)).symm
  paymentMethod := hm
  subtotalCents := (POSTransaction.eq_of_origin horigin (·.subtotalCents)).symm
  taxCents := (POSTransaction.eq_of_origin horigin (·.taxCents)).symm
  totalCents := (POSTransaction.eq_of_origin horigin (·.totalCents)).symm
  customer := (POSTransaction.eq_of_origin horigin fun t ↦
    (t.customerId, t.customerName, t.customerEmail, t.customerPhone)).symm
  lines := (POSTransaction.eq_of_origin horigin (·.cart)).symm

/-- The payload of a row that has kept its origin and its payment method. -/
theorem SameOrder.kept {t t' : POSTransaction} {p : FabricPayload} (h : SameOrder t p)
    (horigin : t'.origin = t.origin) (hm : t'.paymentMethod = t.paymentMethod) :
    SameOrder t' p where
  externalSoRef := h.externalSoRef.trans (POSTransaction.eq_of_origin horigin (·.id)).symm
  txnType := h.txnType.trans (POSTransaction.eq_of_origin horigin (·.txnType)).symm
  parentTransactionId := h.parentTransactionId.trans
    (POSTransaction.eq_of_origin horigin (·.parentTransactionId)).symm
  paymentMethod := h.paymentMethod.trans hm.symm
  subtotalCents := h.subtotalCents.trans
    (POSTransaction.eq_of_origin horigin (·.subtotalCents)).symm
  taxCents := h.taxCents.trans (POSTransaction.eq_of_origin horigin (·.taxCents)).symm
  totalCents := h.totalCents.trans (POSTransaction.eq_of_origin horigin (·.totalCents)).symm
  customer := h.customer.trans (POSTransaction.eq_of_origin horigin fun t ↦
    (t.customerId, t.customerName, t.customerEmail, t.customerPhone)).symm
  lines := h.lines.trans (POSTransaction.eq_of_origin horigin (·.cart)).symm

/-! ## The order at Sentry -/

/-- A row has an order at Sentry when it is completed, and a retry when it was sent; it was
completed at once, or when it was sent again. -/
structure Ordered (said : Replies) (t : POSTransaction) : Prop where
  order : t.status = .complete ↔ t.sentrySoId ≠ none
  first : t.status ∉ Status.sent → t.retryCount = 0
  again : t.status = .complete → t.retryCount ≠ 0 → said.resent t.id

/-- What the payload says of the order at Sentry. -/
structure Told (t : POSTransaction) (p : FabricPayload) : Prop extends SameOrder t p where
  atOnce : t.status = .complete → t.retryCount = 0 → p.sentrySoId = t.sentrySoId
  later : t.status ≠ .complete ∨ t.retryCount ≠ 0 → p.sentrySoId = none

variable {said : Replies} {t t' : POSTransaction} {u : TransactionUpdate}
  {held : Option POSTransaction}

/-- What a commit does to the order at Sentry: nothing, or the row is completed at once, or when
it was sent again. -/
inductive Orders (said : Replies) (t t' : POSTransaction) : Option POSTransaction → Prop
  | still {held : Option POSTransaction} (hs : t'.status ≠ .complete)
      (hso : t'.sentrySoId = t.sentrySoId)
      (hr : t'.retryCount = t.retryCount ∨ t.status ∈ Status.sent)
      (hheld : ∀ h ∈ held, h.sentrySoId = t.sentrySoId) : Orders said t t' held
  | atOnce {held : POSTransaction} (hs : t'.status = .complete) (hso : t'.sentrySoId ≠ none)
      (ht : t.status ∉ Status.sent) (hr : t'.retryCount = t.retryCount)
      (hheld : held.sentrySoId = t'.sentrySoId) : Orders said t t' (some held)
  | again (hs : t'.status = .complete) (hso : t'.sentrySoId ≠ none)
      (ht : t.status ∈ Status.sent) (hr : t'.retryCount ≠ 0) (hsaid : said.resent t.id) :
      Orders said t t' none

/-- A row on its own, in a status in which it has no order. -/
theorem Orders.opened (s : Status) (hs' : t'.status = s) (hso : t'.sentrySoId = t.sentrySoId)
    (hr : t'.retryCount = t.retryCount) (hs : s ≠ .complete := by decide) :
    Orders said t t' none :=
  .still (hs' ▸ hs) hso (.inl hr) fun _ hh ↦ nomatch hh

/-- A row that Sentry has refused, and that is put in the outbox. -/
theorem Orders.refused (s : Status) (hs' : t'.status = s) (hso : t'.sentrySoId = t.sentrySoId)
    (hr : t'.retryCount = t.retryCount) {r : POSTransaction} (hheld : r.sentrySoId = t.sentrySoId)
    (hs : s ≠ .complete := by decide) : Orders said t t' (some r) := by
  refine .still (hs' ▸ hs) hso (.inl hr) fun r' hr' ↦ ?_
  obtain rfl := Option.mem_some.mp hr'
  exact hheld

theorem Moves.orders (h : Moves said t u) : Orders said t (u.set t) none := by
  cases h with
  | retried hs hsaid =>
      exact .again rfl (Option.some_ne_none _) (by rw [hs]; decide) (Nat.succ_ne_zero _) hsaid
  | retryFailed hs =>
      refine .still (fun hc : t.status = .complete ↦ ?_) rfl (.inr ?_) fun _ hh ↦ nomatch hh
      · rcases hs with hs | hs <;> exact absurd (hs.symm.trans hc) (by decide)
      · rcases hs with hs | hs <;> rw [hs] <;> decide
  | cardFailed _ hv => rcases hv with rfl | rfl <;> exact .opened .paymentFailed rfl rfl rfl
  | cardTaken _ _ _ hv => rcases hv with rfl | rfl <;> exact .opened .paymentSuccess rfl rfl rfl
  | validated => exact .opened .awaitingPayment rfl rfl rfl
  | validationFailed => exact .opened .validationFailed rfl rfl rfl
  | cardUnavailable | timedOut => exact .opened .paymentFailed rfl rfl rfl
  | cardInFlight => exact .opened .paymentInFlight rfl rfl rfl
  | cancelled | refundCancelled => exact .opened .cancelled rfl rfl rfl
  | refundUnavailable | refundFailed | refundTimedOut =>
      exact .opened .refundPaymentFailed rfl rfl rfl
  | refundInFlight => exact .opened .refundPaymentInFlight rfl rfl rfl
  | cardRefunded | cashRefunded => exact .opened .refundPaymentSuccess rfl rfl rfl

theorem Advances.orders (h : Advances said t u held) : Orders said t (u.set t) held := by
  cases h with
  | moved hu => exact hu.orders
  | cashTaken => exact .opened .paymentSuccess rfl rfl rfl
  | saleNotSent => refine .refused .inventoryUpdateFailed ?_ ?_ ?_ ?_ <;> rfl
  | refundNotSent => refine .refused .refundInventoryUpdateFailed ?_ ?_ ?_ ?_ <;> rfl
  | @saleDone soId a hs =>
      cases a <;> exact .atOnce rfl (Option.some_ne_none _) (by rw [hs]; decide) rfl rfl

theorem Completes.orders (h : Completes said t u held) : Orders said t (u.set t) held := by
  cases h with
  | @done soId a hs =>
      cases a <;> exact .atOnce rfl (Option.some_ne_none _) (by rw [hs]; decide) rfl rfl
  | retried hs hsaid =>
      exact .again rfl (Option.some_ne_none _) (by rw [hs]; decide) (Nat.succ_ne_zero _) hsaid

/-- The row that is put in the outbox says what the committed one says. -/
theorem Advances.held_row (h : Advances said t u held) : ∀ r ∈ held,
    r.id = t.id ∧ (u.set t).origin = r.origin ∧ r.paymentMethod = (u.set t).paymentMethod := by
  intro r hr
  cases h with
  | moved | cashTaken => cases hr
  | saleNotSent | refundNotSent =>
      obtain rfl := Option.mem_some.mp hr
      exact ⟨rfl, rfl, rfl⟩
  | @saleDone soId a =>
      obtain rfl := Option.mem_some.mp hr
      cases a <;> exact ⟨rfl, rfl, rfl⟩

theorem Completes.held_row (h : Completes said t u held) : ∀ r ∈ held,
    r.id = t.id ∧ (u.set t).origin = r.origin ∧ r.paymentMethod = (u.set t).paymentMethod := by
  intro r hr
  cases h with
  | @done soId a =>
      obtain rfl := Option.mem_some.mp hr
      cases a <;> exact ⟨rfl, rfl, rfl⟩
  | retried => cases hr

/-! ## Steps -/

theorem Ordered.orders (h : Ordered said t) (ho : Orders said t t' held)
    (ha : Advanced t t') : Ordered said t' := by
  have hopen : t.status ≠ .complete := fun hs ↦ by
    have := ha.status
    rw [hs] at this
    cases this
  have hid : t'.id = t.id := POSTransaction.eq_of_origin ha.origin (·.id)
  cases ho with
  | still hs hso hr =>
      refine ⟨⟨fun hs' ↦ absurd hs' hs, fun hn ↦ ?_⟩, fun hs' ↦ ?_, fun hs' ↦ absurd hs' hs⟩
      · rw [hso] at hn
        exact absurd (h.order.mpr hn) hopen
      · have hnot : t.status ∉ Status.sent := fun hin ↦ by
          refine hs' ((Status.sent_of_leads ha.status ⟨fun hn ↦ ?_, fun hn ↦ ?_⟩).mp hin)
          all_goals rw [hn] at hin; exact absurd hin (by decide)
        rcases hr with hr | hr
        · rw [hr, h.first hnot]
        · exact absurd hr hnot
  | atOnce hs hso ht hr =>
      refine ⟨⟨fun _ ↦ hso, fun _ ↦ hs⟩, fun hs' ↦ ?_, fun _ hn ↦ ?_⟩
      · rw [hs] at hs'
        exact absurd hs' (by decide)
      · rw [hr, h.first ht] at hn
        exact absurd rfl hn
  | again hs hso ht hr hsaid =>
      refine ⟨⟨fun _ ↦ hso, fun _ ↦ hs⟩, fun hs' ↦ ?_, fun _ _ ↦ hid ▸ hsaid⟩
      rw [hs] at hs'
      exact absurd hs' (by decide)

/-- A payload stays true when its row is sent again. -/
theorem Told.orders {p : FabricPayload} (h : Told t p) (hsent : t.status ∈ Status.sent)
    (ho : Orders said t t' held) (ha : Advanced t t') : Told t' p := by
  have hopen : t.status ≠ .complete := fun hs ↦ by
    have := ha.status
    rw [hs] at this
    cases this
  have hpaid : t.status ∈ Status.paid := by
    revert hsent hopen
    cases t.status <;> decide
  have hnone := h.later (.inl hopen)
  have hsame := h.toSameOrder.kept ha.origin (congrArg Prod.fst (ha.receipt hpaid))
  cases ho with
  | still hs => exact ⟨hsame, fun hs' ↦ absurd hs' hs, fun _ ↦ hnone⟩
  | atOnce hs hso ht => exact absurd hsent ht
  | again hs hso ht hr => exact ⟨hsame, fun _ hr' ↦ absurd hr' hr, fun _ ↦ hnone⟩

/-- A payload is true when it is put in the outbox. -/
theorem Told.made {settings : Settings} {held : POSTransaction} {completedAt : Time}
    (h : Ordered said t) (ho : Orders said t t' (some held)) (ha : Advanced t t')
    (hheld : held.id = t.id ∧ t'.origin = held.origin ∧ held.paymentMethod = t'.paymentMethod) :
    Told t' (FabricOutbox.buildPayload settings held completedAt) := by
  have hid : t'.id = t.id := POSTransaction.eq_of_origin ha.origin (·.id)
  have hsame : SameOrder t' (FabricOutbox.buildPayload settings held completedAt) :=
    .made (hheld.1.trans hid.symm) hheld.2.1 hheld.2.2
  cases ho with
  | still hs hso hr hso' =>
      refine ⟨hsame, fun hs' ↦ absurd hs' hs, fun _ ↦ ?_⟩
      have hopen : t.status ≠ .complete := fun hs ↦ by
        have := ha.status
        rw [hs] at this
        cases this
      have := mt h.order.mpr hopen
      exact (hso' held rfl).trans (not_not.mp this)
  | atOnce hs hso ht hr hso' =>
      refine ⟨hsame, fun _ _ ↦ hso', fun hn ↦ ?_⟩
      rcases hn with hn | hn
      · exact absurd hs hn
      · rw [hr, h.first ht] at hn
        exact absurd rfl hn

/-- A completed row agrees with its payload when it was completed at once. -/
theorem Told.agrees_iff {p : FabricPayload} (h : Told t p) (ho : Ordered said t)
    (hs : t.status = .complete) : Agrees t p ↔ t.retryCount = 0 := by
  refine ⟨fun ha ↦ ?_, fun hr ↦ ⟨h.toSameOrder, h.atOnce hs hr⟩⟩
  by_contra hr
  exact ho.order.mp hs (ha.sentrySoId.symm.trans (h.later (.inr hr)))

/-! ## Turns -/

/-- Every entry of the outbox is of a transaction that was sent, and true of it. -/
structure Tells (said : Replies) (db : Db) : Prop where
  ordered : ∀ {x t}, db.transaction x = some t → Ordered said t
  told : ∀ {x p}, (x, p) ∈ db.orders →
    ∃ t, db.transaction x = some t ∧ t.status ∈ Status.sent ∧ Told t p

variable {settings : Settings} {w w' : World}

theorem Ordered.becomes (h : Ordered said t) (hb : Becomes said t t') : Ordered said t' := by
  cases hb with
  | same => exact h
  | linked => exact ⟨h.order, h.first, h.again⟩
  | advances hu =>
      obtain ⟨ho, hf, ha⟩ := h.orders hu.orders hu.advanced
      exact ⟨ho, hf, ha⟩
  | completes hu =>
      obtain ⟨ho, hf, ha⟩ := h.orders hu.orders hu.advanced
      exact ⟨ho, hf, ha⟩

theorem Ordered.born {x : Id} (hb : Born settings w x t) : Ordered said t := by
  cases hb with
  | sale =>
      exact ⟨⟨fun (h : Status.pendingValidation = .complete) ↦ (nomatch h),
        fun h ↦ absurd rfl h⟩, fun _ ↦ rfl, fun _ h ↦ absurd rfl h⟩
  | refund =>
      exact ⟨⟨fun (h : Status.refundPending = .complete) ↦ (nomatch h),
        fun h ↦ absurd rfl h⟩, fun _ ↦ rfl, fun _ h ↦ absurd rfl h⟩

/-- A payload stays true of its row, which stays sent. -/
theorem Told.becomes {p : FabricPayload} (h : Told t p) (hsent : t.status ∈ Status.sent)
    (hb : Becomes said t t') : t'.status ∈ Status.sent ∧ Told t' p := by
  have hmem {s' : Status} (hs' : s' ∈ t.status.leads) : s' ∈ Status.sent := by
    refine (Status.sent_of_leads hs' ⟨fun hn ↦ ?_, fun hn ↦ ?_⟩).mp hsent
    all_goals rw [hn] at hsent; exact absurd hsent (by decide)
  cases hb with
  | same => exact ⟨hsent, h⟩
  | linked =>
      obtain ⟨hsame, ha, hl⟩ := h
      exact ⟨hsent, hsame.kept rfl rfl, ha, hl⟩
  | advances hu =>
      obtain ⟨hsame, ha, hl⟩ := h.orders hsent hu.orders hu.advanced
      exact ⟨hmem hu.advanced.status, hsame.kept rfl rfl, ha, hl⟩
  | completes hu =>
      obtain ⟨hsame, ha, hl⟩ := h.orders hsent hu.orders hu.advanced
      exact ⟨hmem hu.advanced.status, hsame.kept rfl rfl, ha, hl⟩

/-- The payload of a row that is put in the outbox. -/
theorem told_held {completedAt now : Time} {r : POSTransaction} (h : Ordered said t)
    (hputs : Puts t (u.set t) (some r)) (ho : Orders said t (u.set t) (some r))
    (ha : Advanced t (u.set t))
    (hheld : r.id = t.id ∧ (u.set t).origin = r.origin ∧
      r.paymentMethod = (u.set t).paymentMethod) :
    ((u.touch now).set t).status ∈ Status.sent ∧
      Told ((u.touch now).set t) (FabricOutbox.buildPayload settings r completedAt) := by
  obtain ⟨hsame, hat, hl⟩ : Told (u.set t) (FabricOutbox.buildPayload settings r completedAt) :=
    .made h ho ha hheld
  cases hputs with
  | row _ _ hs' => exact ⟨hs', hsame.kept rfl rfl, hat, hl⟩

/-- **A turn keeps the payloads true.** -/
theorem Turn.tells (h : Turn settings said w w') (hl : Links w.db) (ht : Tells said w.db) :
    Tells said w'.db := by
  have hordered {x : Id} {t' : POSTransaction} (ht' : w'.db.transaction x = some t') :
      Ordered said t' := by
    cases hrow : w.db.transaction x with
    | none => exact .born (h.born hl hrow ht')
    | some t =>
        obtain ⟨t₁, h₁, hb⟩ := h.becomes hl hrow
        obtain rfl := Option.some.inj (h₁.symm.trans ht')
        exact (ht.ordered hrow).becomes hb
  -- an entry that was there before
  have hold {x : Id} {p : FabricPayload} (hp : (x, p) ∈ w.db.orders) :
      ∃ t, w'.db.transaction x = some t ∧ t.status ∈ Status.sent ∧ Told t p := by
    obtain ⟨t, hrow, hsent, htold⟩ := ht.told hp
    obtain ⟨t', hrow', hb⟩ := h.becomes hl hrow
    exact ⟨t', hrow', htold.becomes hsent hb⟩
  have hnew {held : Option POSTransaction} (horders : Enqueued settings held w.db w'.db)
      (hheld : ∀ r ∈ held, ∀ completedAt, ∃ t', w'.db.transaction r.id = some t' ∧
        t'.status ∈ Status.sent ∧ Told t' (FabricOutbox.buildPayload settings r completedAt))
      {x : Id} {p : FabricPayload} (hp : (x, p) ∈ w'.db.orders) :
      ∃ t, w'.db.transaction x = some t ∧ t.status ∈ Status.sent ∧ Told t p := by
    obtain ⟨completedAt, horders⟩ := horders
    rw [horders] at hp
    rcases List.mem_append.mp hp with hp | hp
    · exact hold hp
    · obtain ⟨r, hr, hxp⟩ := List.mem_map.mp hp
      obtain ⟨rfl, rfl⟩ := Prod.mk.inj hxp
      exact hheld r (Option.mem_toList.mp hr) completedAt
  refine ⟨hordered, fun {x p} hp ↦ ?_⟩
  cases h with
  | idle _ horders | sale _ horders | refund _ _ _ _ _ horders => exact hold (horders ▸ hp)
  | @row t u held hrow hu hrows horders =>
      refine hnew horders (fun r hr completedAt ↦ ?_) hp
      obtain rfl := Option.mem_def.mp hr
      have hheld := hu.held_row r rfl
      refine ⟨(u.touch w.now).set t, ?_, told_held (ht.ordered hrow) hu.puts hu.orders
        hu.advanced hheld⟩
      unfold Db.transaction at hrow ⊢
      rw [hrows, hheld.1, Table.get?_modify_self, hrow, Option.map_some]
  | @refunded t original u held hrow hu horig hrows horders =>
      refine hnew horders (fun r hr completedAt ↦ ?_) hp
      obtain rfl := Option.mem_def.mp hr
      have hheld := hu.held_row r rfl
      refine ⟨(u.touch w.now).set t, ?_, told_held (ht.ordered hrow) hu.puts hu.orders
        hu.advanced hheld⟩
      rw [hheld.1]
      exact (hl.settles hrow hu.kind horig hrows).row'

/-! ## Serial runs -/

/-- Sentry accepts nothing that is sent again. -/
def Replies.noneResent : Replies := ⟨fun _ _ ↦ True, fun _ ↦ False⟩

/-- A completed transaction has one entry, and it agrees with it when it was completed at
once. -/
theorem told_of_reaches {D : Deployment} (hr : D.Reaches said w w')
    (ht : w.db.posTransactions = .empty) (ho : w.db.fabricOutbox = .empty) {x : Id}
    (hrow : w'.db.transaction x = some t) (hs : t.status = .complete) :
    Ordered said t ∧ ∃ e, w'.db.fabricOutbox.select (fun e ↦ e.posTransactionId = x) = [e] ∧
      Told t e.payload := by
  have hnil : w.db.orders = [] := by
    unfold Db.orders
    rw [ho]
    rfl
  have hnone {x : Id} {t : POSTransaction} (h : w.db.transaction x = some t) : False := by
    simp [Db.transaction, ht, Table.get?, Table.empty] at h
  have hentered : Entered w.db := by
    refine fun x ↦ ⟨?_, fun _ ↦ ?_⟩
    · rintro ⟨_, h, -⟩
      exact (hnone h).elim
    · unfold Db.entries
      rw [hnil]
      rfl
  have htells : Tells said w.db :=
    ⟨fun h ↦ (hnone h).elim, fun h ↦ by rw [hnil] at h; cases h⟩
  obtain ⟨-, he, htold⟩ := D.keeps (P := fun w ↦ Entered w.db ∧ Tells said w.db)
    (fun hl hP hturn ↦ ⟨hturn.entered hl hP.1, hturn.tells hl hP.2⟩) hr (.empty ht)
    ⟨hentered, htells⟩
  refine ⟨htold.ordered hrow, ?_⟩
  have hlen : (w'.db.fabricOutbox.select fun e ↦ e.posTransactionId = x).length = 1 := by
    rw [length_select_entries]
    exact (he x).1 ⟨t, hrow, by rw [hs]; decide⟩
  obtain ⟨e, hselect⟩ := List.length_eq_one_iff.mp hlen
  obtain ⟨hrows, hx⟩ := List.mem_filter.mp (hselect.symm ▸ List.mem_singleton_self e :
    e ∈ w'.db.fabricOutbox.select fun e ↦ e.posTransactionId = x)
  obtain ⟨t', ht', -, htold'⟩ := htold.told (x := x) (p := e.payload)
    (List.mem_map.mpr ⟨e, hrows, Prod.ext (of_decide_eq_true hx) rfl⟩)
  obtain rfl := Option.some.inj (ht'.symm.trans hrow)
  exact ⟨e, hselect, htold'⟩

/-- **What Fabric is told of completed transactions.**  In a serial run in which Sentry
accepts nothing that is sent again, the payload of every `COMPLETE` transaction agrees with
it; in any serial run it agrees exactly when the transaction was completed without a retry. -/
theorem fabric_told_iff (D : Deployment) {w : World} (ht : w.db.posTransactions = .empty)
    (ho : w.db.fabricOutbox = .empty) :
    (∀ c, D.SerialRunSaying .noneResent (.idle w) c → ∀ x t,
      c.state.db.transaction x = some t → t.status = .complete →
      ∃ e, c.state.db.fabricOutbox.select (fun e ↦ e.posTransactionId = x) = [e] ∧
        Agrees t e.payload) ∧
    ∀ c, D.SerialRun (.idle w) c → ∀ x t,
      c.state.db.transaction x = some t → t.status = .complete →
      ∃ e, c.state.db.fabricOutbox.select (fun e ↦ e.posTransactionId = x) = [e] ∧
        (Agrees t e.payload ↔ t.retryCount = 0) := by
  refine ⟨fun c h x t hrow hs ↦ ?_, fun c h x t hrow hs ↦ ?_⟩
  · obtain ⟨hordered, e, he, htold⟩ :=
      told_of_reaches (D.moves_of_saying h .refl).1 ht ho hrow hs
    refine ⟨e, he, (htold.agrees_iff hordered hs).mpr ?_⟩
    by_contra hr
    exact hordered.again hs hr
  · obtain ⟨hordered, e, he, htold⟩ := told_of_reaches (D.moves_of_run h .refl).1 ht ho hrow hs
    exact ⟨e, he, htold.agrees_iff hordered hs⟩

theorem fabric_told_iff_returned : ∃ t e,
    ((Config.idle Drawer.newRegister).playAll (Deployment.sample.system .any)
      returned).state.db.transaction 0 = some t ∧
    ((Config.idle Drawer.newRegister).playAll (Deployment.sample.system .any)
      returned).state.db.fabricOutbox.select (fun e ↦ e.posTransactionId = 0) = [e] ∧
    (Agrees t e.payload ↔ t.retryCount = 0) := by
  have hrow : (((Config.idle Drawer.newRegister).playAll (Deployment.sample.system .any)
      returned).state.db.transaction 0).any (·.status = .complete) = true := by decide +kernel
  obtain ⟨t, ht, hs⟩ := (Option.any_eq_true _ _).mp hrow
  obtain ⟨e, he⟩ := (fabric_told_iff Deployment.sample (w := Drawer.newRegister) rfl rfl).2 _
    (Deployment.sample.run_of_playsAll (by decide +kernel)) 0 t ht (of_decide_eq_true hs)
  exact ⟨t, e, ht, he⟩

/-- A cash sale that Sentry refuses, and takes when it is sent again. -/
def takenAtLast : List (Move World Call Answer Request) :=
  [.start (.startCheckout [Drawer.mug] "alice" none), .resume 0 Drawer.obliging,
    .start (.chargeCash 0 2000), .resume 0 Drawer.refusing, .resume 0 Drawer.refusing,
    .start (.retrySentry 0), .resume 0 Drawer.obliging]

/-- The sale is `COMPLETE` with the order `SO-1`, and its payload has no order. -/
theorem fabric_not_told : ∃ c : Config World Call Answer PyExc,
    Deployment.sample.SerialRun (.idle Drawer.newRegister) c ∧
    (c.state.db.transaction 0).map (fun t ↦ (t.status, t.sentrySoId)) =
      some (.complete, some "SO-1") ∧
    (c.state.db.fabricOutbox.select fun e ↦ e.posTransactionId = 0).map
      (fun e ↦ (e.status, e.payload.sentrySoId)) = [(.pending, none)] := by
  refine ⟨(Config.idle Drawer.newRegister).playAll (Deployment.sample.system .any) takenAtLast,
    Deployment.sample.run_of_playsAll ?_, ?_, ?_⟩
  all_goals decide +kernel

end HightowerPos
