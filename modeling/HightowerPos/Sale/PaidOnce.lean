import HightowerPos.Sale.Absorbing

/-!
# At most one payment for a sale

`charge_card` leaves the committed status at `AWAITING_PAYMENT` while Windcave decides,
so `_load_for_payment` lets a second payment start meanwhile, and its client posts the
purchase again when no reply has come.  Where no payment and no cancel is let through for
a sale with a purchase not yet declined or a charge that waits for Windcave, a purchase is
posted again only once the earlier ones are declined, and a cancel of an unpaid sale goes
on only after Windcave has settled the purchase, the sale is paid at most once: `PayState`
is the invariant, about the row of one sale, what Windcave holds for it and the calls
awaited for it.
-/

namespace HightowerPos.Sale

open Async Checkout

/-- The request is let through to take a payment for the sale `x`, whose row is `t`, or to
cancel it before it is paid. -/
def TakesUp (x : Id) (t : POSTransaction) : Request → Prop
  | .chargeCash y amount => y = x ∧ t.status = .awaitingPayment ∧ t.totalCents ≤ amount
  | .chargeCard y => y = x ∧ t.status = .awaitingPayment ∧ 0 ≤ t.totalCents
  | .cancelCheckout y => y = x ∧ t.status = .awaitingPayment
  | _ => False

/-- No payment and no cancel is let through for a sale while a charge of it waits for
Windcave, or with a purchase that Windcave has not declined; a purchase is posted again only
when the earlier ones are declined; and a cancel of an unpaid sale goes on only after
Windcave has settled what it holds for the sale. -/
def oneAtATime : Guard World Call Answer Request where
  start w qs i := IsPayment i ∧ ∀ x t, w.db.transaction x = some t → TakesUp x t i →
    (∀ amount, .windcaveCharge amount x ∉ qs) ∧ ∀ p ∈ w.posted x, p.outcome = .declined
  resume w _ q a := match q, a with
    | .windcaveCancel x, a => GoesOn a → ∀ t, w.db.transaction x = some t →
        t.tenders = none → ∀ p ∈ w.posted x, p.outcome ≠ .pending
    | _, _ => True
  kill _ _ _ := False
  resend w _ q := ∀ amount x, q = .windcaveCharge amount x →
    ∀ p ∈ w.posted x, p.outcome = .declined

/-- The invariant of one sale: its row, what Windcave holds for it, and the calls
awaited for it. -/
structure PayState (t : POSTransaction) (P : List Posted) (W : List Call) : Prop where
  live : (live P).length ≤ 1
  charges : W.countP isCharge ≤ 1
  charging : ∀ q ∈ W, isCharge q = true → t.status = .awaitingPayment
  unpaid : t.status = .awaitingPayment ∨ t.status = .paymentInFlight → t.tenders = none
  card : t.status = .paymentInFlight → t.paymentMethod = some .card
  cancelling : ∀ q ∈ W, isCancel q = true → t.status ≠ .awaitingPayment
  ordering : ∀ q ∈ W, isOrder q = true → t.tenders ≠ none
  cash : ∀ d ∈ t.tenders.getD [], d.type = .cash → ∀ p ∈ P, p.outcome = .declined
  cancelled : t.status = .cancelled → t.tenders = none → ∀ p ∈ P, p.outcome ≠ .pending

/-- The sale was cancelled, and nothing was ever paid for it. -/
def Unpaid (t : POSTransaction) (P : List Posted) : Prop :=
  t.status = .cancelled ∧ t.tenders = none ∧ ∀ p ∈ P, p.outcome ≠ .approved

/-- From one moment to a later one a recorded tender stays, and a sale that was
cancelled unpaid stays so. -/
structure Lasting (t : POSTransaction) (P : List Posted) (t' : POSTransaction)
    (P' : List Posted) : Prop where
  tenders : t.tenders ≠ none → t'.tenders = t.tenders
  unpaid : Unpaid t P → Unpaid t' P'

namespace PayState

variable {t t' : POSTransaction} {P : List Posted} {W W' : List Call}

/-- Without a charge among the calls, the sale may be moved on from `AWAITING_PAYMENT`
in a way that keeps its tenders. -/
theorem leave (h : PayState t P W)
    (hW : ∀ q ∈ W', isCharge q = false ∧
      (q ∈ W ∨ isCancel q = false ∧ (isOrder q = true → t'.tenders ≠ none)))
    (hstatus : t'.status ≠ .awaitingPayment)
    (htenders : t.tenders ≠ none → t'.tenders = t.tenders)
    (hflight : t'.status = .paymentInFlight →
      t'.tenders = none ∧ t'.paymentMethod = some .card)
    (hcash : t.tenders = none → ∀ d ∈ t'.tenders.getD [], d.type = .cash →
      ∀ p ∈ P, p.outcome = .declined)
    (hcancelled : t'.status = .cancelled → t'.tenders = none →
      ∀ p ∈ P, p.outcome ≠ .pending) : PayState t' P W' where
  live := h.live
  charges := by
    rw [List.countP_eq_zero.mpr fun q hq ↦ by simp [(hW q hq).1]]
    exact Nat.zero_le 1
  charging q hq hc := by rw [(hW q hq).1] at hc; cases hc
  unpaid := by
    rintro (hs | hs)
    · exact absurd hs hstatus
    · exact (hflight hs).1
  card hs := (hflight hs).2
  cancelling _ _ _ := hstatus
  ordering q hq ho := by
    rcases (hW q hq).2 with hold | ⟨-, hnew⟩
    · have := h.ordering q hold ho
      rw [htenders this]
      exact this
    · exact hnew ho
  cash d hd hc := by
    by_cases hnone : t.tenders = none
    · exact hcash hnone d hd hc
    · rw [htenders hnone] at hd
      exact h.cash d hd hc
  cancelled := hcancelled

/-- A segment that writes nothing and does not post a purchase. -/
theorem wait (h : PayState t P W) (hcount : W'.countP isCharge ≤ 1)
    (hW : ∀ q ∈ W', q ∈ W ∨ isCharge q = false ∧ isOrder q = false ∧
      (isCancel q = true → t.status ≠ .awaitingPayment)) : PayState t P W' where
  live := h.live
  charges := hcount
  charging q hq hc := by
    rcases hW q hq with hold | ⟨hnew, -, -⟩
    · exact h.charging q hold hc
    · rw [hnew] at hc; cases hc
  unpaid := h.unpaid
  card := h.card
  cancelling q hq hc := by
    rcases hW q hq with hold | ⟨-, -, hnew⟩
    · exact h.cancelling q hold hc
    · exact hnew hc
  ordering q hq ho := by
    rcases hW q hq with hold | ⟨-, hnew, -⟩
    · exact h.ordering q hold ho
    · rw [hnew] at ho; cases ho
  cash := h.cash
  cancelled := h.cancelled

/-- A purchase is posted for a sale that awaits its payment, when the earlier ones were
declined. -/
theorem post (h : PayState t P W) (hstatus : t.status = .awaitingPayment)
    (hP : ∀ p ∈ P, p.outcome = .declined) (p : Posted) : PayState t (P ++ [p]) W where
  live := live_append_le hP
  charges := h.charges
  charging := h.charging
  unpaid := h.unpaid
  card := h.card
  cancelling := h.cancelling
  ordering := h.ordering
  cash d hd := by
    rw [h.unpaid (.inl hstatus)] at hd
    cases hd
  cancelled hs := by
    rw [hstatus] at hs
    cases hs

/-- A handler starts to wait for the charge of a sale that awaits its payment. -/
theorem charge (h : PayState t P W) (hstatus : t.status = .awaitingPayment)
    (hW : ∀ q ∈ W, isCharge q = false) {q : Call} (hq : isCharge q = true) :
    PayState t P (W ++ [q]) := by
  have hnotcancel : isCancel q = false := by cases q <;> first | rfl | cases hq
  have hnotorder : isOrder q = false := by cases q <;> first | rfl | cases hq
  refine ⟨h.live, ?_, fun _ _ _ ↦ hstatus, h.unpaid, h.card, fun r hr hc ↦ ?_,
    fun r hr ho ↦ ?_, h.cash, h.cancelled⟩
  · rw [List.countP_append, List.countP_eq_zero.mpr fun r hr ↦ by simp [hW r hr],
      Nat.zero_add]
    exact List.countP_le_length
  · rcases List.mem_append.mp hr with hr | hr
    · exact h.cancelling r hr hc
    · obtain rfl := List.mem_singleton.mp hr
      rw [hnotcancel] at hc; cases hc
  · rcases List.mem_append.mp hr with hr | hr
    · exact h.ordering r hr ho
    · obtain rfl := List.mem_singleton.mp hr
      rw [hnotorder] at ho; cases ho

end PayState

theorem Lasting.refl (t : POSTransaction) (P : List Posted) : Lasting t P t P :=
  ⟨fun _ ↦ rfl, fun h ↦ h⟩

/-- A sale that is still open was not cancelled. -/
theorem Lasting.of_open {t t' : POSTransaction} {P P' : List Posted}
    (hopen : t.status = .awaitingPayment ∨ t.status = .paymentInFlight)
    (htenders : t.tenders = none) : Lasting t P t' P' where
  tenders h := absurd htenders h
  unpaid h := by rcases hopen with hs | hs <;> rw [h.1] at hs <;> cases hs

/-! ## What a segment does to a sale -/

section Segments

variable {rt : Runtime} {x : Id} {w w' : World} {o : Option Call} {t : POSTransaction}
  {W l r : List Call} {q : Call}

/-- The sale after a segment: its row and the invariant. -/
def Next (x : Id) (w w' : World) (t : POSTransaction) (W' : List Call) : Prop :=
  ∃ t', w'.db.transaction x = some t' ∧ PayState t' (w'.posted x) W' ∧
    Lasting t (w.posted x) t' (w'.posted x)

/-- A segment that wrote nothing. -/
theorem next_wait (hrow : w.db.transaction x = some t) {W' : List Call}
    (h : PayState t (w.posted x) W') : Next x w w t W' := ⟨t, hrow, h, .refl _ _⟩

/-- A segment that updated the sale. -/
theorem next_updated {u : TransactionUpdate} {W' : List Call}
    (hrow : w.db.transaction x = some t) (hw : w.Updated x u w')
    (h : PayState ((u.touch w.now).set t) (w.posted x) W')
    (hlast : Lasting t (w.posted x) ((u.touch w.now).set t) (w.posted x)) :
    Next x w w' t W' := by
  refine ⟨_, hw.row_some hrow, ?_, ?_⟩ <;> rwa [hw.posted]

/-- An open sale without a charge among its calls is moved on by an update that records
no tender. -/
theorem PayState.fail (h : PayState t (w.posted x) W) {u : TransactionUpdate} {W' : List Call}
    (hopen : t.status = .awaitingPayment ∨ t.status = .paymentInFlight)
    (hW : ∀ q ∈ W', q ∈ W ∧ isCharge q = false) (htenders : (u.set t).tenders = t.tenders)
    (hstatus : (u.set t).status = .paymentFailed ∨
      (u.set t).status = .cancelled ∧ ∀ p ∈ w.posted x, p.outcome ≠ .pending) :
    PayState ((u.touch w.now).set t) (w.posted x) W' := by
  have hnone := h.unpaid hopen
  have hst : ((u.touch w.now).set t).status = (u.set t).status := rfl
  refine h.leave (fun q hq ↦ ⟨(hW q hq).2, .inl (hW q hq).1⟩) ?_ (fun hne ↦ absurd hnone hne)
    (fun hf ↦ ?_) (fun _ d hd ↦ ?_) fun hc _ ↦ ?_
  · rcases hstatus with hs | ⟨hs, -⟩ <;> simp [hst, hs]
  · rw [hst] at hf
    rcases hstatus with hs | ⟨hs, -⟩ <;> rw [hs] at hf <;> cases hf
  · have : ((u.touch w.now).set t).tenders = none := htenders.trans hnone
    rw [this] at hd
    cases hd
  · rw [hst] at hc
    rcases hstatus with hs | ⟨-, hP⟩
    · rw [hs] at hc; cases hc
    · exact hP

/-- A finalization of an open sale without another charge among its calls. -/
theorem PayState.finalize (h : PayState t (w.posted x) W) {txn : POSTransaction}
    {st : WindcaveStatusResponse} {u v : TransactionUpdate} {l r : List Call}
    (hopen : t.status = .awaitingPayment ∨ t.status = .paymentInFlight)
    (hW : ∀ q ∈ l ++ r, q ∈ W ∧ isCharge q = false)
    (hv : ∀ t, (v.set t).tenders = t.tenders) (ho : CardOutcome txn st u o) :
    PayState ((TransactionUpdate.touch (v.andThen u) w.now).set t) (w.posted x)
      (l ++ o.toList ++ r) := by
  cases ho with
  | signature | declined =>
      rw [Option.toList_none, List.append_nil]
      exact h.fail hopen hW (hv t) (.inl rfl)
  | approved _ _ _ hreq =>
      refine h.leave (fun q hq ↦ ?_) (fun hs ↦ nomatch hs)
        (fun hne ↦ absurd (h.unpaid hopen) hne) (fun hs ↦ nomatch hs) (fun _ d hd hc ↦ ?_)
        fun hs ↦ nomatch hs
      · rcases mem_next hq with hq | hq
        · obtain rfl := Option.mem_some.mp hq
          exact ⟨rfl, .inr ⟨rfl, fun _ hn ↦ nomatch hn⟩⟩
        · exact ⟨(hW q hq).2, .inl (hW q hq).1⟩
      · -- the tender is a card tender
        obtain rfl := List.mem_singleton.mp hd
        cases hc

/-- Nobody waits for a charge of a sale that does not await its payment. -/
theorem PayState.no_charge {P : List Posted} (h : PayState t P W)
    (hstatus : t.status ≠ .awaitingPayment) : ∀ q ∈ W, isCharge q = false := by
  intro q hq
  by_contra hc
  exact hstatus (h.charging q hq (by simpa using hc))

/-- One handler waits for a charge, and the others do not. -/
theorem PayState.others_no_charge {P : List Posted} {l r : List Call} {q : Call}
    (h : PayState t P (l ++ q :: r)) (hq : isCharge q = true) :
    ∀ q' ∈ l ++ r, isCharge q' = false := by
  have hle := h.charges
  rw [List.countP_append, List.countP_cons_of_pos hq] at hle
  have hzero : (l ++ r).countP isCharge = 0 := by
    rw [List.countP_append]
    omega
  intro q' hq'
  simpa using List.countP_eq_zero.mp hzero q' hq'

/-- A replaced call is one that neither charges nor sends an order. -/
theorem PayState.replace (h : PayState t (w.posted x) (l ++ q :: r))
    (ho : ∀ q' ∈ o, isCharge q' = false ∧ isCancel q' = false ∧ isOrder q' = false) :
    PayState t (w.posted x) (l ++ o.toList ++ r) := by
  refine h.wait ?_ fun q' hq' ↦ ?_
  · -- the new call is no charge
    have hle := h.charges
    have hzero : o.toList.countP isCharge = 0 :=
      List.countP_eq_zero.mpr fun q' hq' ↦ by
        simp [(ho q' (Option.mem_toList.mp hq')).1]
    rw [List.countP_append, List.countP_cons] at hle
    rw [List.countP_append, List.countP_append, hzero]
    omega
  · rcases mem_next hq' with hq' | hq'
    · obtain ⟨hc, hn, hs⟩ := ho q' hq'
      exact .inr ⟨hc, hs, fun h ↦ by rw [hn] at h; cases h⟩
    · exact .inl (mem_of_others hq')

/-- The order of a paid sale is answered. -/
theorem PayState.ordered (h : PayState t (w.posted x) (l ++ q :: r)) (hq : isOrder q = true)
    {u : TransactionUpdate} (htenders : (u.set t).tenders = t.tenders)
    (hstatus : (u.set t).status = .complete ∨ (u.set t).status = .inventoryUpdateFailed)
    (ho : ∀ q' ∈ o, isCharge q' = false ∧ isCancel q' = false ∧ isOrder q' = false)
    (hrow : w.db.transaction x = some t) (hw : w.Updated x u w') :
    Next x w w' t (l ++ o.toList ++ r) := by
  have hpaid : t.tenders ≠ none := h.ordering q (by simp) hq
  have hopen : t.status ≠ .awaitingPayment := fun hs ↦ hpaid (h.unpaid (.inl hs))
  have hst : ((u.touch w.now).set t).status = (u.set t).status := rfl
  have hkeep : ((u.touch w.now).set t).tenders = t.tenders := htenders
  have hne : (u.set t).status ≠ .awaitingPayment ∧ (u.set t).status ≠ .paymentInFlight ∧
      (u.set t).status ≠ .cancelled := by
    rcases hstatus with hs | hs <;> simp [hs]
  refine next_updated hrow hw ?_ ⟨fun _ ↦ hkeep, fun hu ↦ absurd hu.2.1 hpaid⟩
  refine h.leave (fun q' hq' ↦ ?_) (hst ▸ hne.1) (fun _ ↦ hkeep)
    (fun hs ↦ absurd (hst ▸ hs) hne.2.1) (fun hnone ↦ absurd hnone hpaid)
    fun hs ↦ absurd (hst ▸ hs) hne.2.2
  rcases mem_next hq' with hq' | hq'
  · obtain ⟨hc, hn, hs⟩ := ho q' hq'
    exact ⟨hc, .inr ⟨hn, fun h ↦ by rw [hs] at h; cases h⟩⟩
  · exact ⟨h.no_charge hopen q' (mem_of_others hq'), .inl (mem_of_others hq')⟩

/-- The first segment of a handler. -/
theorem PayState.start {i : Request} (h : PayState t (w.posted x) W)
    (hrow : w.db.transaction x = some t) (hx : subject (.start i) = some x)
    (hready : TakesUp x t i →
      (∀ q ∈ W, isCharge q = false) ∧ ∀ p ∈ w.posted x, p.outcome = .declined)
    (hseg : SaleSegment rt (.start i) w w' o) : Next x w w' t (W ++ o.toList) := by
  have hsame {txn : POSTransaction} (h' : w.db.transaction x = some txn) : txn = t :=
    Option.some.inj (h'.symm.trans hrow)
  have hnone : W ++ (none : Option Call).toList = W := List.append_nil W
  cases hseg with
  | refused => rw [hnone]; exact next_wait hrow h
  | cashTaken hrow' hstatus hpaid hw hreq =>
      obtain rfl : _ = x := Option.some.inj hx
      obtain rfl := hsame hrow'
      obtain ⟨hcharge, hdeclined⟩ := hready ⟨rfl, hstatus, hpaid⟩
      have htenders := h.unpaid (.inl hstatus)
      refine next_updated hrow hw ?_ (.of_open (.inl hstatus) htenders)
      refine h.leave (fun q hq ↦ ?_) (fun hs ↦ (by cases hs)) (fun hne ↦ absurd htenders hne)
        (fun hs ↦ (by cases hs)) (fun _ _ _ _ ↦ hdeclined) fun hs ↦ (by cases hs)
      rcases List.mem_append.mp hq with hq | hq
      · exact ⟨hcharge q hq, .inl hq⟩
      · obtain rfl := List.mem_singleton.mp hq
        exact ⟨rfl, .inr ⟨rfl, fun _ hn ↦ (by cases hn)⟩⟩
  | @cardPosted y w txn hrow' hstatus hamount =>
      obtain rfl : y = x := Option.some.inj hx
      obtain rfl := hsame hrow'
      obtain ⟨hcharge, hdeclined⟩ := hready ⟨rfl, hstatus, hamount⟩
      refine ⟨txn, hrow, ?_, ?_⟩
      · rw [World.posted_charge]
        exact (h.post hstatus hdeclined _).charge hstatus hcharge rfl
      · exact .of_open (.inl hstatus) (h.unpaid (.inl hstatus))
  | pollAsks ht hq =>
      refine next_wait hrow (h.wait ?_ fun q hq' ↦ ?_)
      · rcases hq with ⟨e, rfl⟩ | rfl <;> simpa [isCharge] using h.charges
      · rcases List.mem_append.mp hq' with hq' | hq'
        · exact .inl hq'
        · obtain rfl := List.mem_singleton.mp hq'
          rcases hq with ⟨e, rfl⟩ | rfl <;> exact .inr ⟨rfl, rfl, fun h ↦ (by cases h)⟩
  | pollTimedOut ht hrow' hstatus hw =>
      obtain rfl := Option.some.inj (ht.subject_eq.symm.trans hx)
      obtain rfl := hsame hrow'
      rw [hnone]
      refine next_updated hrow hw (h.fail (.inr hstatus) (fun q hq ↦ ⟨hq, ?_⟩) rfl (.inl rfl))
        (.of_open (.inr hstatus) (h.unpaid (.inr hstatus)))
      exact h.no_charge (by simp [hstatus]) q hq
  | pollOver => rw [hnone]; exact next_wait hrow h
  | @cancelled y _ _ txn hrow' hstatus hw =>
      obtain rfl : y = x := Option.some.inj hx
      obtain rfl := hsame hrow'
      rw [hnone]
      -- an open sale in flight is paid by card
      have hstatus : txn.status = .awaitingPayment :=
        hstatus.resolve_right fun hinFlight ↦ hinFlight.2 (h.card hinFlight.1)
      obtain ⟨hcharge, hdeclined⟩ := hready ⟨rfl, hstatus⟩
      refine next_updated hrow hw ?_ (.of_open (.inl hstatus) (h.unpaid (.inl hstatus)))
      refine h.fail (.inl hstatus) (fun q hq ↦ ⟨hq, hcharge q hq⟩) rfl (.inr ⟨rfl, ?_⟩)
      exact fun p hp ↦ by simp [hdeclined p hp]
  | cancelSent hrow' hstatus =>
      obtain rfl : _ = x := Option.some.inj hx
      obtain rfl := hsame hrow'
      refine next_wait hrow (h.wait ?_ fun q hq ↦ ?_)
      · simpa [isCharge] using h.charges
      · rcases List.mem_append.mp hq with hq | hq
        · exact .inl hq
        · obtain rfl := List.mem_singleton.mp hq
          exact .inr ⟨rfl, rfl, fun _ ↦ by simp [hstatus]⟩

/-- A later segment of a handler. -/
theorem PayState.resume {a : Answer q} (h : PayState t (w.posted x) (l ++ q :: r))
    (hrow : w.db.transaction x = some t) (hx : saleOf q = some x)
    {qs : List Call} (hg : oneAtATime.resume w qs q a)
    (hseg : SaleSegment rt (.reply q q a) w w' o) : Next x w w' t (l ++ o.toList ++ r) := by
  have hsame {txn : POSTransaction} (h' : w.db.transaction x = some txn) : txn = t :=
    Option.some.inj (h'.symm.trans hrow)
  have hmem : q ∈ l ++ q :: r := by simp
  -- the segments that write nothing and do not go on to charge or to send
  have hwait (ho : ∀ q' ∈ o, isCharge q' = false ∧ isCancel q' = false ∧ isOrder q' = false) :
      Next x w w t (l ++ o.toList ++ r) := next_wait hrow (h.replace ho)
  have hend : Next x w w t (l ++ (none : Option Call).toList ++ r) :=
    next_wait hrow (h.replace fun _ h ↦ nomatch h)
  have hothers : ∀ q' ∈ l ++ (none : Option Call).toList ++ r, q' ∈ l ++ q :: r := by
    rw [Option.toList_none, List.append_nil]
    exact fun _ ↦ mem_of_others
  cases hseg with
  | cardRaised | pollOver | pollRaised | pollAnsweredLate | cancelRaised | sentryRaised
  | logged => exact hend
  | pollAsks _ hq =>
      refine hwait fun q' hq' ↦ ?_
      obtain rfl := Option.mem_some.mp hq'
      rcases hq with ⟨e, rfl⟩ | rfl <;> exact ⟨rfl, rfl, rfl⟩
  | pollWaits =>
      refine hwait fun q' hq' ↦ ?_
      obtain rfl := Option.mem_some.mp hq'
      exact ⟨rfl, rfl, rfl⟩
  | cardUnavailable hw =>
      obtain rfl : _ = x := Option.some.inj hx
      have hstatus := h.charging _ hmem rfl
      refine next_updated hrow hw (h.fail (.inl hstatus) (fun q' hq' ↦ ?_) rfl (.inl rfl))
        (.of_open (.inl hstatus) (h.unpaid (.inl hstatus)))
      refine ⟨hothers q' hq', h.others_no_charge rfl q' ?_⟩
      rwa [Option.toList_none, List.append_nil] at hq'
  | cardInFlight _ hw =>
      obtain rfl : _ = x := Option.some.inj hx
      have hstatus := h.charging _ hmem rfl
      have htenders := h.unpaid (.inl hstatus)
      refine next_updated hrow hw ?_ (.of_open (.inl hstatus) htenders)
      refine h.leave (fun q' hq' ↦ ?_) (fun hs ↦ nomatch hs) (fun hne ↦ absurd htenders hne)
        (fun _ ↦ ⟨htenders, rfl⟩) (fun _ d hd ↦ ?_) fun hs ↦ nomatch hs
      · rcases mem_next hq' with hq' | hq'
        · obtain rfl := Option.mem_some.mp hq'
          exact ⟨rfl, .inr ⟨rfl, fun hs ↦ nomatch hs⟩⟩
        · exact ⟨h.others_no_charge rfl q' hq', .inl (mem_of_others hq')⟩
      · change d ∈ t.tenders.getD [] at hd
        rw [htenders] at hd
        cases hd
  | cardAnswered hr hid ho hw =>
      obtain rfl : _ = x := Option.some.inj hx
      have hstatus := h.charging _ hmem rfl
      refine next_updated hrow hw (h.finalize (.inl hstatus) (fun q' hq' ↦ ?_) (fun _ ↦ rfl) ho)
        (.of_open (.inl hstatus) (h.unpaid (.inl hstatus)))
      exact ⟨mem_of_others hq', h.others_no_charge rfl q' hq'⟩
  | pollTimedOut ht hrow' hstatus hw =>
      obtain rfl := Option.some.inj (ht.subject_eq.symm.trans hx)
      obtain rfl := hsame hrow'
      refine next_updated hrow hw (h.fail (.inr hstatus) (fun q' hq' ↦ ?_) rfl (.inl rfl))
        (.of_open (.inr hstatus) (h.unpaid (.inr hstatus)))
      exact ⟨hothers q' hq', h.no_charge (by simp [hstatus]) q' (hothers q' hq')⟩
  | pollAnswered _ hrow' hstatus ho hw =>
      obtain rfl : _ = x := Option.some.inj hx
      obtain rfl := hsame hrow'
      refine next_updated hrow hw (h.finalize (.inr hstatus) (fun q' hq' ↦ ?_) (fun _ ↦ rfl) ho)
        (.of_open (.inr hstatus) (h.unpaid (.inr hstatus)))
      exact ⟨mem_of_others hq', h.no_charge (by simp [hstatus]) q' (mem_of_others hq')⟩
  | cancelAnswered ha hw =>
      obtain rfl : _ = x := Option.some.inj hx
      have hstatus := h.cancelling _ hmem rfl
      refine next_updated hrow hw ?_ ⟨fun _ ↦ rfl, fun hu ↦ ⟨rfl, hu.2⟩⟩
      refine h.leave (fun q' hq' ↦ ?_) (fun hs ↦ nomatch hs) (fun _ ↦ rfl)
        (fun hs ↦ nomatch hs) (fun hnone d hd ↦ ?_) fun _ ↦ hg ha t hrow
      · exact ⟨h.no_charge hstatus q' (hothers q' hq'), .inl (hothers q' hq')⟩
      · change d ∈ t.tenders.getD [] at hd
        rw [hnone] at hd
        cases hd
  | @completed _ _ _ result _ _ at' hres hw =>
      obtain rfl : _ = x := Option.some.inj hx
      refine h.ordered rfl ?_ (.inl ?_) (fun _ h ↦ nomatch h) hrow hw <;> cases at' <;> rfl
  | sentryFailed hres htext hw =>
      obtain rfl : _ = x := Option.some.inj hx
      refine h.ordered rfl rfl (.inr rfl) (fun q' hq' ↦ ?_) hrow hw
      obtain rfl := Option.mem_some.mp hq'
      exact ⟨rfl, rfl, rfl⟩

end Segments

/-! ## Runs -/

/-- Windcave settles a purchase of the sale. -/
theorem PayState.settles {t : POSTransaction} {P P' : List Posted} {W : List Call}
    (h : PayState t P W) (hs : World.Settles P P') : PayState t P' W where
  live := hs.live_le.trans h.live
  charges := h.charges
  charging := h.charging
  unpaid := h.unpaid
  card := h.card
  cancelling := h.cancelling
  ordering := h.ordering
  cash d hd hc := by
    obtain ⟨p, hp, hpending⟩ := hs.exists_pending
    have := h.cash d hd hc p hp
    rw [hpending] at this
    cases this
  cancelled hc hnone := by
    obtain ⟨p, hp, hpending⟩ := hs.exists_pending
    exact absurd hpending (h.cancelled hc hnone p hp)

/-- The invariant of a sale in a run: its row, what Windcave holds and what is waited
for fit together. -/
def PayInv (x : Id) (d : Phased World Call) : Prop :=
  ∃ t, d.state.db.transaction x = some t ∧
    PayState t (d.state.posted x) (waiting x d.phases)

/-- From `w` to `w'` what was paid for the sale lasts. -/
def PayLasts (x : Id) (w w' : World) : Prop :=
  ∀ t, w.db.transaction x = some t → ∃ t', w'.db.transaction x = some t' ∧
    Lasting t (w.posted x) t' (w'.posted x)

/-- One step of a run keeps the invariant, and what was paid lasts. -/
theorem payInv_step {rt : Runtime} {reply : World → (q : Call) → Answer q → Prop} {x : Id}
    {d d' : Phased World Call} (h : PayInv x d) (hs : StepOf rt oneAtATime reply x d d') :
    PayInv x d' ∧ PayLasts x d.state d'.state := by
  obtain ⟨t, hrow, hpay⟩ := h
  -- it is enough to look at the row that the invariant is about
  have hnext (hn : Next x d.state d'.state t (waiting x d'.phases)) :
      PayInv x d' ∧ PayLasts x d.state d'.state := by
    obtain ⟨t', hrow', hpay', hlast⟩ := hn
    refine ⟨⟨t', hrow', hpay'⟩, fun t₁ h₁ ↦ ⟨t', hrow', ?_⟩⟩
    rw [hrow, Option.some.injEq] at h₁
    exact h₁ ▸ hlast
  apply hnext
  cases hs with
  | other hrow' hposted hwaiting =>
      rw [hwaiting]
      refine ⟨t, hrow'.trans hrow, ?_, ?_⟩ <;> rw [hposted]
      · exact hpay
      · exact .refl t _
  | start hg hx hseg hwaiting =>
      rw [hwaiting]
      refine hpay.start hrow hx (fun hi ↦ ?_) hseg
      obtain ⟨hcharge, hdeclined⟩ := hg.2 x t hrow hi
      refine ⟨fun q hq ↦ ?_, hdeclined⟩
      obtain ⟨hmem, hsale⟩ := List.mem_filter.mp hq
      cases q with
      | windcaveCharge amount y =>
          obtain rfl : y = x := by simpa [saleOf] using hsale
          exact absurd hmem (hcharge amount)
      | _ => rfl
  | @resume l r φ a o ha hg hx hseg hbefore hafter =>
      rw [hafter]
      obtain ⟨_, hg⟩ := hg
      exact PayState.resume (hbefore ▸ hpay) hrow hx hg hseg
  | resend hg hmem hrow' hposted hphases =>
      obtain ⟨_, hg⟩ := hg
      rw [hphases]
      -- a charge that is waited for is one of a sale that awaits its payment
      have hstatus := hpay.charging _ hmem rfl
      refine ⟨t, hrow'.trans hrow, ?_, .of_open (.inl hstatus) (hpay.unpaid (.inl hstatus))⟩
      rw [hposted]
      exact hpay.post hstatus (hg _ _ rfl) _
  | drift hd hphases =>
      rw [hphases]
      refine ⟨t, hd.db ▸ hrow, ?_, fun _ ↦ rfl, ?_⟩
      · rcases hd.posted x with hsame | hsettles
        · exact hsame ▸ hpay
        · exact hpay.settles hsettles
      · rintro ⟨hc, hnone, hP⟩
        refine ⟨hc, hnone, ?_⟩
        rcases hd.posted x with hsame | hsettles
        · exact hsame ▸ hP
        · -- nothing is left to settle for a sale that was cancelled unpaid
          obtain ⟨p, hp, hpending⟩ := hsettles.exists_pending
          exact absurd hpending (hpay.cancelled hc hnone p hp)

theorem PayLasts.trans {x : Id} {w₁ w₂ w₃ : World} (h : PayLasts x w₁ w₂)
    (h' : PayLasts x w₂ w₃) : PayLasts x w₁ w₃ := by
  intro t₁ h₁
  obtain ⟨t₂, h₂, hlast⟩ := h t₁ h₁
  obtain ⟨t₃, h₃, hlast'⟩ := h' t₂ h₂
  refine ⟨t₃, h₃, fun hne ↦ ?_, fun hu ↦ hlast'.unpaid (hlast.unpaid hu)⟩
  have hkeep := hlast.tenders hne
  rw [← hkeep] at hne ⊢
  exact hlast'.tenders hne

/-- A run keeps the invariant, and what was paid lasts. -/
theorem payInv_run {D : Deployment} {x : Id} {c c' : Config World Call Answer PyExc}
    {d : Phased World Call} (hsim : Simulates (D.system .any) (protocol D.runtime) c d)
    (hposts : Purchases d.phases) (hd : PayInv x d) (h : Run (D.system .any) oneAtATime c c') :
    ∃ d', Simulates (D.system .any) (protocol D.runtime) c' d' ∧ Purchases d'.phases ∧
      PayInv x d' ∧ PayLasts x c.state c'.state :=
  run_of (G := oneAtATime) (fun _ _ _ hi ↦ hi.1) (fun _ _ _ hk ↦ hk)
    (fun _ t ht ↦ ⟨t, ht, .refl t _⟩) (fun _ _ _ ↦ .trans) (fun _ _ ↦ payInv_step) hsim hposts
    hd h

/-- A sale that awaits its payment, with nothing waiting. -/
theorem payInv_idle {x : Id} {w : World} {t : POSTransaction}
    (hrow : w.db.transaction x = some t) (hstatus : t.status = .awaitingPayment)
    (htenders : t.tenders = none) (hposted : ∀ p ∈ w.posted x, p.outcome = .declined) :
    PayInv x ⟨w, []⟩ := by
  have hwaits {p : Call → Prop} : ∀ q ∈ waiting x [], p q := fun _ h ↦ nomatch h
  refine ⟨t, hrow, ?_, Nat.zero_le 1, hwaits, fun _ ↦ htenders, fun hs ↦ ?_, hwaits, hwaits,
    fun d hd ↦ ?_, fun hs ↦ ?_⟩
  · rw [live_eq_nil hposted]
    exact Nat.zero_le 1
  · rw [hstatus] at hs; cases hs
  · rw [htenders] at hd; cases hd
  · rw [hstatus] at hs; cases hs

/-- At most one payment was taken: Windcave approved one purchase at most, and none when
cash was taken. -/
structure PaidOnce (t : POSTransaction) (P : List Posted) : Prop where
  card : (P.filter (·.outcome = .approved)).length ≤ 1
  cash : ∀ d ∈ t.tenders.getD [], d.type = .cash → ∀ p ∈ P, p.outcome ≠ .approved

theorem PayState.paidOnce {t : POSTransaction} {P : List Posted} {W : List Call}
    (h : PayState t P W) : PaidOnce t P where
  card := by
    exact (approved_sublist_live P).length_le.trans h.live
  cash d hd hc p hp := by simp [h.cash d hd hc p hp]

/-- **A sale is paid at most once**, for any number of payment handlers on any sales,
with any answers and in any order of their segments, where payments of one sale do not
overlap with a purchase that Windcave has not settled, and a purchase is posted again only
when the earlier ones were declined: a tender that was recorded stays the one it is, and a
sale that was cancelled unpaid is never paid. -/
theorem paid_at_most_once (D : Deployment) {w₀ : World} {x : Id} {t₀ : POSTransaction}
    (hrow : w₀.db.transaction x = some t₀) (hstatus : t₀.status = .awaitingPayment)
    (htenders : t₀.tenders = none) (hposted : ∀ p ∈ w₀.posted x, p.outcome = .declined)
    {c c' : Config World Call Answer PyExc}
    (h₀ : Run (D.system .any) oneAtATime (.idle w₀) c)
    (h : Run (D.system .any) oneAtATime c c') :
    ∃ t t', c.state.db.transaction x = some t ∧ c'.state.db.transaction x = some t' ∧
      PaidOnce t (c.state.posted x) ∧
      Lasting t (c.state.posted x) t' (c'.state.posted x) := by
  obtain ⟨d, hsim, hposts, hinv, -⟩ :=
    payInv_run (.idle _ _ w₀) purchases_nil (payInv_idle hrow hstatus htenders hposted) h₀
  obtain ⟨-, -, -, -, hlast⟩ := payInv_run hsim hposts hinv h
  obtain ⟨t, ht, hpay⟩ := hinv
  rw [← hsim.state] at ht hpay
  obtain ⟨t', ht', hkeep⟩ := hlast t ht
  exact ⟨t, t', ht, ht', hpay.paidOnce, hkeep⟩

/-- Cash was taken for a sale. -/
def cashPaid : Config World Call Answer PyExc :=
  (Config.idle (.sample (.sample .awaitingPayment))).playAll (Deployment.sample.system .any)
    [.start (.chargeCash 0 2000)]

/-- Sentry has taken the order, and the cashier has tried to charge a card as well. -/
def cardTried : Config World Call Answer PyExc :=
  cashPaid.playAll (Deployment.sample.system .any)
    [.resume 0 approvedLater, .start (.chargeCard 0)]

/-- A sale paid in cash is not paid by card as well. -/
theorem paid_at_most_once_cash :
    ∃ t t', cashPaid.state.db.transaction 0 = some t ∧
      cardTried.state.db.transaction 0 = some t' ∧
      PaidOnce t (cashPaid.state.posted 0) ∧
      Lasting t (cashPaid.state.posted 0) t' (cardTried.state.posted 0) := by
  have hrow : (World.sample (.sample .awaitingPayment)).db.transaction 0 =
      some (.sample .awaitingPayment) := rfl
  refine paid_at_most_once Deployment.sample hrow rfl rfl (fun _ h ↦ nomatch h)
    (Script.run _ ⟨⟨trivial, ?_⟩, trivial⟩)
    (Script.run _ ⟨⟨trivial, trivial⟩, ⟨trivial, ?_⟩, trivial⟩)
  · intro x t _ _
    exact ⟨fun _ h ↦ (nomatch h), fun _ h ↦ nomatch h⟩
  · intro x t _ _
    exact ⟨fun _ h ↦ (nomatch h), fun _ h ↦ nomatch h⟩

/-! ## A run that takes two payments -/

/-- While Windcave is asked for the card, the cashier takes cash. -/
def cashDuringCharge : List (Move World Call Answer Request) :=
  [.start (.chargeCard 0), .start (.chargeCash 0 2000)]

/-- Windcave approves the purchase and answers. -/
def approvedAtOnce : (q : Call) → Option (Answer q)
  | .windcaveCharge _ _ => some (.ok approvedReply)
  | _ => none

/-- The sale is paid in cash, Windcave approves the purchase as well, and its tender
takes the place of the cash tender. -/
theorem cash_sale_charged_to_card :
    ∃ c c' : Config World Call Answer PyExc,
      Run (Deployment.sample.system .any) payments
        (.idle (.sample (.sample .awaitingPayment))) c ∧
      Run (Deployment.sample.system .any) payments c c' ∧
      (∃ p ∈ c.state.posted 0, p.outcome = .approved) ∧
      (c.state.db.transaction 0).bind (·.tenders) = some [Checkout.cashTender 1081 2000] ∧
      (c'.state.db.transaction 0).bind (·.tenders) =
        some [Checkout.cardTender 1081 { approved := true, dpsTxnRef := some "ref" }] := by
  have hpay : Run (Deployment.sample.system .any) payments
      (.idle (.sample (.sample .awaitingPayment))) _ :=
    Script.run cashDuringCharge ⟨trivial, trivial, trivial⟩
  have hsettle := World.Settles.settle (l := []) (r := []) (p := ⟨0, .purchase, 1081, .pending⟩) rfl
    (o := .approved) (by decide)
  refine ⟨_, _, hpay.tail (.drift (.settle hsettle)),
    Script.run [.resume 0 approvedAtOnce] ⟨⟨trivial, trivial⟩, trivial⟩, ?_, ?_, ?_⟩
  · exact ⟨_, .head _, rfl⟩
  · decide
  · decide

end HightowerPos.Sale
