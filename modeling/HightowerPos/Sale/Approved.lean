import HightowerPos.Sale.PaidOnce

/-!
# Approved charges

A purchase that Windcave approves reaches the sale, or the service has given it up: the
cashier cancelled, the reply to the charge was lost, or the poller ran out of time.
`CardState` says of every state of a run where the purchase of a sale is; it is kept by
every segment, so that nothing else can be the case once nothing waits for the sale.
-/

namespace HightowerPos.Sale

open Async Checkout

/-- The call of a poller. -/
def isPoll : Call → Bool
  | .windcaveStatus _ _ | .respond _ | .pollSleep _ _ | .pollOn _ => true
  | _ => false

/-- The tender of an approved purchase is recorded. -/
def CardPaid (t : POSTransaction) : Prop :=
  ∃ total result, result.approved = true ∧ t.tenders = some [cardTender total result]

/-- The service has given up the purchase of a sale. -/
def GivenUp (t : POSTransaction) : Prop :=
  t.status = .cancelled ∨
  (t.status = .paymentFailed ∧ (t.lastError = some "polling_timeout" ∨
    ∃ m : String, t.lastError = some s!"windcave_unavailable: {m}"))

/-- The purchase has reached the sale. -/
def Kept (t : POSTransaction) : Prop :=
  (t.status = .complete ∨ t.status = .inventoryUpdateFailed) ∧ CardPaid t

/-- Where the purchase of a sale is. -/
inductive Fate (t : POSTransaction) (P : List Posted) (W : List Call) : Prop
  | charging {q : Call} (h : q ∈ W) (hq : isCharge q = true)
  | polled {q : Call} (hs : t.status = .paymentInFlight) (h : q ∈ W) (hq : isPoll q = true)
  | ordering {q : Call} (h : q ∈ W) (hq : isOrder q = true)
  | kept (h : Kept t)
  | givenUp (h : GivenUp t)
  | declined (h : ∀ p ∈ P, p.outcome = .declined)

/-- The invariant of one sale that is paid by card only. -/
structure CardState (t : POSTransaction) (P : List Posted) (W : List Call) : Prop where
  awaiting : t.status = .awaitingPayment → P = [] ∨ ∃ q ∈ W, isCharge q = true
  ordering : ∀ q ∈ W, isOrder q = true → CardPaid t
  fate : P ≠ [] → Fate t P W

/-- The requests that pay a sale by card, or cancel it. -/
def IsCard : Request → Prop
  | .chargeCard _ | .pollCardUntilComplete _ | .cancelCheckout _ => True
  | _ => False

theorem IsCard.isPayment {i : Request} (h : IsCard i) : IsPayment i := by
  cases i with
  | chargeCard | pollCardUntilComplete | cancelCheckout => trivial
  | _ => exact h.elim

/-- The answers that the code handles: no reply asks for a signature, Windcave's client
fails with the error that its callers catch, and so does Sentry's. -/
def Handled (rt : Runtime) : (q : Call) → Answer q → Prop
  | .windcaveCharge _ _, .ok r | .windcaveStatus _ _, .ok r => r.signatureRequired = false
  | .windcaveCharge _ _, .error e | .windcaveStatus _ _, .error e => ∃ m, e = .windcaveClient m
  | .sentryCreatePosSo _, outcome => SentryHandled rt outcome
  | _, _ => True

/-- Card payments, with answers that the code handles; a sale is not charged again while
its charge waits for Windcave. -/
def cardPayments (rt : Runtime) : Guard World Call Answer Request where
  start _ qs i := IsCard i ∧ ∀ x, i = .chargeCard x → ∀ amount, .windcaveCharge amount x ∉ qs
  resume _ _ q a := Handled rt q a
  kill _ _ _ := False

namespace CardState

variable {t t' : POSTransaction} {P : List Posted} {W W' : List Call}

/-- A segment that writes nothing, and passes on what the purchase depends on. -/
theorem wait (h : CardState t P W)
    (hcharge : ∀ q ∈ W, isCharge q = true → ∃ q ∈ W', isCharge q = true)
    (hpoll : t.status = .paymentInFlight → ∀ q ∈ W, isPoll q = true →
      ∃ q ∈ W', isPoll q = true)
    (horder : ∀ q, isOrder q = true → (q ∈ W ↔ q ∈ W')) : CardState t P W' where
  awaiting hs := (h.awaiting hs).imp_right fun ⟨q, hq, hc⟩ ↦ hcharge q hq hc
  ordering q hq ho := h.ordering q ((horder q ho).mpr hq) ho
  fate hP := by
    cases h.fate hP with
    | charging hq hc =>
        obtain ⟨q, hq, hc⟩ := hcharge _ hq hc
        exact .charging hq hc
    | polled hs hq hp =>
        obtain ⟨q, hq, hp⟩ := hpoll hs _ hq hp
        exact .polled hs hq hp
    | ordering hq ho => exact .ordering ((horder _ ho).mp hq) ho
    | kept h => exact .kept h
    | givenUp h => exact .givenUp h
    | declined h => exact .declined h

/-- A segment that moves the sale on. -/
theorem write (h : CardState t P W) (hstatus : t'.status ≠ .awaitingPayment)
    (hpaid : CardPaid t → CardPaid t')
    (horder : ∀ q ∈ W', isOrder q = true → q ∈ W ∨ CardPaid t') (hfate : Fate t' P W') :
    CardState t' P W' where
  awaiting hs := absurd hs hstatus
  ordering q hq ho := (horder q hq ho).elim (fun hold ↦ hpaid (h.ordering q hold ho)) id
  fate _ := hfate

/-- The purchase is posted again, while its charge waits for Windcave. -/
theorem post (h : CardState t P W) {q : Call} (hq : q ∈ W) (hcharge : isCharge q = true)
    {p : Posted} : CardState t (P ++ [p]) W where
  awaiting _ := .inr ⟨q, hq, hcharge⟩
  ordering := h.ordering
  fate _ := .charging hq hcharge

/-- Windcave settles the purchase. -/
theorem settles {P' : List Posted} (h : CardState t P W) (hs : World.Settles P P') :
    CardState t P' W := by
  obtain ⟨p, hp, hpending⟩ := hs.exists_pending
  have hne : P ≠ [] := List.ne_nil_of_mem hp
  refine ⟨fun hst ↦ .inr ?_, h.ordering, fun _ ↦ ?_⟩
  · exact (h.awaiting hst).resolve_left hne
  · cases h.fate hne with
    | charging hq hc => exact .charging hq hc
    | polled hs hq hp => exact .polled hs hq hp
    | ordering hq ho => exact .ordering hq ho
    | kept h => exact .kept h
    | givenUp h => exact .givenUp h
    | declined hd =>
        have := hd p hp
        rw [hpending] at this
        cases this

end CardState

section Segments

variable {rt : Runtime} {x : Id} {w w' : World} {o : Option Call} {t : POSTransaction}
  {W l r : List Call} {q : Call}

/-- The sale after a segment. -/
def CardNext (x : Id) (w' : World) (W' : List Call) : Prop :=
  ∃ t', w'.db.transaction x = some t' ∧ CardState t' (w'.posted x) W'

/-- A segment that updated the sale. -/
theorem CardState.updated (h : CardState t (w.posted x) W) (hrow : w.db.transaction x = some t)
    {u : TransactionUpdate} {W' : List Call} (hw : w.Updated x u w')
    (hstatus : (u.set t).status ≠ .awaitingPayment)
    (hpaid : CardPaid t → CardPaid ((u.touch w.now).set t))
    (horder : ∀ q ∈ W', isOrder q = true → q ∈ W ∨ CardPaid ((u.touch w.now).set t))
    (hfate : Fate ((u.touch w.now).set t) (w.posted x) W') : CardNext x w' W' := by
  refine ⟨_, hw.row_some hrow, ?_⟩
  rw [hw.posted]
  exact h.write hstatus hpaid horder hfate

/-- A segment that gives the purchase up. -/
theorem CardState.giveUp (h : CardState t (w.posted x) W)
    (hrow : w.db.transaction x = some t) {u : TransactionUpdate} {W' : List Call}
    (hw : w.Updated x u w') (htenders : (u.set t).tenders = t.tenders)
    (hgiven : GivenUp ((u.touch w.now).set t)) (hsub : ∀ q ∈ W', q ∈ W) :
    CardNext x w' W' := by
  refine h.updated hrow hw (fun hs ↦ ?_) (fun hp ↦ ?_) (fun q hq _ ↦ .inl (hsub q hq))
    (.givenUp hgiven)
  · have hst : ((u.touch w.now).set t).status = (u.set t).status := rfl
    rcases hgiven with hg | ⟨hg, -⟩ <;> rw [hst, hs] at hg <;> cases hg
  · obtain ⟨total, result, ha, ht⟩ := hp
    exact ⟨total, result, ha, htenders.trans ht⟩

/-- A finalization, of a true reply without a signature. -/
theorem CardState.finalize (h : CardState t (w.posted x) (l ++ q :: r))
    (hrow : w.db.transaction x = some t) {txn : POSTransaction} {st : WindcaveStatusResponse}
    {u v : TransactionUpdate} (hv : ∀ t, (v.set t).tenders = t.tenders)
    (hcomplete : st.complete = true) (htells : w.Tells x (.ok st))
    (hsig : st.signatureRequired = false) (ho : CardOutcome txn st u o)
    (hw : w.Updated x (v.andThen u) w') : CardNext x w' (l ++ o.toList ++ r) := by
  cases ho with
  | signature hs => rw [hsig] at hs; cases hs
  | declined _ ha =>
      refine h.updated hrow hw (fun hs ↦ (by cases hs)) (fun hpaid ↦ ?_)
        (fun q' hq' _ ↦ ?_) (.declined ((htells hcomplete).2 ha))
      · obtain ⟨total, result, ha, ht⟩ := hpaid
        exact ⟨total, result, ha, (hv t).trans ht⟩
      · rcases mem_next hq' with hq' | hq'
        · cases hq'
        · exact .inl (mem_of_others hq')
  | @approved _ ha result hresult req hreq =>
      have happroved : result.approved = true := by
        simpa [WindcaveStatusResponse.approved, hcomplete, hresult] using ha
      have hpaid : CardPaid ((TransactionUpdate.touch
          (v.andThen (cardTaken txn.totalCents result)) w.now).set t) :=
        ⟨txn.totalCents, result, happroved, rfl⟩
      refine h.updated hrow hw (fun hs ↦ (by cases hs)) (fun _ ↦ hpaid) (fun _ _ _ ↦ .inr hpaid) ?_
      exact .ordering (q := .sentryCreatePosSo req) (by simp) rfl

/-- What the others wait for is waited for after the segment as well. -/
theorem mem_next_of_others {q' : Call} (h : q' ∈ l ++ q :: r) (hne : q' ≠ q) :
    q' ∈ l ++ o.toList ++ r := by
  rcases List.mem_append.mp h with h | h
  · exact List.mem_append_left _ (List.mem_append_left _ h)
  · exact List.mem_append_right _ ((List.mem_cons.mp h).resolve_left hne)

/-- A segment that writes nothing, from a call that the purchase does not depend on. -/
theorem CardState.pass (h : CardState t (w.posted x) (l ++ q :: r))
    (hrow : w.db.transaction x = some t) (hcharge : isCharge q = false)
    (horder : isOrder q = false)
    (hpoll : isPoll q = true → t.status ≠ .paymentInFlight ∨ ∃ q' ∈ o, isPoll q' = true)
    (ho : ∀ q' ∈ o, isOrder q' = false) : CardNext x w (l ++ o.toList ++ r) := by
  have hne {q' : Call} {f : Call → Bool} (hq : f q = false) (hq' : f q' = true) : q' ≠ q := by
    rintro rfl
    rw [hq] at hq'
    cases hq'
  refine ⟨t, hrow, h.wait (fun q' hq' hc ↦ ?_) (fun hs q' hq' hp ↦ ?_) fun q' ho' ↦ ⟨fun hq' ↦ ?_,
    fun hq' ↦ ?_⟩⟩
  · exact ⟨q', mem_next_of_others hq' (hne hcharge hc), hc⟩
  · by_cases hqq : q' = q
    · obtain ⟨q'', hq'', hp''⟩ := (hpoll (hqq ▸ hp)).resolve_left fun hn ↦ hn hs
      exact ⟨q'', by simp [Option.mem_def.mp hq''], hp''⟩
    · exact ⟨q', mem_next_of_others hq' hqq, hp⟩
  · exact mem_next_of_others hq' (hne horder ho')
  · rcases mem_next hq' with hq' | hq'
    · rw [ho q' hq'] at ho'; cases ho'
    · exact mem_of_others hq'

/-- The order of a paid sale is answered. -/
theorem CardState.ordered (h : CardState t (w.posted x) (l ++ q :: r)) (hq : isOrder q = true)
    (hrow : w.db.transaction x = some t) {u : TransactionUpdate}
    (htenders : (u.set t).tenders = t.tenders)
    (hstatus : (u.set t).status = .complete ∨ (u.set t).status = .inventoryUpdateFailed)
    (hw : w.Updated x u w') : CardNext x w' (l ++ o.toList ++ r) := by
  obtain ⟨total, result, ha, ht⟩ := h.ordering q (by simp) hq
  have hpaid : CardPaid ((u.touch w.now).set t) := ⟨total, result, ha, htenders.trans ht⟩
  refine h.updated hrow hw (fun hs ↦ ?_) (fun _ ↦ hpaid) (fun _ _ _ ↦ .inr hpaid)
    (.kept ⟨hstatus, hpaid⟩)
  rcases hstatus with h | h <;> rw [hs] at h <;> cases h

/-- The first segment of a handler. -/
theorem CardState.start {i : Request} (h : CardState t (w.posted x) W)
    (hrow : w.db.transaction x = some t) (hx : subject (.start i) = some x) (hi : IsCard i)
    (hseg : SaleSegment rt (.start i) w w' o) : CardNext x w' (W ++ o.toList) := by
  have hsame {txn : POSTransaction} (h' : w.db.transaction x = some txn) : txn = t :=
    Option.some.inj (h'.symm.trans hrow)
  have hnone : W ++ (none : Option Call).toList = W := List.append_nil W
  -- nobody goes away at a start
  have hkeep {q : Call} : q ∈ W → q ∈ W ++ o.toList := List.mem_append_left _
  have hwait (ho : ∀ q ∈ o, isOrder q = false) : CardState t (w.posted x) (W ++ o.toList) := by
    refine h.wait (fun q hq hc ↦ ⟨q, hkeep hq, hc⟩) (fun _ q hq hp ↦ ⟨q, hkeep hq, hp⟩)
      fun q hq ↦ ⟨hkeep, fun hmem ↦ ?_⟩
    rcases List.mem_append.mp hmem with hmem | hmem
    · exact hmem
    · rw [ho q (Option.mem_toList.mp hmem)] at hq; cases hq
  cases hseg with
  | refused | pollOver => exact ⟨t, hrow, hwait fun _ h ↦ nomatch h⟩
  | cashTaken => exact hi.elim
  | @cardPosted y w txn hrow' hstatus =>
      obtain rfl : y = x := Option.some.inj hx
      obtain rfl := hsame hrow'
      have hmem : .windcaveCharge txn.totalCents y ∈
          W ++ (some (.windcaveCharge txn.totalCents y) : Option Call).toList := by simp
      refine ⟨txn, hrow, fun _ ↦ .inr ⟨_, hmem, rfl⟩, fun q hq ho ↦ ?_,
        fun _ ↦ .charging hmem rfl⟩
      rcases List.mem_append.mp hq with hq | hq
      · exact h.ordering q hq ho
      · obtain rfl := List.mem_singleton.mp hq
        cases ho
  | pollAsks ht hq =>
      refine ⟨t, hrow, hwait fun q hq' ↦ ?_⟩
      obtain rfl := Option.mem_some.mp hq'
      rcases hq with ⟨e, rfl⟩ | rfl <;> rfl
  | pollTimedOut ht hrow' hstatus hw =>
      obtain rfl := Option.some.inj (ht.subject_eq.symm.trans hx)
      rw [hnone]
      exact h.giveUp hrow hw rfl (.inr ⟨rfl, .inl rfl⟩) fun _ hq ↦ hq
  | cancelled hrow' hstatus hw =>
      obtain rfl : _ = x := Option.some.inj hx
      rw [hnone]
      exact h.giveUp hrow hw rfl (.inl rfl) fun _ hq ↦ hq
  | cancelSent hrow' hstatus =>
      refine ⟨t, hrow, hwait fun q hq ↦ ?_⟩
      obtain rfl := Option.mem_some.mp hq
      rfl

/-- A later segment of a handler. -/
theorem CardState.resume {a : Answer q} (h : CardState t (w.posted x) (l ++ q :: r))
    (hrow : w.db.transaction x = some t) (hx : saleOf q = some x)
    (htrue : w.Truthful q a) (hhandled : Handled rt q a)
    (hseg : SaleSegment rt (.reply q q a) w w' o) : CardNext x w' (l ++ o.toList ++ r) := by
  have hsame {txn : POSTransaction} (h' : w.db.transaction x = some txn) : txn = t :=
    Option.some.inj (h'.symm.trans hrow)
  have hsub : ∀ q' ∈ l ++ (none : Option Call).toList ++ r, q' ∈ l ++ q :: r := by
    rw [Option.toList_none, List.append_nil]
    exact fun _ ↦ mem_of_others
  -- a sale in flight stays polled
  have hpolls (hpoll : t.status ≠ .paymentInFlight ∨ ∃ q' ∈ o, isPoll q' = true)
      (hcharge : isCharge q = false) (horder : isOrder q = false)
      (ho : ∀ q' ∈ o, isOrder q' = false) : CardNext x w (l ++ o.toList ++ r) :=
    h.pass hrow hcharge horder (fun _ ↦ hpoll) ho
  cases hseg with
  | cardRaised he =>
      obtain ⟨m, rfl⟩ := hhandled
      exact absurd rfl (he m)
  | pollRaised he =>
      obtain ⟨m, rfl⟩ := hhandled
      exact absurd rfl (he m)
  | sentryRaised hres => exact absurd hhandled hres
  | cancelRaised | logged =>
      exact h.pass hrow rfl rfl (fun hp ↦ nomatch hp) fun _ h ↦ nomatch h
  | cardUnavailable hw =>
      obtain rfl : _ = x := Option.some.inj hx
      exact h.giveUp hrow hw rfl (.inr ⟨rfl, .inr ⟨_, rfl⟩⟩) hsub
  | @cardInFlight y _ _ _ _ _ hr hw =>
      obtain rfl : y = x := Option.some.inj hx
      refine h.updated hrow hw (fun hs ↦ nomatch hs) id (fun q' hq' ho ↦ ?_)
        (.polled rfl (q := .respond y) (by simp) rfl)
      rcases mem_next hq' with hq' | hq'
      · obtain rfl := Option.mem_some.mp hq'
        cases ho
      · exact .inl (mem_of_others hq')
  | cardAnswered hr hid ho hw =>
      obtain rfl : _ = x := Option.some.inj hx
      exact h.finalize hrow (fun _ ↦ rfl) hr htrue hhandled ho hw
  | pollAsks ht hq =>
      refine hpolls (.inr ⟨_, rfl, ?_⟩) ?_ ?_ fun q' hq' ↦ ?_
      · rcases hq with ⟨e, rfl⟩ | rfl <;> rfl
      · cases ht <;> rfl
      · cases ht <;> rfl
      · obtain rfl := Option.mem_some.mp hq'
        rcases hq with ⟨e, rfl⟩ | rfl <;> rfl
  | pollTimedOut ht hrow' hstatus hw =>
      obtain rfl := Option.some.inj (ht.subject_eq.symm.trans hx)
      exact h.giveUp hrow hw rfl (.inr ⟨rfl, .inl rfl⟩) hsub
  | pollOver ht hrow' =>
      obtain rfl := Option.some.inj (ht.subject_eq.symm.trans hx)
      refine hpolls (.inl (hrow' t hrow)) ?_ ?_ fun _ h ↦ nomatch h <;> cases ht <;> rfl
  | pollWaits =>
      exact hpolls (.inr ⟨_, rfl, rfl⟩) rfl rfl fun q' hq' ↦ by
        obtain rfl := Option.mem_some.mp hq'; rfl
  | pollAnswered hr hrow' hstatus ho hw =>
      obtain rfl : _ = x := Option.some.inj hx
      exact h.finalize hrow (fun _ ↦ rfl) hr htrue hhandled ho hw
  | pollAnsweredLate hrow' =>
      obtain rfl : _ = x := Option.some.inj hx
      exact hpolls (.inl (hrow' t hrow)) rfl rfl fun _ h ↦ nomatch h
  | cancelAnswered _ hw =>
      obtain rfl : _ = x := Option.some.inj hx
      exact h.giveUp hrow hw rfl (.inl rfl) hsub
  | @completed _ _ _ result _ _ at' hres hw =>
      obtain rfl : _ = x := Option.some.inj hx
      refine h.ordered rfl hrow ?_ (.inl ?_) hw <;> cases at' <;> rfl
  | sentryFailed hres htext hw =>
      obtain rfl : _ = x := Option.some.inj hx
      exact h.ordered rfl hrow rfl (.inr rfl) hw

end Segments

/-! ## Runs -/

/-- The invariant of a sale in a run. -/
def CardInv (x : Id) (d : Phased World Call) : Prop :=
  ∃ t, d.state.db.transaction x = some t ∧
    CardState t (d.state.posted x) (waiting x d.phases)

/-- One step of a run keeps the invariant. -/
theorem cardInv_step {rt : Runtime} {x : Id} {d d' : Phased World Call} (h : CardInv x d)
    (hs : StepOf rt (cardPayments rt) World.Truthful x d d') : CardInv x d' := by
  obtain ⟨t, hrow, hcard⟩ := h
  cases hs with
  | other hrow' hposted hwaiting =>
      refine ⟨t, hrow'.trans hrow, ?_⟩
      rw [hwaiting, hposted]
      exact hcard
  | start hg hx hseg hwaiting =>
      have := hcard.start hrow hx hg.1 hseg
      rwa [← hwaiting] at this
  | resume ha hg hx hseg hbefore hafter =>
      obtain ⟨_, hg⟩ := hg
      have := CardState.resume (hbefore ▸ hcard) hrow hx ha hg hseg
      rwa [← hafter] at this
  | resend _ hmem hrow' hposted hphases =>
      refine ⟨t, hrow'.trans hrow, ?_⟩
      rw [hphases, hposted]
      exact hcard.post hmem rfl
  | drift hd hphases =>
      refine ⟨t, hd.db ▸ hrow, ?_⟩
      rw [hphases]
      rcases hd.posted x with hsame | hsettles
      · exact hsame ▸ hcard
      · exact hcard.settles hsettles

/-- **No approved charge is lost unknown to the service.**  When nothing waits for a sale
any more and Windcave has approved its purchase, the sale has the tender and its order was
sent; or the cashier cancelled it, or its payment failed for want of a reply or of
time. -/
theorem approved_charge_kept (D : Deployment) {w₀ : World} {x : Id} {t₀ : POSTransaction}
    (hrow : w₀.db.transaction x = some t₀) (hposted : w₀.posted x = [])
    {c : Config World Call Answer PyExc}
    (h : Run (D.system .truthful) (cardPayments D.runtime) (.idle w₀) c)
    (hrest : ∀ q ∈ c.calls, saleOf q ≠ some x)
    (happroved : ∃ p ∈ c.state.posted x, p.outcome = .approved) :
    ∃ t, c.state.db.transaction x = some t ∧ (Kept t ∨ GivenUp t) := by
  have hinit : CardInv x ⟨w₀, []⟩ :=
    ⟨t₀, hrow, fun _ ↦ .inl hposted, fun _ h ↦ (nomatch h), fun hP ↦ absurd hposted hP⟩
  obtain ⟨d, hsim, -, ⟨t, ht, hcard⟩, -⟩ := run_of (G := cardPayments D.runtime)
    (R := fun _ _ ↦ True) (fun _ _ _ hi ↦ hi.1.isPayment) (fun _ _ _ hk ↦ hk) (fun _ ↦ trivial)
    (fun _ _ _ _ _ ↦ trivial) (fun _ _ hd hs ↦ ⟨cardInv_step hd hs, trivial⟩)
    (.idle _ _ w₀) purchases_nil hinit h
  -- nothing waits for the sale
  have hnone : waiting x d.phases = [] := by
    refine List.filter_eq_nil_iff.mpr fun q hq ↦ ?_
    have hcalls : c.calls = d.phases.map fun q ↦ q := Simulates.calls_eq hsim.pool
    rw [List.map_id'] at hcalls
    simpa using hrest q (hcalls ▸ hq)
  rw [hnone, ← hsim.state] at hcard
  rw [← hsim.state] at ht
  obtain ⟨p, hp, hout⟩ := happroved
  refine ⟨t, ht, ?_⟩
  cases hcard.fate (List.ne_nil_of_mem hp) with
  | charging hq | polled _ hq | ordering hq => cases hq
  | kept hk => exact .inl hk
  | givenUp hg => exact .inr hg
  | declined hd => rw [hd p hp] at hout; cases hout

/-- Windcave has made this of what was posted to it. -/
def settledAs (o : Outcome) (c : Config World Call Answer PyExc) :
    Config World Call Answer PyExc :=
  ⟨{ c.state with acquirer := c.state.acquirer.map fun p ↦ { p with outcome := o } }, c.pool⟩

/-- A charge is under way, and Windcave has approved it. -/
def approvedMeanwhile : Config World Call Answer PyExc :=
  settledAs .approved ((Config.idle (.sample (.sample .awaitingPayment))).playAll
    (Deployment.sample.system .truthful) [.start (.chargeCard 0), .resume 0 approvedLater])

theorem approvedMeanwhile_run :
    Run (Deployment.sample.system .truthful) (cardPayments Deployment.sample.runtime)
      (.idle (.sample (.sample .awaitingPayment))) approvedMeanwhile := by
  have hrun := Script.run (S := Deployment.sample.system .truthful)
    (G := cardPayments Deployment.sample.runtime)
    (c := .idle (.sample (.sample .awaitingPayment)))
    [.start (.chargeCard 0), .resume 0 approvedLater]
    ⟨⟨trivial, fun _ _ _ h ↦ nomatch h⟩, ⟨fun h ↦ (nomatch h), rfl⟩, trivial⟩
  exact hrun.tail (.drift (.settle (.settle (l := []) (r := [])
    (p := ⟨0, .purchase, 1081, .pending⟩) rfl (o := .approved) (by decide))))

/-- The sale of the approved charge has its tender. -/
theorem approved_charge_kept_polled :
    ∃ t, (approvedMeanwhile.playAll (Deployment.sample.system .truthful)
        [.resume 0 approvedLater, .resume 0 approvedLater,
          .resume 0 approvedLater]).state.db.transaction 0 = some t ∧
      (Kept t ∨ GivenUp t) := by
  have hrow : (World.sample (.sample .awaitingPayment)).db.transaction 0 =
      some (.sample .awaitingPayment) := rfl
  refine approved_charge_kept Deployment.sample hrow rfl
    (approvedMeanwhile_run.trans
      (Script.run _ ⟨⟨trivial, trivial⟩, ⟨?_, rfl⟩, ⟨trivial, ?_⟩, trivial⟩))
    (by decide) ⟨_, .head _, rfl⟩
  · exact fun _ ↦ ⟨fun _ ↦ ⟨_, .head _, rfl⟩, fun h ↦ nomatch h⟩
  · exact .inl ⟨⟨"SO-1"⟩, by rfl⟩

/-! ## Runs that end without the tender -/

/-- In a run Windcave approves the charge of the sample sale, and the sale ends in this
status, with this error and no tender. -/
def Dropped (D : Deployment) (s : Status) (error : Option String) : Prop :=
  ∃ c : Config World Call Answer PyExc,
    Run (D.system .truthful) (cardPayments D.runtime) (.idle (.sample (.sample .awaitingPayment)))
      c ∧ c.calls = [] ∧ (∃ p ∈ c.state.posted 0, p.outcome = .approved) ∧
      (c.state.db.transaction 0).map (fun t ↦ (t.status, t.lastError, t.tenders)) =
        some (s, error, none)

/-- Windcave takes no notice of the cancel. -/
def cancelIgnored : (q : Call) → Option (Answer q)
  | .windcaveCancel _ => some (.ok false)
  | _ => none

/-- The replies of Windcave are lost. -/
def repliesLost : (q : Call) → Option (Answer q)
  | .windcaveCharge _ _ | .windcaveStatus _ _ => some (.error (.windcaveClient "timeout"))
  | .respond _ | .pollSleep _ _ => some ()
  | _ => none

/-- A register that polls for one second. -/
def briefly : Deployment :=
  { Deployment.sample with
    settings := { Deployment.sample.settings with windcaveMaxPollDurationS := 1 } }

/-- Windcave approves the charge of a sale that the cashier cancels, of one whose first
reply is lost, and of one whose poller runs out of time. -/
theorem approved_charge_dropped :
    Dropped .sample .cancelled none ∧
      Dropped .sample .paymentFailed (some "windcave_unavailable: timeout") ∧
      Dropped briefly .paymentFailed (some "polling_timeout") := by
  have hsettle := World.Settles.settle (l := []) (r := []) (p := ⟨0, .purchase, 1081, .pending⟩)
    rfl (o := .approved) (by decide)
  refine ⟨?_, ?_, ?_⟩
  · refine ⟨_, approvedMeanwhile_run.trans (Script.run [.start (.cancelCheckout 0),
      .resume 1 cancelIgnored, .resume 0 approvedLater, .resume 0 approvedLater] ?_), ?_, ?_, ?_⟩
    · refine ⟨⟨trivial, fun _ h ↦ nomatch h⟩, ⟨trivial, trivial⟩, ⟨trivial, trivial⟩,
        ⟨?_, rfl⟩, trivial⟩
      exact fun _ ↦ ⟨fun _ ↦ ⟨_, .head _, rfl⟩, fun h ↦ nomatch h⟩
    · decide
    · exact ⟨_, .head _, rfl⟩
    · decide
  · have hrun := Script.run (S := Deployment.sample.system .truthful)
      (G := cardPayments Deployment.sample.runtime)
      (c := .idle (.sample (.sample .awaitingPayment)))
      [.start (.chargeCard 0)] ⟨⟨trivial, fun _ _ _ h ↦ nomatch h⟩, trivial⟩
    refine ⟨_, (hrun.tail (.drift (.settle hsettle))).trans
      (Script.run [.resume 0 repliesLost] ⟨⟨trivial, ⟨_, rfl⟩⟩, trivial⟩), ?_, ?_, ?_⟩
    · decide
    · exact ⟨_, .head _, rfl⟩
    · decide
  · have hrun := Script.run (S := briefly.system .truthful)
      (G := cardPayments briefly.runtime) (c := .idle (.sample (.sample .awaitingPayment)))
      [.start (.chargeCard 0), .resume 0 approvedLater, .resume 0 repliesLost]
      ⟨⟨trivial, fun _ _ _ h ↦ nomatch h⟩, ⟨fun h ↦ (nomatch h), rfl⟩, ⟨trivial, trivial⟩, trivial⟩
    refine ⟨_, (hrun.tail (.drift (.settle hsettle))).trans
      (Script.run [.resume 0 repliesLost, .resume 0 repliesLost]
        ⟨⟨trivial, ⟨_, rfl⟩⟩, ⟨trivial, trivial⟩, trivial⟩), ?_, ?_, ?_⟩
    · decide
    · exact ⟨_, .head _, rfl⟩
    · decide

end HightowerPos.Sale
