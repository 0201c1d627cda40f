import HightowerPos.Sale.Protocol

/-!
# Terminal statuses of a sale

A payment handler that waits for an order from Sentry owns the sale it paid: the sale
is in `PAYMENT_SUCCESS`, and no other handler waits for an order for it
(`SoleSender`).  The invariant is kept by every segment except those that act on a
status read before an await.  `charge_card` and `cancel_checkout` have such a segment:
they write after Windcave has answered without looking at the row again, unlike the
poller.  Runs in which they find the sale still open keep terminal statuses; the run at
the end of the file shows a `COMPLETE` sale become `CANCELLED`.
-/

namespace HightowerPos.Sale

open Async Checkout

/-- The call is the order of the sale `x`. -/
def sends (x : Id) : Call → Bool
  | .sentryCreatePosSo req => req.idempotencyKey = x
  | _ => false

/-- The sale may still be paid or cancelled. -/
def Open (s : Option Status) : Prop := s = some .awaitingPayment ∨ s = some .paymentInFlight

/-- The segment acts on what it read of `x` before its await. -/
def Stale (x : Id) : Trig → Prop
  | .reply _ (.windcaveCharge _ y) a => y = x ∧ GoesOn a
  | .reply _ (.windcaveCancel y) a => y = x ∧ GoesOn a
  | _ => False

/-- The segment handles the order of `x`. -/
def Ordered (x : Id) : Trig → Prop
  | .reply _ q _ => sends x q = true
  | .start _ => False

/-- A finalization assigns a status, and awaits an order for its own sale only, which it
leaves in `PAYMENT_SUCCESS`. -/
theorem CardOutcome.status {txn : POSTransaction} {st : WindcaveStatusResponse}
    {u : TransactionUpdate} {o : Option Call} (h : CardOutcome txn st u o) :
    ∃ s, (∀ t, (u.set t).status = s) ∧
      ∀ x, ∀ φ ∈ o, sends x φ = true → x = txn.id ∧ s = .paymentSuccess := by
  cases h with
  | signature | declined => exact ⟨_, fun _ ↦ rfl, fun _ _ h ↦ nomatch h⟩
  | approved _ _ _ hreq =>
      refine ⟨_, fun _ ↦ rfl, fun x φ hφ hx ↦ ⟨?_, rfl⟩⟩
      obtain rfl := Option.mem_some.mp hφ
      exact (of_decide_eq_true hx).symm.trans hreq

/-- **What a segment does to the status of a sale.**  It leaves it alone; or it acts on
an open sale, or on one it read earlier; or it handles the order for it. -/
theorem SaleSegment.effect {rt : Runtime} {t : Trig} {w w' : World} {o : Option Call}
    (h : SaleSegment rt t w w' o) (x : Id) :
    (w'.status x = w.status x ∧ ∀ φ ∈ o, sends x φ = false) ∨
    ((Open (w.status x) ∨ Stale x t) ∧
      (Open (w.status x) → ∀ φ ∈ o, sends x φ = true → w'.status x = some .paymentSuccess)) ∨
    (Ordered x t ∧ ∀ φ ∈ o, sends x φ = false) := by
  -- a segment about another sale
  have hother {y : Id} {u : TransactionUpdate} (hw : w.Updated y u w') (hy : x ≠ y)
      (ho : ∀ φ ∈ o, sends x φ = true → x = y) :
      w'.status x = w.status x ∧ ∀ φ ∈ o, sends x φ = false :=
    ⟨hw.status_ne hy, fun φ hφ ↦ by
      cases hs : sends x φ with
      | false => rfl
      | true => exact absurd (ho φ hφ hs) hy⟩
  -- a finalization
  have hcard {y : Id} {txn : POSTransaction} {st : WindcaveStatusResponse}
      {u v : TransactionUpdate} (hid : txn.id = y) (ho : CardOutcome txn st u o)
      (hw : w.Updated y (v.andThen u) w') (hgo : Open (w.status y) ∨ Stale y t) :
      (w'.status x = w.status x ∧ ∀ φ ∈ o, sends x φ = false) ∨
      ((Open (w.status x) ∨ Stale x t) ∧
        (Open (w.status x) → ∀ φ ∈ o, sends x φ = true →
          w'.status x = some .paymentSuccess)) := by
    obtain ⟨s, hs, horder⟩ := ho.status
    by_cases hxy : x = y
    · subst hxy
      refine .inr ⟨hgo, fun hopen φ hφ hx ↦ ?_⟩
      rw [← (horder x φ hφ hx).2]
      exact hw.status (fun t ↦ hs _) (by rcases hopen with h | h <;> simp [h])
    · exact .inl (hother hw hxy fun φ hφ hx ↦ (horder x φ hφ hx).1.trans hid)
  cases h with
  | refused | pollOver | pollRaised | pollAnsweredLate | cancelRaised | cardRaised
  | sentryRaised | logged => exact .inl ⟨rfl, fun _ h ↦ nomatch h⟩
  | cardPosted | pollWaits | cancelSent =>
      exact .inl ⟨rfl, fun _ h ↦ by obtain rfl := Option.mem_some.mp h; rfl⟩
  | pollAsks _ hq =>
      refine .inl ⟨rfl, fun _ h ↦ ?_⟩
      obtain rfl := Option.mem_some.mp h
      rcases hq with ⟨e, rfl⟩ | rfl <;> rfl
  | @cashTaken y amount _ _ txn req hrow hstatus _ hw hreq =>
      by_cases hxy : x = y
      · subst hxy
        have hst := World.status_of_row hrow
        rw [hstatus] at hst
        exact .inr (.inl ⟨.inl (.inl hst), fun _ _ _ _ ↦
          hw.status (fun _ ↦ rfl) (by simp [hst])⟩)
      · refine .inl (hother hw hxy fun φ hφ hx ↦ ?_)
        obtain rfl := Option.mem_some.mp hφ
        exact (of_decide_eq_true hx).symm.trans hreq
  | @cardUnavailable y _ _ _ _ _ hw =>
      by_cases hxy : x = y
      · subst hxy
        exact .inr (.inl ⟨.inr ⟨rfl, _, rfl⟩, fun _ _ h ↦ nomatch h⟩)
      · exact .inl (hother hw hxy fun _ h ↦ nomatch h)
  | @cardInFlight y _ _ _ _ _ _ hw =>
      by_cases hxy : x = y
      · subst hxy
        refine .inr (.inl ⟨.inr ⟨rfl, trivial⟩, fun _ _ h hs ↦ ?_⟩)
        obtain rfl := Option.mem_some.mp h
        cases hs
      · refine .inl (hother hw hxy fun _ h hs ↦ ?_)
        obtain rfl := Option.mem_some.mp h
        cases hs
  | cardAnswered _ hid ho hw =>
      exact (hcard hid ho hw (.inr ⟨rfl, trivial⟩)).imp_right .inl
  | pollAnswered _ hrow hstatus ho hw =>
      have hst := World.status_of_row hrow
      rw [hstatus] at hst
      exact (hcard (Table.key_of_get? hrow) ho hw (.inl (.inr hst))).imp_right .inl
  | @pollTimedOut y _ _ _ _ _ hrow hstatus hw =>
      by_cases hxy : x = y
      · subst hxy
        have hst := World.status_of_row hrow
        rw [hstatus] at hst
        exact .inr (.inl ⟨.inl (.inr hst), fun _ _ h ↦ nomatch h⟩)
      · exact .inl (hother hw hxy fun _ h ↦ nomatch h)
  | @cancelled y _ _ _ hrow hstatus hw =>
      by_cases hxy : x = y
      · subst hxy
        have hst := World.status_of_row hrow
        refine .inr (.inl ⟨.inl ?_, fun _ _ h ↦ nomatch h⟩)
        rcases hstatus with h | ⟨h, -⟩ <;> rw [h] at hst
        · exact .inl hst
        · exact .inr hst
      · exact .inl (hother hw hxy fun _ h ↦ nomatch h)
  | @cancelAnswered y _ _ _ _ ha hw =>
      by_cases hxy : x = y
      · subst hxy
        exact .inr (.inl ⟨.inr ⟨rfl, ha⟩, fun _ _ h ↦ nomatch h⟩)
      · exact .inl (hother hw hxy fun _ h ↦ nomatch h)
  | @completed _ req _ _ _ _ _ _ hw =>
      by_cases hxy : x = req.idempotencyKey
      · exact .inr (.inr ⟨decide_eq_true hxy.symm, fun _ h ↦ nomatch h⟩)
      · exact .inl (hother hw hxy fun _ h ↦ nomatch h)
  | @sentryFailed _ req _ _ _ _ _ _ _ _ _ hw =>
      by_cases hxy : x = req.idempotencyKey
      · refine .inr (.inr ⟨decide_eq_true hxy.symm, fun _ h ↦ ?_⟩)
        obtain rfl := Option.mem_some.mp h
        rfl
      · refine .inl (hother hw hxy fun _ h hs ↦ ?_)
        obtain rfl := Option.mem_some.mp h
        cases hs

/-! ## Who owns a paid sale -/

/-- The number of handlers that wait for the order of `x`. -/
def senders (x : Id) (φs : List Call) : Nat := φs.countP (sends x)

/-- At most one handler waits for an order for a sale, and only while the sale is in
`PAYMENT_SUCCESS`. -/
def SoleSender (d : Phased World Call) : Prop :=
  ∀ x, senders x d.phases ≤ 1 ∧
    (0 < senders x d.phases → d.state.status x = some .paymentSuccess)

theorem senders_append (x : Id) (l r : List Call) :
    senders x (l ++ r) = senders x l + senders x r := List.countP_append

theorem senders_toList_eq_zero {x : Id} {o : Option Call} (h : ∀ φ ∈ o, sends x φ = false) :
    senders x o.toList = 0 := by
  cases o with
  | none => rfl
  | some φ => simp [senders, h φ rfl]

theorem senders_toList_le (x : Id) (o : Option Call) : senders x o.toList ≤ 1 := by
  cases o with
  | none => simp [senders]
  | some φ => exact List.countP_le_length

/-- Payments run, and `charge_card` and `cancel_checkout` find the sale still open when
Windcave has answered them and they go on. -/
def whileOpen : Guard World Call Answer Request where
  start _ _ i := IsPayment i
  resume w _ q a := match q, a with
    | .windcaveCharge _ x, a => GoesOn a → Open (w.status x)
    | .windcaveCancel x, a => GoesOn a → Open (w.status x)
    | _, _ => True
  kill _ _ _ := False

/-- The terminal statuses of a sale that was validated. -/
def Terminal (s : Status) : Prop := s = .complete ∨ s = .cancelled ∨ s = .paymentFailed

/-- A segment that finds every sale it acts on open or owned keeps ownership, and keeps
terminal statuses; `l` and `r` are the phases of the
other handlers, `b` counts the orders of the handler that runs. -/
theorem SaleSegment.soleSender {rt : Runtime} {t : Trig} {w w' : World} {o : Option Call}
    {l r : List Call} {b : Id → Nat} (h : SaleSegment rt t w w' o)
    (hstale : ∀ x, Stale x t → Open (w.status x))
    (hbefore : ∀ x, senders x l + b x + senders x r ≤ 1 ∧
      (0 < senders x l + b x + senders x r → w.status x = some .paymentSuccess))
    (hordered : ∀ x, Ordered x t → b x = 1) :
    SoleSender ⟨w', l ++ o.toList ++ r⟩ ∧
      ∀ x s, w.status x = some s → Terminal s → w'.status x = some s := by
  have heffect (x : Id) := h.effect x
  refine ⟨fun x ↦ ?_, fun x s hs hterm ↦ ?_⟩
  · simp only [senders_append]
    obtain ⟨hle, hsucc⟩ := hbefore x
    rcases heffect x with ⟨hst, ho⟩ | ⟨hopen, hsend⟩ | ⟨hord, ho⟩
    · rw [senders_toList_eq_zero ho, hst]
      exact ⟨by omega, fun _ ↦ hsucc (by omega)⟩
    · have hopen : Open (w.status x) := hopen.elim (fun h ↦ h) (hstale x)
      -- the sale is open, so nobody waits for its order
      have hzero : senders x l + b x + senders x r = 0 := by
        by_contra hne
        have := hsucc (by omega)
        rcases hopen with h | h <;> simp [this] at h
      have := senders_toList_le x o
      refine ⟨by omega, fun hpos ↦ ?_⟩
      by_cases hall : ∀ φ ∈ o, sends x φ = false
      · rw [senders_toList_eq_zero hall] at hpos
        omega
      · obtain ⟨φ, hφ, hx⟩ : ∃ φ ∈ o, sends x φ = true := by simpa using hall
        exact hsend hopen φ hφ hx
    · have := hordered x hord
      rw [senders_toList_eq_zero ho]
      exact ⟨by omega, fun _ ↦ by omega⟩
  · obtain ⟨hle, hsucc⟩ := hbefore x
    rcases heffect x with ⟨hst, -⟩ | ⟨hopen, -⟩ | ⟨hord, -⟩
    · rw [hst, hs]
    · have hopen : Open (w.status x) := hopen.elim (fun h ↦ h) (hstale x)
      rw [hs] at hopen
      rcases hterm with rfl | rfl | rfl <;> rcases hopen with h | h <;> cases h
    · have := hsucc (by rw [hordered x hord]; omega)
      rw [hs] at this
      rcases hterm with rfl | rfl | rfl <;> cases this

/-- One step keeps ownership and terminal statuses. -/
theorem soleSender_step {D : Deployment} {d d' : Phased World Call} (h : SoleSender d)
    (hs : (protocol D.runtime).Step (D.system .any) whileOpen d d') :
    SoleSender d' ∧
      ∀ x s, d.state.status x = some s → Terminal s → d'.state.status x = some s := by
  cases hs with
  | @start w w' l o i hg hseg =>
      have := SaleSegment.soleSender (l := l) (r := []) (b := fun _ ↦ 0) hseg
        (fun _ hx ↦ nomatch hx) h (fun _ hx ↦ nomatch hx)
      rwa [List.append_nil] at this
  | @resume w w' l r o φ a ha hg hseg =>
      refine hseg.soleSender (b := fun x ↦ senders x [φ]) (fun x hx ↦ ?_) (fun x ↦ ?_)
        fun x hx ↦ ?_
      · change Call at φ
        cases φ with
        | windcaveCharge | windcaveCancel =>
            obtain ⟨rfl, ha⟩ := hx
            exact hg ha
        | _ => exact hx.elim
      · have := h x
        rw [show l ++ φ :: r = l ++ [φ] ++ r by simp] at this
        simpa only [senders_append] using this
      · have hφ : sends x φ = true := hx
        simp [senders, hφ]
  | kill _ hg => exact hg.elim
  | resend φ =>
      have hst (w : World) (x : Id) : (w.send φ).status x = w.status x := by
        rw [World.status, World.send_db, World.status]
      refine ⟨fun x ↦ ⟨(h x).1, fun hpos ↦ ?_⟩, fun x s hs _ ↦ (hst _ x).trans hs⟩
      exact (hst _ x).trans ((h x).2 hpos)
  | drift hd =>
      have hst (x : Id) : ∀ {w w' : World}, World.Drift w w' → w'.status x = w.status x := by
        rintro _ _ (_ | _) <;> rfl
      refine ⟨fun x ↦ ?_, fun x s hs _ ↦ (hst x hd).trans hs⟩
      have := h x
      exact ⟨this.1, fun hpos ↦ (hst x hd).trans (this.2 hpos)⟩

/-- The state in which nothing waits is owned by nobody. -/
theorem soleSender_idle (w : World) : SoleSender ⟨w, []⟩ :=
  fun _ ↦ ⟨Nat.zero_le _, fun h ↦ absurd h (lt_irrefl 0)⟩

/-- Ownership holds in every reachable state, and a run from there keeps terminal
statuses. -/
theorem soleSender_run {D : Deployment} {d d' : Phased World Call} (h : SoleSender d)
    (hrun : (protocol D.runtime).Run (D.system .any) whileOpen d d') :
    SoleSender d' ∧
      ∀ x s, d.state.status x = some s → Terminal s → d'.state.status x = some s := by
  induction hrun with
  | refl => exact ⟨h, fun _ _ hs _ ↦ hs⟩
  | tail _ hs ih =>
      obtain ⟨hinv, hkeep⟩ := soleSender_step ih.1 hs
      exact ⟨hinv, fun x s hx hterm ↦ hkeep x s (ih.2 x s hx hterm) hterm⟩

/-! ## Sample answers -/

/-- The reply to a charge that is under way. -/
def underWay : WindcaveStatusResponse := {}

/-- The reply to a charge that was approved. -/
def approvedReply : WindcaveStatusResponse where
  complete := true
  result := some { approved := true, dpsTxnRef := some "ref" }

/-- The answers of a charge that is under way first and approved then, while a cancel
goes through as well. -/
def approvedLater : (q : Call) → Option (Answer q)
  | .windcaveCharge _ _ => some (.ok underWay)
  | .windcaveStatus _ _ => some (.ok approvedReply)
  | .windcaveCancel _ => some (.ok true)
  | .respond _ => some ()
  | .sentryCreatePosSo _ => some (.ok (.order "SO-1"))
  | _ => none

/-- A card sale that is approved by the poller. -/
def paidByCard : List (Move World Call Answer Request) :=
  [.start (.chargeCard 0), .resume 0 approvedLater, .resume 0 approvedLater,
    .resume 0 approvedLater, .resume 0 approvedLater]

/-- The cashier cancels. -/
def tryCancel : List (Move World Call Answer Request) := [.start (.cancelCheckout 0)]

/-! ## Absorption -/

/-- **Terminal statuses are absorbing** in every interleaving of any number of payment
handlers, on any sales, with any answers, as long as `charge_card` and
`cancel_checkout` find the sale still open after their await. -/
theorem terminal_absorbing (D : Deployment) {w₀ : World}
    {c c' : Config World Call Answer PyExc}
    (h₀ : Run (D.system .any) whileOpen (.idle w₀) c)
    (h : Run (D.system .any) whileOpen c c') {x : Id} {s : Status}
    (hs : c.state.status x = some s) (hterm : Terminal s) : c'.state.status x = some s := by
  have hall : ∀ i w l, (whileOpen : Guard World Call Answer Request).start w l i →
      (D.system .any).Follows (protocol D.runtime) i :=
    fun i _ _ hi ↦ payment_follows D .any hi
  obtain ⟨d, hrun, hsim⟩ := h₀.simulate hall (.idle _ _ w₀)
  obtain ⟨d', hrun', hsim'⟩ := h.simulate hall hsim
  obtain ⟨hinv, -⟩ := soleSender_run (soleSender_idle w₀) hrun
  rw [hsim'.state]
  exact (soleSender_run hinv hrun').2 x s (hsim.state ▸ hs) hterm

/-- A completed card sale stays complete when the cashier tries to cancel it. -/
theorem terminal_absorbing_paidByCard :
    (((Config.idle (.sample (.sample .awaitingPayment))).playAll (Deployment.sample.system .any)
      paidByCard).playAll (Deployment.sample.system .any) tryCancel).state.status 0 =
      some .complete := by
  have h₀ : Run (Deployment.sample.system .any) whileOpen
      (.idle (.sample (.sample .awaitingPayment))) _ :=
    Script.run paidByCard ⟨trivial, ⟨trivial, fun _ ↦ .inl rfl⟩, ⟨trivial, trivial⟩,
      ⟨trivial, trivial⟩, ⟨trivial, trivial⟩, trivial⟩
  exact terminal_absorbing Deployment.sample h₀ (Script.run tryCancel ⟨trivial, trivial⟩)
    (x := 0) (by decide) (.inl rfl)

/-! ## A run that overwrites a completed sale -/

/-- A charge under way is cancelled, and while Windcave is asked to cancel it the poller
completes the sale. -/
def cancelDuringPoll : List (Move World Call Answer Request) :=
  [.start (.chargeCard 0), .resume 0 approvedLater, .start (.cancelCheckout 0),
    .resume 0 approvedLater, .resume 0 approvedLater, .resume 0 approvedLater]

/-- The sale is `COMPLETE`, and the answer to the cancel makes it `CANCELLED`. -/
theorem complete_sale_cancelled :
    ∃ c c' : Config World Call Answer PyExc,
      Run (Deployment.sample.system .any) payments
        (.idle (.sample (.sample .awaitingPayment))) c ∧
      Run (Deployment.sample.system .any) payments c c' ∧
      c.state.status 0 = some .complete ∧ c'.state.status 0 = some .cancelled := by
  refine ⟨_, _, Script.run cancelDuringPoll ?_,
    Script.run [.resume 0 approvedLater] ?_, ?_, ?_⟩
  · exact ⟨trivial, ⟨trivial, trivial⟩, trivial, ⟨trivial, trivial⟩, ⟨trivial, trivial⟩,
      ⟨trivial, trivial⟩, trivial⟩
  · exact ⟨⟨trivial, trivial⟩, trivial⟩
  · decide
  · decide

end HightowerPos.Sale
