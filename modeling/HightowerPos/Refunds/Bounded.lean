import HightowerPos.Refunds.Protocol

/-!
# A sale is not refunded twice

A refund row that is *over* stays so: it is no longer pending, Windcave has declined
everything that was posted for it, and no cash was handed back for it.  Of the refunds
of one sale at most one is not over, and that one costs what the sale cost.  This holds
as long as a refund is given up only once Windcave has declined it, and is posted, and
posted again, only then; the run at the end of the file pays a sale back twice.
-/

namespace HightowerPos.Refunds

open Async Refund

/-! ## What a segment does to a row -/

/-- The segment gives up the refund `r`, whose row is `t`, without an answer of Windcave that
declines it: a poller and a cancel look at the row first. -/
inductive GivesUp (settings : Settings) (r : Id) (t : POSTransaction) : Trig → Prop
  | unavailable {φ : Call} {amount : Cents} {dps m : String} :
      GivesUp settings r t (.reply φ (.windcaveRefund amount dps r) (.error (.windcaveClient m)))
  | signatureAtOnce {φ : Call} {amount : Cents} {dps : String} {st : WindcaveStatusResponse}
      (hst : st.complete = true) (hs : st.signatureRequired = true) :
      GivesUp settings r t (.reply φ (.windcaveRefund amount dps r) (.ok st))
  | signature {φ : Call} {e : Int} {st : WindcaveStatusResponse}
      (hflight : t.status = .refundPaymentInFlight) (hst : st.complete = true)
      (hs : st.signatureRequired = true) :
      GivesUp settings r t (.reply φ (.windcaveStatus r e) (.ok st))
  | deadline {e : Int} {trig : Trig} (hflight : t.status = .refundPaymentInFlight)
      (ht : Polling settings r e trig) (he : Checkout.PastDeadline settings e) :
      GivesUp settings r t trig
  | cancel (hopen : t.status = .refundPending ∨ t.status = .refundPaymentInFlight) :
      GivesUp settings r t (.start (.cancelRefund r))

/-- Windcave answers that it has declined the refund `r`. -/
inductive Declines (r : Id) : Trig → Prop
  | atOnce {φ : Call} {amount : Cents} {dps : String} {st : WindcaveStatusResponse}
      (hst : st.complete = true) (ha : st.approved = false) :
      Declines r (.reply φ (.windcaveRefund amount dps r) (.ok st))
  | polled {φ : Call} {e : Int} {st : WindcaveStatusResponse} (hst : st.complete = true)
      (ha : st.approved = false) : Declines r (.reply φ (.windcaveStatus r e) (.ok st))

/-- The columns of a refund that never change. -/
structure Same (t t' : POSTransaction) : Prop where
  txnType : t'.txnType = t.txnType
  parent : t'.parentTransactionId = t.parentTransactionId
  total : t'.totalCents = t.totalCents
  method : t'.paymentMethod = t.paymentMethod

/-- What a segment does to the row `r`, and to what Windcave holds for it. -/
inductive RowStep (settings : Settings) (trig : Trig) (r : Id) (t : POSTransaction)
    (P : List Posted) : POSTransaction → List Posted → Prop
  | idle {t' : POSTransaction} (hsame : Same t t') (hstatus : t'.status = t.status)
      (htenders : t'.tenders = t.tenders) : RowStep settings trig r t P t' P
  | /-- Sentry has answered. -/
    sent {t' : POSTransaction} (hsame : Same t t')
      (hstatus : t'.status = .complete ∨ t'.status = .refundInventoryUpdateFailed)
      (htenders : t'.tenders = t.tenders) : RowStep settings trig r t P t' P
  | cash {t' : POSTransaction} (hsame : Same t t') (hpending : t.status = .refundPending)
      (hmethod : t.paymentMethod = some .cash) (hstatus : t'.status = .refundPaymentSuccess)
      (htenders : t'.tenders = some [cashTender t.totalCents]) : RowStep settings trig r t P t' P
  | posted (htrig : trig = .start (.chargeCardRefund r)) (hpending : t.status = .refundPending)
      (hmethod : t.paymentMethod = some .card) :
      RowStep settings trig r t P t (P ++ [⟨r, .refund, t.totalCents.natAbs, .pending⟩])
  | /-- Windcave has answered, and the refund goes on. -/
    card {t' : POSTransaction} (hsame : Same t t')
      (hcard : t.status = .refundPaymentInFlight ∨
        ∃ φ amount dps a, trig = .reply φ (.windcaveRefund amount dps r) a)
      (hstatus : t'.status = .refundPaymentInFlight ∨ t'.status = .refundPaymentSuccess)
      (htenders : t'.tenders = t.tenders ∨
        ∃ d : Tender, d.type = .card ∧ t'.tenders = some [d]) : RowStep settings trig r t P t' P
  | ended {t' : POSTransaction} (hsame : Same t t')
      (hcard : t.status = .refundPaymentInFlight ∨ t.status = .refundPending ∨
        ∃ φ amount dps a, trig = .reply φ (.windcaveRefund amount dps r) a)
      (hgives : GivesUp settings r t trig ∨ Declines r trig)
      (hstatus : t'.status = .refundPaymentFailed ∨ t'.status = .cancelled)
      (htenders : t'.tenders = t.tenders) : RowStep settings trig r t P t' P

theorem Same.refl (t : POSTransaction) : Same t t := ⟨rfl, rfl, rfl, rfl⟩

theorem RowStep.same {settings : Settings} {trig : Trig} {r : Id} {t t' : POSTransaction}
    {P P' : List Posted} (h : RowStep settings trig r t P t' P') : Same t t' := by
  cases h with
  | posted => exact .refl t
  | idle hsame | sent hsame | cash hsame | card hsame | ended hsame => exact hsame

theorem SentryWrites.same {u : TransactionUpdate} (h : SentryWrites u) (t : POSTransaction) :
    Same t (u.set t) ∧ (u.set t).tenders = t.tenders ∧ ((u.set t).status = t.status ∨
      (u.set t).status = .complete ∨ (u.set t).status = .refundInventoryUpdateFailed) := by
  cases h with
  | completed soId a =>
      cases a <;> exact ⟨⟨rfl, rfl, rfl, rfl⟩, rfl, .inr (.inl rfl)⟩
  | failed => exact ⟨⟨rfl, rfl, rfl, rfl⟩, rfl, .inr (.inr rfl)⟩
  | retried => exact ⟨⟨rfl, rfl, rfl, rfl⟩, rfl, .inr (.inl rfl)⟩
  | retryFailed => exact ⟨⟨rfl, rfl, rfl, rfl⟩, rfl, .inl rfl⟩

/-- **What a segment does to a row that is there.** -/
theorem RefundSegment.effect {settings : Settings} {trig : Trig} {w w' : World}
    {o : Option Call} (h : RefundSegment settings trig w w' o) {r : Id} {t : POSTransaction}
    (hrow : w.db.transaction r = some t) :
    ∃ t', w'.db.transaction r = some t' ∧
      RowStep settings trig r t (w.posted r) t' (w'.posted r) := by
  have hidle : ∃ t', w.db.transaction r = some t' ∧
      RowStep settings trig r t (w.posted r) t' (w.posted r) :=
    ⟨t, hrow, .idle (.refl t) rfl rfl⟩
  -- an update of one row leaves the others as they are
  have hupdated {y : Id} {u : TransactionUpdate} (hw : w.Updated y u w')
      (hstep : y = r → RowStep settings trig r t (w.posted r) ((u.touch w.now).set t)
        (w.posted r)) :
      ∃ t', w'.db.transaction r = some t' ∧
        RowStep settings trig r t (w.posted r) t' (w'.posted r) := by
    rw [hw.posted]
    by_cases hy : y = r
    · subst hy
      exact ⟨_, hw.row_some hrow, hstep rfl⟩
    · exact ⟨t, (hw.others r fun hr ↦ hy hr.symm).trans hrow, .idle (.refl t) rfl rfl⟩
  have hsame {y : Id} {txn : POSTransaction} (h' : w.db.transaction y = some txn)
      (hy : y = r) : txn = t := by
    subst hy
    exact Option.some.inj (h'.symm.trans hrow)
  -- a finalization
  have hanswer {y : Id} {refund : POSTransaction} {st : WindcaveStatusResponse}
      {u : TransactionUpdate} (hw : w.Updated y ((Checkout.replied st.rawXml).andThen u) w')
      (ho : RefundOutcome refund st u o)
      (hcard : y = r → t.status = .refundPaymentInFlight ∨
        ∃ φ amount dps a, trig = .reply φ (.windcaveRefund amount dps r) a)
      (hsig : st.signatureRequired = true → y = r → GivesUp settings r t trig)
      (hdecl : st.approved = false → y = r → Declines r trig) :
      ∃ t', w'.db.transaction r = some t' ∧
        RowStep settings trig r t (w.posted r) t' (w'.posted r) := by
    refine hupdated hw fun hy ↦ ?_
    cases ho with
    | signature hs =>
        exact .ended ⟨rfl, rfl, rfl, rfl⟩ ((hcard hy).imp_right .inr) (.inl (hsig hs hy))
          (.inl rfl) rfl
    | declined _ ha =>
        exact .ended ⟨rfl, rfl, rfl, rfl⟩ ((hcard hy).imp_right .inr) (.inr (hdecl ha hy))
          (.inl rfl) rfl
    | approved _ _ _ _ =>
        exact .card ⟨rfl, rfl, rfl, rfl⟩ (hcard hy) (.inr rfl) (.inr ⟨_, rfl, rfl⟩)
  cases h with
  | refused | pollAsks | pollOver | pollWaits | pollRaised | pollAnsweredLate | cardRaised
  | retry | «over» => exact hidle
  | started =>
      exact ⟨t, Table.get?_add_of_some hrow, .idle (.refl t) rfl rfl⟩
  | cashRefunded hrow' _ hstatus hmethod hw =>
      refine hupdated hw fun hy ↦ ?_
      obtain rfl := hsame hrow' hy
      exact .cash ⟨rfl, rfl, rfl, rfl⟩ hstatus hmethod rfl rfl
  | @cardPosted y dps _ refund hrow' _ hstatus hmethod =>
      refine ⟨t, hrow, ?_⟩
      by_cases hy : y = r
      · obtain rfl := hsame hrow' hy
        subst hy
        rw [World.posted_refund]
        exact .posted rfl hstatus hmethod
      · rw [World.posted_refund_ne hy]
        exact .idle (.refl t) rfl rfl
  | cardUnavailable hw =>
      refine hupdated hw fun hy ↦ ?_
      subst hy
      exact .ended ⟨rfl, rfl, rfl, rfl⟩ (.inr (.inr ⟨_, _, _, _, rfl⟩)) (.inl .unavailable)
        (.inl rfl) rfl
  | cardInFlight _ hw =>
      refine hupdated hw fun hy ↦ ?_
      subst hy
      exact .card ⟨rfl, rfl, rfl, rfl⟩ (.inr ⟨_, _, _, _, rfl⟩) (.inl rfl) (.inl rfl)
  | cardAnswered hst _ ho hw =>
      refine hanswer hw ho (fun hy ↦ ?_) (fun hs hy ↦ ?_) fun ha hy ↦ ?_ <;> subst hy
      · exact .inr ⟨_, _, _, _, rfl⟩
      · exact .signatureAtOnce hst hs
      · exact .atOnce hst ha
  | pollTimedOut ht he hrow' hstatus hw =>
      refine hupdated hw fun hy ↦ ?_
      obtain rfl := hsame hrow' hy
      subst hy
      exact .ended ⟨rfl, rfl, rfl, rfl⟩ (.inl hstatus) (.inl (.deadline hstatus ht he))
        (.inl rfl) rfl
  | pollAnswered hst hrow' hstatus ho hw =>
      refine hanswer hw ho (fun hy ↦ ?_) (fun hs hy ↦ ?_) fun ha hy ↦ ?_
      · obtain rfl := hsame hrow' hy
        exact .inl hstatus
      · obtain rfl := hsame hrow' hy
        subst hy
        exact .signature hstatus hst hs
      · subst hy
        exact .polled hst ha
  | cancelled hrow' _ hstatus hw =>
      refine hupdated hw fun hy ↦ ?_
      obtain rfl := hsame hrow' hy
      subst hy
      exact .ended ⟨rfl, rfl, rfl, rfl⟩ (hstatus.symm.imp_right .inl) (.inl (.cancel hstatus))
        (.inr rfl) rfl
  | saleSent hu hw | notSent hu hw _ =>
      refine hupdated hw fun _ ↦ ?_
      obtain ⟨hs, ht, hst | hst⟩ := hu.same t
      · exact .idle ⟨hs.txnType, hs.parent, hs.total, hs.method⟩ hst ht
      · exact .sent ⟨hs.txnType, hs.parent, hs.total, hs.method⟩ hst ht
  | sent hu hw hlink =>
      obtain ⟨t₁, h₁, hstep⟩ := hw.row_of hrow
      obtain ⟨t', h', hlinked⟩ := hlink.row_of h₁
      refine ⟨t', h', ?_⟩
      rw [hlink.posted, hw.posted]
      -- the link is in a column that nothing here depends on
      have hkeep : Same t₁ t' ∧ t'.tenders = t₁.tenders ∧ t'.status = t₁.status := by
        rcases hlinked with rfl | rfl
        · exact ⟨.refl _, rfl, rfl⟩
        · exact ⟨⟨rfl, rfl, rfl, rfl⟩, rfl, rfl⟩
      obtain ⟨hs', ht', hst'⟩ := hkeep
      rcases hstep with rfl | rfl
      · exact .idle hs' hst' ht'
      · obtain ⟨hs, ht, hst⟩ := hu.same t
        have hsame : Same t t' := ⟨hs'.txnType.trans hs.txnType, hs'.parent.trans hs.parent,
          hs'.total.trans hs.total, hs'.method.trans hs.method⟩
        rcases hst with hst | hst
        · exact .idle hsame (hst'.trans hst) (ht'.trans ht)
        · refine .sent hsame ?_ (ht'.trans ht)
          rw [hst']
          exact hst

/-! ## One refund -/

/-- Cash was handed back for the refund. -/
def HasCash (t : POSTransaction) : Prop := ∃ d ∈ t.tenders.getD [], d.type = .cash

/-- The invariant of one refund of a sale that cost `T`: its row, and what Windcave holds
for it. -/
structure RefundState (T : Cents) (t : POSTransaction) (P : List Posted) : Prop where
  total : t.totalCents = -T
  live : (live P).length ≤ 1
  amounts : ∀ p ∈ P, p.amountCents = T
  card : t.status = .refundPaymentInFlight ∨ P ≠ [] → t.paymentMethod = some .card
  cash : HasCash t → t.paymentMethod = some .cash ∧
    t.tenders = some [cashTender t.totalCents] ∧ t.status ∈ refundBlockingStates ∧
    t.status ≠ .refundPending
  declined : t.status ∉ refundBlockingStates → ∀ p ∈ P, p.outcome = .declined

/-- The refund is over: no money has left for it, and none can leave any more. -/
structure Over (t : POSTransaction) (P : List Posted) : Prop where
  status : t.status ≠ .refundPending
  declined : ∀ p ∈ P, p.outcome = .declined
  cash : ¬ HasCash t

/-- A refund in a status that does not block is over. -/
theorem RefundState.over {T : Cents} {t : POSTransaction} {P : List Posted}
    (h : RefundState T t P) (hfree : t.status ∉ refundBlockingStates) : Over t P where
  status hs := hfree (by rw [hs]; decide)
  declined := h.declined hfree
  cash hc := hfree (h.cash hc).2.2.1

/-- What is assumed of a segment when it acts on the refund `r`, whose row is `t`: it gives the
refund up, or posts it, only when Windcave has declined what was posted for it. -/
structure Careful (settings : Settings) (trig : Trig) (r : Id) (t : POSTransaction)
    (P : List Posted) : Prop where
  givesUp : GivesUp settings r t trig → ∀ p ∈ P, p.outcome = .declined
  charge : trig = .start (.chargeCardRefund r) → t.status = .refundPending →
    t.paymentMethod = some .card → ∀ p ∈ P, p.outcome = .declined
  declines : Declines r trig → ∀ p ∈ P, p.outcome = .declined

theorem hasCash_congr {t t' : POSTransaction} (h : t'.tenders = t.tenders) :
    HasCash t' ↔ HasCash t := by
  unfold HasCash
  rw [h]

/-- A pending refund of a card is posted. -/
theorem RefundState.post {r : Id} {T : Cents} (hT : 0 ≤ T) {t : POSTransaction} {P : List Posted}
    (h : RefundState T t P) (hdeclined : ∀ p ∈ P, p.outcome = .declined)
    (hpending : t.status = .refundPending) (hmethod : t.paymentMethod = some .card) :
    RefundState T t (P ++ [⟨r, .refund, t.totalCents.natAbs, .pending⟩]) where
  total := h.total
  live := live_append_le hdeclined
  amounts p hp := by
    rcases List.mem_append.mp hp with hp | hp
    · exact h.amounts p hp
    · obtain rfl := List.mem_singleton.mp hp
      change (t.totalCents.natAbs : Int) = T
      rw [h.total, Int.natAbs_neg, Int.natAbs_of_nonneg hT]
  card _ := hmethod
  cash := h.cash
  declined hn := by
    rw [hpending] at hn
    exact absurd (by decide) hn

/-- One segment keeps the invariant of a refund. -/
theorem RefundState.step {settings : Settings} {trig : Trig} {r : Id} {T : Cents} (hT : 0 ≤ T)
    {t t' : POSTransaction} {P P' : List Posted} (h : RefundState T t P)
    (hs : RowStep settings trig r t P t' P') (hcareful : Careful settings trig r t P)
    (hcharged : ∀ φ amount dps a, trig = .reply φ (.windcaveRefund amount dps r) a →
      t.paymentMethod = some .card) : RefundState T t' P' := by
  have hsame := hs.same
  -- a refund on its way to the card has no cash tender
  have hnocash (hcard : t.paymentMethod = some .card) : ¬ HasCash t := fun hc ↦ by
    have := (h.cash hc).1
    rw [hcard] at this
    cases this
  cases hs with
  | idle _ hstatus htenders =>
      refine ⟨hsame.total.trans h.total, h.live, h.amounts, ?_, fun hc ↦ ?_, ?_⟩
      · rw [hstatus, hsame.method]
        exact h.card
      · rw [hstatus, hsame.method, hsame.total, htenders]
        exact h.cash ((hasCash_congr htenders).mp hc)
      · rw [hstatus]
        exact h.declined
  | sent _ hstatus htenders =>
      have hblocks : t'.status ∈ refundBlockingStates ∧ t'.status ≠ .refundPending ∧
          t'.status ≠ .refundPaymentInFlight := by
        rcases hstatus with hst | hst <;> rw [hst] <;> decide
      refine ⟨hsame.total.trans h.total, h.live, h.amounts, fun hc ↦ ?_, fun hc ↦ ?_,
        fun hn ↦ absurd hblocks.1 hn⟩
      · rw [hsame.method]
        exact h.card (hc.imp_left fun hst ↦ absurd hst hblocks.2.2)
      · obtain ⟨hm, htend, -⟩ := h.cash ((hasCash_congr htenders).mp hc)
        rw [hsame.method, hsame.total, htenders]
        exact ⟨hm, htend, hblocks.1, hblocks.2.1⟩
  | cash _ hpending hmethod hstatus htenders =>
      refine ⟨hsame.total.trans h.total, h.live, h.amounts, fun hc ↦ ?_, fun _ ↦ ?_, fun hn ↦ ?_⟩
      · rw [hsame.method]
        exact h.card (hc.imp_left fun hst ↦ by rw [hstatus] at hst; cases hst)
      · rw [hsame.method, hsame.total, hstatus]
        exact ⟨hmethod, htenders, by decide, by decide⟩
      · rw [hstatus] at hn
        exact absurd (by decide) hn
  | posted htrig hpending hmethod =>
      exact h.post hT (hcareful.charge htrig hpending hmethod) hpending hmethod
  | card _ hcard hstatus htenders =>
      have hmethod : t.paymentMethod = some .card := by
        rcases hcard with hst | ⟨φ, amount, dps, a, htrig⟩
        · exact h.card (.inl hst)
        · exact hcharged φ amount dps a htrig
      refine ⟨hsame.total.trans h.total, h.live, h.amounts, fun _ ↦ hsame.method.trans hmethod,
        fun hc ↦ ?_, fun hn ↦ ?_⟩
      · refine absurd ?_ (hnocash hmethod)
        rcases htenders with htenders | ⟨d, hd, htenders⟩
        · exact (hasCash_congr htenders).mp hc
        · obtain ⟨d', hd', hcash⟩ := hc
          rw [htenders] at hd'
          obtain rfl := List.mem_singleton.mp hd'
          rw [hd] at hcash
          cases hcash
      · rcases hstatus with hst | hst <;> rw [hst] at hn <;> exact absurd (by decide) hn
  | ended _ hcard hgives hstatus htenders =>
      have hdeclined : ∀ p ∈ P, p.outcome = .declined :=
        hgives.elim hcareful.givesUp hcareful.declines
      refine ⟨hsame.total.trans h.total, h.live, h.amounts, fun hc ↦ ?_, fun hc ↦ ?_,
        fun _ ↦ hdeclined⟩
      · rw [hsame.method]
        refine h.card (hc.imp_left fun hst ↦ ?_)
        rcases hstatus with h | h <;> rw [h] at hst <;> cases hst
      · -- a refund that was handed back in cash is not given up
        have hcash := (hasCash_congr htenders).mp hc
        obtain ⟨hm, -, -, hnp⟩ := h.cash hcash
        rcases hcard with hst | hst | ⟨φ, amount, dps, a, htrig⟩
        · exact absurd hcash (hnocash (h.card (.inl hst)))
        · exact absurd hst hnp
        · exact absurd hcash (hnocash (hcharged φ amount dps a htrig))

/-- A refund that is over stays over. -/
theorem Over.step {settings : Settings} {trig : Trig} {r : Id} {t t' : POSTransaction}
    {P P' : List Posted} (h : Over t P) (hs : RowStep settings trig r t P t' P') :
    Over t' P' := by
  cases hs with
  | idle _ hstatus htenders =>
      exact ⟨by rw [hstatus]; exact h.status, h.declined,
        fun hc ↦ h.cash ((hasCash_congr htenders).mp hc)⟩
  | sent _ hstatus htenders =>
      refine ⟨?_, h.declined, fun hc ↦ h.cash ((hasCash_congr htenders).mp hc)⟩
      rcases hstatus with hst | hst <;> simp [hst]
  | cash _ hpending | posted _ hpending => exact absurd hpending h.status
  | card _ _ hstatus htenders =>
      refine ⟨?_, h.declined, fun hc ↦ ?_⟩
      · rcases hstatus with hst | hst <;> simp [hst]
      · rcases htenders with htenders | ⟨d, hd, htenders⟩
        · exact h.cash ((hasCash_congr htenders).mp hc)
        · obtain ⟨d', hd', hcash⟩ := hc
          rw [htenders] at hd'
          obtain rfl := List.mem_singleton.mp hd'
          rw [hd] at hcash
          cases hcash
  | ended _ _ _ hstatus htenders =>
      refine ⟨?_, h.declined, fun hc ↦ h.cash ((hasCash_congr htenders).mp hc)⟩
      rcases hstatus with hst | hst <;> simp [hst]

/-- Windcave settles a refund. -/
theorem RefundState.settles {T : Cents} {t : POSTransaction} {P P' : List Posted}
    (h : RefundState T t P) (hs : World.Settles P P') : RefundState T t P' where
  total := h.total
  live := hs.live_le.trans h.live
  amounts p hp := by
    obtain ⟨p₀, hp₀, -, hamount⟩ := hs.exists_mem hp
    exact hamount.trans (h.amounts p₀ hp₀)
  card hc := by
    obtain ⟨p, hp, -⟩ := hs.exists_pending
    exact h.card (hc.imp_right fun _ ↦ List.ne_nil_of_mem hp)
  cash := h.cash
  declined hn := by
    obtain ⟨p, hp, hpending⟩ := hs.exists_pending
    have := h.declined hn p hp
    rw [hpending] at this
    cases this

theorem Over.settles {t : POSTransaction} {P P' : List Posted} (h : Over t P)
    (hs : World.Settles P P') : Over t P' := by
  obtain ⟨p, hp, hpending⟩ := hs.exists_pending
  have := h.declined p hp
  rw [hpending] at this
  cases this

/-! ## All refunds of a sale -/

/-- The row is a refund of the sale `s`. -/
def RefundOf (s : Id) (t : POSTransaction) : Prop :=
  t.txnType = .refund ∧ t.parentTransactionId = some s

instance (s : Id) (t : POSTransaction) : Decidable (RefundOf s t) :=
  inferInstanceAs (Decidable (_ ∧ _))

theorem Same.refundOf {s : Id} {t t' : POSTransaction} (h : Same t t') :
    RefundOf s t' ↔ RefundOf s t := by
  rw [RefundOf, RefundOf, h.txnType, h.parent]

/-- The call posts the refund of a card, for the amount of its row. -/
def PostsRefund (w : World) (q : Call) : Prop :=
  ∃ r t dps, q = .windcaveRefund t.totalCents.natAbs dps r ∧ w.db.transaction r = some t ∧
    t.paymentMethod = some .card

/-- The invariant of a sale that cost `T`: each of its refunds is in order, and at most
one is not over. -/
structure RefundInv (s : Id) (T : Cents) (w : World) (φs : List Call) : Prop where
  sale : ∃ t, w.db.transaction s = some t ∧ t.txnType = .sale ∧ t.totalCents = T
  charging : ∀ q ∈ φs, q.Posts → PostsRefund w q
  posted : ∀ p ∈ w.acquirer, w.db.transaction p.txnRef ≠ none
  rows : ∀ r t, w.db.transaction r = some t → RefundOf s t → RefundState T t (w.posted r)
  one : ∀ r r' t t', w.db.transaction r = some t → w.db.transaction r' = some t' →
    RefundOf s t → RefundOf s t' → r ≠ r' → Over t (w.posted r) ∨ Over t' (w.posted r')

section Segments

variable {settings : Settings} {trig : Trig} {w w' : World} {o : Option Call}

/-- A row that a segment adds is a refund that was just started. -/
theorem RefundSegment.new (h : RefundSegment settings trig w w' o) {r : Id} {t : POSTransaction}
    (hnone : w.db.transaction r = none) (hrow : w'.db.transaction r = some t) :
    r = w.db.posTransactions.fresh ∧
    ∃ s cashierId original, w.db.transaction s = some original ∧
      (∀ r t, w.db.transaction r = some t → t.parentTransactionId = some s →
        t.status ∉ refundBlockingStates) ∧
      t = (newRefund original cashierId w.now).build r := by
  have hupdated {y : Id} {u : TransactionUpdate} {w₁ w₂ : World} (hw : w₁.Updated y u w₂)
      (h₁ : w₁.db.transaction r = none) : w₂.db.transaction r = none := by
    by_cases hy : r = y
    · subst hy
      rw [hw.row, h₁, Option.map_none]
    · rw [hw.others r hy, h₁]
  cases h with
  | @started s cashierId _ original hrow' _ _ hfree =>
      change (w.db.posTransactions.add _).get? r = some t at hrow
      rw [Table.get?_add] at hrow
      split at hrow
      · next hr =>
          subst hr
          exact ⟨rfl, s, cashierId, original, hrow', hfree, (Option.some.inj hrow).symm⟩
      · rw [Db.transaction] at hnone
        rw [hnone] at hrow
        cases hrow
  | sent _ hw hlink =>
      rw [hupdated hlink (hupdated hw hnone)] at hrow
      cases hrow
  | cashRefunded _ _ _ _ hw | cardUnavailable hw | cardInFlight _ hw | cardAnswered _ _ _ hw
  | pollTimedOut _ _ _ _ hw | pollAnswered _ _ _ _ hw | cancelled _ _ _ hw | saleSent _ hw
  | notSent _ hw =>
      rw [hupdated hw hnone] at hrow
      cases hrow
  | _ =>
      have hsame : w.db.transaction r = some t := hrow
      rw [hnone] at hsame
      cases hsame

/-- What a segment posts is for a row that is there. -/
theorem RefundSegment.posts (h : RefundSegment settings trig w w' o) {p : Posted}
    (hp : p ∈ w'.acquirer) : p ∈ w.acquirer ∨ w.db.transaction p.txnRef ≠ none := by
  cases h with
  | cardPosted hrow =>
      rcases List.mem_append.mp hp with hp | hp
      · exact .inl hp
      · obtain rfl := List.mem_singleton.mp hp
        exact .inr (by simp [hrow])
  | sent _ hw hlink => exact .inl (hw.acquirer ▸ hlink.acquirer ▸ hp)
  | cashRefunded _ _ _ _ hw | cardUnavailable hw | cardInFlight _ hw | cardAnswered _ _ _ hw
  | pollTimedOut _ _ _ _ hw | pollAnswered _ _ _ _ hw | cancelled _ _ _ hw | saleSent _ hw
  | notSent _ hw => exact .inl (hw.acquirer ▸ hp)
  | _ => exact .inl hp

/-- A handler of refunds posts nothing but the refund of a card. -/
theorem RefundSegment.charges (h : RefundSegment settings trig w w' o) {q : Call} (ho : q ∈ o)
    (hq : q.Posts) : PostsRefund w q := by
  have hsends {y : Id} (hs : Sends y o) : False := by
    obtain ⟨req, rfl, -⟩ := hs _ ho
    exact hq
  have houtcome {refund : POSTransaction} {st : WindcaveStatusResponse} {u : TransactionUpdate}
      (hout : RefundOutcome refund st u o) : False := by
    cases hout with
    | signature | declined => cases ho
    | approved _ _ _ hs => exact hsends hs
  cases h with
  | cardPosted hrow _ _ hmethod =>
      obtain rfl := Option.mem_some.mp ho
      exact ⟨_, _, _, rfl, hrow, hmethod⟩
  | cashRefunded _ _ _ _ _ hs => exact (hsends hs).elim
  | cardAnswered _ _ hout => exact (houtcome hout).elim
  | pollAnswered _ _ _ hout => exact (houtcome hout).elim
  | pollAsks _ hcall =>
      obtain rfl := Option.mem_some.mp ho
      rcases hcall with rfl | rfl <;> exact hq.elim
  | retry hcall =>
      obtain rfl := Option.mem_some.mp ho
      rcases hcall with ⟨req, rfl⟩ | ⟨req, rfl⟩ <;> exact hq.elim
  | notSent _ _ hlog =>
      obtain ⟨event, p, c, rfl⟩ := hlog _ ho
      exact hq.elim
  | cardInFlight | pollWaits =>
      obtain rfl := Option.mem_some.mp ho
      exact hq.elim
  | _ => cases ho

/-- One segment keeps the invariant of a sale; `φs'` are calls awaited after it. -/
theorem RefundInv.segment {s : Id} {T : Cents} {φs φs' : List Call} (hT : 0 ≤ T)
    (h : RefundInv s T w φs) (hseg : RefundSegment settings trig w w' o)
    (hcareful : ∀ r t, w.db.transaction r = some t → Careful settings trig r t (w.posted r))
    (htrig : ∀ r φ amount dps a, trig = .reply φ (.windcaveRefund amount dps r) a →
      .windcaveRefund amount dps r ∈ φs)
    (hφs : ∀ q ∈ φs', q ∈ φs ∨ q ∈ o) : RefundInv s T w' φs' := by
  -- a refund of the sale was there before, or it was just started and the others are over
  have hrow (r : Id) (t' : POSTransaction) (h' : w'.db.transaction r = some t')
      (hof : RefundOf s t') : (∃ t, w.db.transaction r = some t ∧ RefundOf s t ∧
        RowStep settings trig r t (w.posted r) t' (w'.posted r)) ∨
      (r = w.db.posTransactions.fresh ∧ RefundState T t' (w'.posted r) ∧
        ∀ r₀ t₀, w.db.transaction r₀ = some t₀ → RefundOf s t₀ → Over t₀ (w.posted r₀)) := by
    cases hold : w.db.transaction r with
    | some t =>
        obtain ⟨t₁, h₁, hstep⟩ := hseg.effect hold
        rw [h', Option.some.injEq] at h₁
        subst h₁
        exact .inl ⟨t, rfl, hstep.same.refundOf.mp hof, hstep⟩
    | none =>
        obtain ⟨hfresh, s', cashierId, original, horig, hfree, rfl⟩ := hseg.new hold h'
        obtain rfl : s' = s := by
          rw [← Table.key_of_get? horig]
          exact Option.some.inj hof.2
        refine .inr ⟨hfresh, ?_, fun r₀ t₀ h₀ hof₀ ↦ ?_⟩
        · obtain ⟨sale, hsale, -, htotal⟩ := h.sale
          rw [hsale, Option.some.injEq] at horig
          subst horig
          have hnil : w'.posted r = [] := by
            refine List.filter_eq_nil_iff.mpr fun p hp hr ↦ ?_
            obtain rfl := of_decide_eq_true hr
            exact (hseg.posts hp).elim (fun hp ↦ h.posted p hp hold) fun hp ↦ hp hold
          rw [hnil]
          refine ⟨congrArg Neg.neg htotal, Nat.zero_le 1, fun _ hp ↦ (nomatch hp), fun hc ↦ ?_,
            fun ⟨d, hd, _⟩ ↦ (nomatch hd), fun _ _ hp ↦ nomatch hp⟩
          rcases hc with hc | hc
          · cases hc
          · exact absurd rfl hc
        · exact (h.rows r₀ t₀ h₀ hof₀).over (hfree r₀ t₀ h₀ hof₀.2)
  refine ⟨?_, fun q hq hposts ↦ ?_, fun p hp hnone ↦ ?_, fun r t' h' hof ↦ ?_,
    fun r r' t t' ht ht' hof hof' hne ↦ ?_⟩
  · obtain ⟨t, ht, htype, htotal⟩ := h.sale
    obtain ⟨t', ht', hstep⟩ := hseg.effect ht
    exact ⟨t', ht', hstep.same.txnType.trans htype, hstep.same.total.trans htotal⟩
  · obtain ⟨r, t, dps, rfl, ht, hmethod⟩ : PostsRefund w q :=
      (hφs q hq).elim (fun hq ↦ h.charging q hq hposts) fun hq ↦ hseg.charges hq hposts
    obtain ⟨t', ht', hstep⟩ := hseg.effect ht
    refine ⟨r, t', dps, ?_, ht', hstep.same.method.trans hmethod⟩
    rw [hstep.same.total]
  · have hold : w.db.transaction p.txnRef ≠ none := (hseg.posts hp).elim (h.posted p) id
    obtain ⟨t, ht⟩ := Option.ne_none_iff_exists'.mp hold
    obtain ⟨t', ht', -⟩ := hseg.effect ht
    rw [hnone] at ht'
    cases ht'
  · rcases hrow r t' h' hof with ⟨t, ht, hold, hstep⟩ | ⟨-, hnew, -⟩
    · refine (h.rows r t ht hold).step hT hstep (hcareful r t ht) fun φ amount dps a hta ↦ ?_
      obtain ⟨r₁, t₁, dps₁, hq, h₁, hmethod⟩ :=
        h.charging _ (htrig r φ amount dps a hta) trivial
      obtain ⟨-, -, rfl⟩ := Call.windcaveRefund.inj hq
      rw [ht, Option.some.injEq] at h₁
      exact h₁ ▸ hmethod
    · exact hnew
  · rcases hrow r t ht hof with ⟨t₀, ht₀, hold, hstep⟩ | ⟨hfresh, -, hover⟩
    · rcases hrow r' t' ht' hof' with ⟨t₀', ht₀', hold', hstep'⟩ | ⟨-, -, hover⟩
      · exact (h.one r r' t₀ t₀' ht₀ ht₀' hold hold' hne).imp (·.step hstep) (·.step hstep')
      · exact .inl ((hover r t₀ ht₀ hold).step hstep)
    · rcases hrow r' t' ht' hof' with ⟨t₀', ht₀', hold', hstep'⟩ | ⟨hfresh', -, -⟩
      · exact .inr ((hover r' t₀' ht₀' hold').step hstep')
      · -- a segment stores one row at most
        exact absurd (hfresh.trans hfresh'.symm) hne

end Segments

/-- A refund that is still pending is posted again, once Windcave has declined what was posted
for it. -/
theorem RefundInv.resend {s : Id} {T : Cents} {w : World} {φs : List Call} (hT : 0 ≤ T)
    (h : RefundInv s T w φs) {q : Call} (hq : PostsRefund w q)
    (hcareful : ∀ amount dps r, q = .windcaveRefund amount dps r →
      w.status r = some .refundPending ∧ ∀ p ∈ w.posted r, p.outcome = .declined) :
    RefundInv s T (w.send q) φs := by
  obtain ⟨r, t, dps, rfl, hrow, hmethod⟩ := hq
  obtain ⟨hstatus, hdeclined⟩ := hcareful _ _ _ rfl
  have hpending : t.status = .refundPending :=
    Option.some.inj ((World.status_of_row hrow).symm.trans hstatus)
  -- only what is held for `r` changes
  have hother {r' : Id} (hne : r' ≠ r) :
      (w.send (.windcaveRefund t.totalCents.natAbs dps r)).posted r' = w.posted r' :=
    World.posted_refund_ne fun h ↦ hne h.symm
  refine ⟨h.sale, h.charging, fun p hp ↦ ?_, fun r' t' ht' hof ↦ ?_,
    fun r₁ r₂ t₁ t₂ h₁ h₂ hof₁ hof₂ hne ↦ ?_⟩
  · rcases List.mem_append.mp hp with hp | hp
    · exact h.posted p hp
    · obtain rfl := List.mem_singleton.mp hp
      exact Option.ne_none_iff_exists'.mpr ⟨t, hrow⟩
  · have hold := h.rows r' t' ht' hof
    by_cases hr : r' = r
    · subst hr
      obtain rfl : t = t' := Option.some.inj (hrow.symm.trans ht')
      rw [World.posted_refund]
      exact hold.post hT hdeclined hpending hmethod
    · rwa [hother hr]
  · -- a refund that is over is not pending
    have hover {r' : Id} {t' : POSTransaction} (ht' : w.db.transaction r' = some t')
        (h : Over t' (w.posted r')) :
        Over t' ((w.send (.windcaveRefund t.totalCents.natAbs dps r)).posted r') := by
      by_cases hr : r' = r
      · subst hr
        obtain rfl : t = t' := Option.some.inj (hrow.symm.trans ht')
        exact absurd hpending h.status
      · rwa [hother hr]
    exact (h.one r₁ r₂ t₁ t₂ h₁ h₂ hof₁ hof₂ hne).imp (hover h₁) (hover h₂)

/-- The outside world keeps the invariant. -/
theorem RefundInv.drift {s : Id} {T : Cents} {w w' : World} {φs : List Call}
    (h : RefundInv s T w φs) (hd : World.Drift w w') : RefundInv s T w' φs := by
  have hdb : w'.db = w.db := hd.db
  have hcharging : ∀ q ∈ φs, q.Posts → PostsRefund w' q := by
    unfold PostsRefund
    rw [hdb]
    exact h.charging
  refine ⟨hdb ▸ h.sale, hcharging, fun p hp ↦ ?_, fun r t ht hof ↦ ?_,
    fun r r' t t' ht ht' hof hof' hne ↦ ?_⟩
  · rw [hdb]
    cases hd with
    | tick => exact h.posted p hp
    | settle hs =>
        obtain ⟨p₀, hp₀, href, -⟩ := hs.exists_mem hp
        exact href ▸ h.posted p₀ hp₀
  · rw [hdb] at ht
    rcases hd.posted r with hsame | hsettles
    · exact hsame ▸ h.rows r t ht hof
    · exact (h.rows r t ht hof).settles hsettles
  · rw [hdb] at ht ht'
    have hover {r : Id} {t : POSTransaction} (h : Over t (w.posted r)) : Over t (w'.posted r) := by
      rcases hd.posted r with hsame | hsettles
      · exact hsame ▸ h
      · exact h.settles hsettles
    exact (h.one r r' t t' ht ht' hof hof' hne).imp hover hover

/-! ## Runs -/

/-- The request posts the refund `r`, whose row is `t`, to Windcave. -/
def Charges (r : Id) (t : POSTransaction) (i : Request) : Prop :=
  i = .chargeCardRefund r ∧ t.status = .refundPending ∧ t.paymentMethod = some .card

/-- Refunds are charged and given up with care: a refund is posted, cancelled, given up for
want of a reply, at a request for a signature or at the deadline only once Windcave has
declined what was posted for it; and `_raw_post` posts it again only then, while it is still
pending. -/
def carefully (settings : Settings) : Guard World Call Answer Request where
  start w _ i := IsRefund i ∧ ∀ r t, w.db.transaction r = some t →
    Charges r t i ∨ GivesUp settings r t (.start i) → ∀ p ∈ w.posted r, p.outcome = .declined
  resume w _ q a := ∀ r t, w.db.transaction r = some t → GivesUp settings r t (.reply q q a) →
    ∀ p ∈ w.posted r, p.outcome = .declined
  kill _ _ _ := False
  resend w _ q := ∀ amount dps r, q = .windcaveRefund amount dps r →
    w.status r = some .refundPending ∧ ∀ p ∈ w.posted r, p.outcome = .declined

/-- One step of a run keeps the invariant. -/
theorem refundInv_step {D : Deployment} {s : Id} {T : Cents} (hT : 0 ≤ T)
    {d d' : Phased World Call} (h : RefundInv s T d.state d.phases)
    (hs : (protocol D.settings).Step (D.system .truthful) (carefully D.settings) d d') :
    RefundInv s T d'.state d'.phases := by
  cases hs with
  | @start w w' l o i hg hseg =>
      refine h.segment hT hseg
        (fun r t ht ↦ ⟨fun hu ↦ ?_, fun hc hpending hmethod ↦ ?_, fun hd ↦ nomatch hd⟩)
        (fun _ _ _ _ _ ht ↦ nomatch ht) fun q hq ↦ ?_
      · exact hg.2 r t ht (.inr hu)
      · exact hg.2 r t ht (.inl ⟨by injection hc, hpending, hmethod⟩)
      · exact (List.mem_append.mp hq).imp_right Option.mem_toList.mp
  | @resume w w' l r o φ a ha hg hseg =>
      change Call at φ
      refine h.segment hT hseg (fun r t ht ↦ ⟨hg r t ht, fun hc ↦ (nomatch hc), fun hd ↦ ?_⟩)
        (fun r φ' amount dps a' ht ↦ ?_) fun q hq ↦ ?_
      · -- Windcave tells the truth
        cases hd with
        | atOnce hst hap | polled hst hap => exact (ha hst).2 hap
      · injection ht with _ hq
        rw [← hq]
        exact List.mem_append_right _ (.head _)
      · rcases List.mem_append.mp hq with hq | hq
        · rcases List.mem_append.mp hq with hq | hq
          · exact .inl (List.mem_append_left _ hq)
          · exact .inr (Option.mem_toList.mp hq)
        · exact .inl (List.mem_append_right _ (List.mem_cons_of_mem _ hq))
  | kill _ hg => exact hg.elim
  | @resend w l r φ hq hg =>
      exact h.resend hT (h.charging φ (List.mem_append_right _ (.head _)) hq) hg
  | drift hd => exact h.drift hd

/-! ## The money -/

/-- What Windcave has paid out. -/
def approvedCents (P : List Posted) : Cents :=
  ((P.filter (·.outcome = .approved)).map (·.amountCents)).sum

/-- The cash recorded on a refund. -/
def cashBackCents (t : POSTransaction) : Cents :=
  (((t.tenders.getD []).filter (·.type = .cash)).map fun d ↦ (d.amountCents.natAbs : Int)).sum

/-- What was paid back for the sale `s`, by Windcave and in cash. -/
def refundedCents (s : Id) (w : World) : Cents :=
  w.db.posTransactions.total fun t ↦
    if RefundOf s t then approvedCents (w.posted t.id) + cashBackCents t else 0

theorem cashBackCents_eq_zero {t : POSTransaction} (h : ¬ HasCash t) : cashBackCents t = 0 := by
  have hnone : (t.tenders.getD []).filter (·.type = .cash) = [] :=
    List.filter_eq_nil_iff.mpr fun d hd hc ↦ h ⟨d, hd, of_decide_eq_true hc⟩
  rw [cashBackCents, hnone]
  rfl

theorem Over.money {t : POSTransaction} {P : List Posted} (h : Over t P) :
    approvedCents P + cashBackCents t = 0 := by
  have hnone : P.filter (·.outcome = .approved) = [] :=
    List.filter_eq_nil_iff.mpr fun p hp ↦ by simp [h.declined p hp]
  rw [cashBackCents_eq_zero h.cash, approvedCents, hnone]
  rfl

/-- One refund pays out what the sale cost, at most. -/
theorem RefundState.money {T : Cents} {t : POSTransaction} {P : List Posted}
    (h : RefundState T t P) (hT : 0 ≤ T) : approvedCents P + cashBackCents t ≤ T := by
  by_cases hc : HasCash t
  · -- a refund in cash was not posted
    obtain ⟨hmethod, htenders, -, -⟩ := h.cash hc
    have hnil : P = [] := by
      by_contra hne
      have := h.card (.inr hne)
      rw [hmethod] at this
      cases this
    have hcash : cashBackCents t = T := by
      have : cashBackCents t = (t.totalCents.natAbs : Int) + 0 := by
        rw [cashBackCents, htenders]
        rfl
      rw [this, h.total, Int.natAbs_neg, Int.natAbs_of_nonneg hT, Int.add_zero]
    rw [hnil, hcash]
    exact (Int.zero_add T).le
  · rw [cashBackCents_eq_zero hc, Int.add_zero, approvedCents]
    have hle := (approved_sublist_live P).length_le.trans h.live
    rcases happroved : P.filter (·.outcome = .approved) with _ | ⟨p, _ | ⟨p', l⟩⟩
    · rw [happroved]
      exact hT
    · have hp : p ∈ P.filter (·.outcome = .approved) := by rw [happroved]; exact .head _
      rw [happroved, List.map_singleton, List.sum_singleton, h.amounts p (List.mem_filter.mp hp).1]
    · rw [happroved] at hle
      simp at hle

/-- The refunds of a sale pay out what it cost, at most. -/
theorem RefundInv.money {s : Id} {T : Cents} {w : World} {φs : List Call}
    (h : RefundInv s T w φs) (hT : 0 ≤ T) : refundedCents s w ≤ T := by
  refine Table.total_le hT (fun t ht ↦ ?_) fun t ht t' ht' hne ↦ ?_
  · by_cases hof : RefundOf s t
    · rw [if_pos hof]
      exact (h.rows t.id t (Table.get?_of_mem ht) hof).money hT
    · rw [if_neg hof]
      exact hT
  · by_cases hof : RefundOf s t
    · by_cases hof' : RefundOf s t'
      · rw [if_pos hof, if_pos hof']
        exact (h.one t.id t'.id t t' (Table.get?_of_mem ht) (Table.get?_of_mem ht') hof hof'
          hne).imp Over.money Over.money
      · exact .inr (if_neg hof')
    · exact .inl (if_neg hof)

/-- **A sale is not refunded for more than it cost**, in every state of every run of
refund handlers that charge and give up with care, and a refund that no longer blocks
another one has paid nothing out and never will. -/
theorem refunded_at_most_total (D : Deployment) {w₀ : World} {s : Id} {sale : POSTransaction}
    (hsale : w₀.db.transaction s = some sale) (htype : sale.txnType = .sale)
    (htotal : 0 ≤ sale.totalCents)
    (hfirst : ∀ r t, w₀.db.transaction r = some t → ¬ RefundOf s t)
    (hposted : ∀ p ∈ w₀.acquirer, w₀.db.transaction p.txnRef ≠ none)
    {c : Config World Call Answer PyExc}
    (h : Run (D.system .truthful) (carefully D.settings) (.idle w₀) c) :
    refundedCents s c.state ≤ sale.totalCents ∧
      ∀ r t, c.state.db.transaction r = some t → RefundOf s t →
        t.status ∉ refundBlockingStates → Over t (c.state.posted r) := by
  have hinit : RefundInv s sale.totalCents w₀ [] :=
    ⟨⟨sale, hsale, htype, rfl⟩, fun _ hq ↦ (nomatch hq), hposted,
      fun r t ht hof ↦ absurd hof (hfirst r t ht),
      fun r _ t _ ht _ hof _ _ ↦ absurd hof (hfirst r t ht)⟩
  have hall : ∀ i w l, (carefully D.settings).start w l i →
      (D.system .truthful).Follows (protocol D.settings) i :=
    fun i _ _ hi ↦ refund_follows D .truthful hi.1
  obtain ⟨d, hrun, hsim⟩ := h.simulate hall (.idle _ _ w₀)
  have hinv : RefundInv s sale.totalCents d.state d.phases := by
    clear hsim
    induction hrun with
    | refl => exact hinit
    | tail _ hs ih => exact refundInv_step htotal ih hs
  rw [hsim.state]
  exact ⟨hinv.money htotal, fun r t ht hof hfree ↦ (hinv.rows r t ht hof).over hfree⟩

/-- A completed card sale. -/
def cardSale : POSTransaction :=
  { POSTransaction.sample .complete with
    paymentMethod := some .card
    windcaveTxnRef := some "ref" }

/-- Windcave has a refund under way, and Sentry takes it. -/
def refundAnswers : (q : Call) → Option (Answer q)
  | .windcaveRefund _ _ _ => some (.ok {})
  | .respond _ => some ()
  | .windcaveStatus _ _ =>
      some (.ok { complete := true, result := some { approved := true } })
  | .sentryCreatePosRefund _ =>
      some (.ok (.object [(.ofString "refund_so_id", .str (.ofString "RO-1"))]))
  | _ => none

/-- A refund of the sale is under way at the terminal. -/
def refundUnderWay : Config World Call Answer PyExc :=
  (Config.idle (.sample cardSale)).playAll (Deployment.sample.system .truthful)
    [.start (.startRefund 0 "alice"), .start (.chargeCardRefund 1), .resume 0 refundAnswers]

/-- Windcave has approved it, and Sentry has taken it. -/
def refundPaid : Config World Call Answer PyExc :=
  Config.playAll (Deployment.sample.system .truthful)
    ⟨{ refundUnderWay.state with acquirer := [⟨1, .refund, 1081, .approved⟩] },
      refundUnderWay.pool⟩
    [.resume 0 refundAnswers, .resume 0 refundAnswers, .resume 0 refundAnswers]

/-- One refund is paid out once. -/
theorem refunded_at_most_total_card :
    refundedCents 0 refundPaid.state ≤ 1081 ∧
      ∀ r t, refundPaid.state.db.transaction r = some t → RefundOf 0 t →
        t.status ∉ refundBlockingStates → Over t (refundPaid.state.posted r) := by
  have hnone {r : Id} {P : Posted → Prop} : ∀ p ∈ World.posted (.sample cardSale) r, P p :=
    fun _ h ↦ nomatch h
  have hunder : Run (Deployment.sample.system .truthful) (carefully Deployment.sample.settings)
      (.idle (.sample cardSale)) refundUnderWay := by
    refine Script.run _ ⟨⟨trivial, fun _ _ _ _ ↦ hnone⟩, ⟨trivial, fun _ _ _ _ _ h ↦ nomatch h⟩,
      ⟨fun h ↦ (nomatch h), fun r t _ h ↦ ?_⟩, trivial⟩
    cases h with
    | signatureAtOnce hst => cases hst
    | deadline _ ht => cases ht
  have hpaid : Run (Deployment.sample.system .truthful) (carefully Deployment.sample.settings)
      ⟨{ refundUnderWay.state with acquirer := [⟨1, .refund, 1081, .approved⟩] },
        refundUnderWay.pool⟩ refundPaid := by
    refine Script.run _ ⟨⟨trivial, fun r t _ h ↦ ?_⟩, ⟨fun _ ↦ ⟨fun _ ↦ ⟨_, .head _, rfl⟩,
      fun h ↦ nomatch h⟩, fun r t _ h ↦ ?_⟩, ⟨trivial, fun r t _ h ↦ ?_⟩, trivial⟩
    · cases h with
      | deadline _ ht he =>
          cases ht
          exact absurd he (by unfold Checkout.PastDeadline; decide)
    · cases h with
      | signature _ _ hs => cases hs
      | deadline _ ht => cases ht
    · cases h with
      | deadline _ ht => cases ht
  have hsettle := World.Settles.settle (l := []) (r := []) (p := ⟨1, .refund, 1081, .pending⟩)
    rfl (o := .approved) (by decide)
  have hrow : (World.sample cardSale).db.transaction 0 = some cardSale := rfl
  refine refunded_at_most_total Deployment.sample hrow rfl
    (by decide) (fun r t ht ⟨htype, _⟩ ↦ ?_) (fun p hp ↦ nomatch hp)
    ((hunder.tail (.drift (.settle hsettle))).trans hpaid)
  obtain rfl := List.mem_singleton.mp (Table.mem_of_get? ht)
  cases htype

/-! ## A run that pays a sale back twice -/

/-- Any number of refund handlers. -/
def refunds : Guard World Call Answer Request where
  start _ _ i := IsRefund i
  resume _ _ _ _ := True
  kill _ _ _ := False

/-- The refund under way is cancelled, and the sale is refunded again. -/
def refundAgain : List (Move World Call Answer Request) :=
  [.start (.cancelRefund 1), .start (.startRefund 0 "alice"), .start (.chargeCardRefund 2)]

/-- Windcave approves both refunds of the sale. -/
theorem sale_refunded_twice :
    ∃ c : Config World Call Answer PyExc,
      Run (Deployment.sample.system .truthful) refunds (.idle (.sample cardSale)) c ∧
      cardSale.totalCents < refundedCents 0 c.state := by
  have hunder : Run (Deployment.sample.system .truthful) refunds (.idle (.sample cardSale))
      refundUnderWay :=
    Script.run _ ⟨trivial, trivial, ⟨fun h ↦ (nomatch h), trivial⟩, trivial⟩
  have hboth : Run (Deployment.sample.system .truthful) refunds refundUnderWay _ :=
    Script.run refundAgain ⟨trivial, trivial, trivial, trivial⟩
  have hfirst := World.Settles.settle (l := []) (r := [⟨2, .refund, 1081, .pending⟩])
    (p := ⟨1, .refund, 1081, .pending⟩) rfl (o := .approved) (by decide)
  have hsecond := World.Settles.settle (l := [⟨1, .refund, 1081, .approved⟩]) (r := [])
    (p := ⟨2, .refund, 1081, .pending⟩) rfl (o := .approved) (by decide)
  refine ⟨_, ((hunder.trans hboth).tail (.drift (.settle hfirst))).tail
    (.drift (.settle hsecond)), ?_⟩
  decide

end HightowerPos.Refunds
