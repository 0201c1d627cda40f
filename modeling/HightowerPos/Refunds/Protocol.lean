import HightowerPos.Service

/-!
# The refund protocol

What one segment of a refund handler can do, in the manner of
`HightowerPos.Sale.Protocol`: `RefundSegment` has one case for each way through a
segment of `start_refund`, `charge_card_refund`, `charge_cash_refund`, `cancel_refund`,
`poll_refund_until_complete` and the retry of one transaction.
-/

namespace HightowerPos.Refunds

open Async Refund

/-- What sets a segment of a refund handler going. -/
abbrev Trig := Trigger Call Answer Request Call

/-- The requests about refunds. -/
def IsRefund : Request → Prop
  | .lookupRefund _ | .startRefund _ _ | .chargeCardRefund _ | .chargeCashRefund _
  | .pollRefundUntilComplete _ | .cancelRefund _ | .retrySentry _ => True
  | _ => False

/-- After the refund `r` was paid out its handler sends it to Sentry, or is over. -/
def Sends (r : Id) (o : Option Call) : Prop :=
  ∀ q ∈ o, ∃ req : RefundRequest, q = .sentryCreatePosRefund req ∧ req.idempotencyKey = r

/-- What `_finalize_refund_charge` assigns, and what it then awaits. -/
inductive RefundOutcome (refund : POSTransaction) (st : WindcaveStatusResponse) :
    TransactionUpdate → Option Call → Prop
  | signature (hs : st.signatureRequired = true) :
      RefundOutcome refund st
        (paymentFailed "signature verification required (not supported in v1)") none
  | declined (hs : st.signatureRequired = false) (ha : st.approved = false) :
      RefundOutcome refund st (paymentFailed (Checkout.declineText st)) none
  | approved (hs : st.signatureRequired = false) (ha : st.approved = true)
      {result : WindcaveResult} (hresult : st.result = some result) {o : Option Call}
      (ho : Sends refund.id o) :
      RefundOutcome refund st (cardRefunded refund.totalCents result) o

/-- The triggers after which a poller asks for the status or gives up, with the time on
its clock. -/
inductive Polling (settings : Settings) (r : Id) : Int → Trig → Prop
  | start : Polling settings r 0 (.start (.pollRefundUntilComplete r))
  | responded {φ : Call} {a : Unit} : Polling settings r 0 (.reply φ (.respond r) a)
  | slept {φ : Call} {e : Int} {a : Unit} :
      Polling settings r (e + settings.windcavePollIntervalMs) (.reply φ (.pollSleep r e) a)

/-- What Sentry's answer makes of a transaction that was sent, or sent again. -/
inductive SentryWrites : TransactionUpdate → Prop
  | completed (soId : String) (a : Option Till.Attribution) : SentryWrites (completion soId a)
  | failed (error : String) : SentryWrites (inventoryUpdateFailed error)
  | retried (soId : String) (n : Nat) : SentryWrites (Reconciliation.retried soId n)
  | retryFailed (error : String) (n : Nat) :
      SentryWrites (Reconciliation.retryFailed error n)

/-- One segment of a refund handler. -/
inductive RefundSegment (settings : Settings) : Trig → World → World → Option Call → Prop
  | /-- A request is refused, only reads, or raises before it has written anything. -/
    refused {i : Request} {w : World} : RefundSegment settings (.start i) w w none
  | started {s : Id} {cashierId : String} {w : World} {original : POSTransaction}
      (hrow : w.db.transaction s = some original) (htype : original.txnType = .sale)
      (hstatus : original.status = .complete)
      (hfree : ∀ r t, w.db.transaction r = some t → t.parentTransactionId = some s →
        t.status ∉ refundBlockingStates) :
      RefundSegment settings (.start (.startRefund s cashierId)) w
        (w.addTransaction (newRefund original cashierId w.now)) none
  | cashRefunded {r : Id} {w w' : World} {refund : POSTransaction} {o : Option Call}
      (hrow : w.db.transaction r = some refund) (htype : refund.txnType = .refund)
      (hstatus : refund.status = .refundPending) (hmethod : refund.paymentMethod = some .cash)
      (hw : w.Updated r (cashRefunded refund.totalCents) w') (ho : Sends r o) :
      RefundSegment settings (.start (.chargeCashRefund r)) w w' o
  | cardPosted {r : Id} {dpsTxnRef : String} {w : World} {refund : POSTransaction}
      (hrow : w.db.transaction r = some refund) (htype : refund.txnType = .refund)
      (hstatus : refund.status = .refundPending) (hmethod : refund.paymentMethod = some .card) :
      RefundSegment settings (.start (.chargeCardRefund r)) w
        (w.send (.windcaveRefund refund.totalCents.natAbs dpsTxnRef r))
        (some (.windcaveRefund refund.totalCents.natAbs dpsTxnRef r))
  | cardUnavailable {r : Id} {amount : Cents} {dps : String} {φ : Call} {m : String}
      {w w' : World} (hw : w.Updated r (paymentFailed s!"windcave_unavailable: {m}") w') :
      RefundSegment settings
        (.reply φ (.windcaveRefund amount dps r) (.error (.windcaveClient m))) w w' none
  | cardRaised {r : Id} {amount : Cents} {dps : String} {φ : Call} {e : PyExc} {w : World}
      (he : ∀ m, e ≠ .windcaveClient m) :
      RefundSegment settings (.reply φ (.windcaveRefund amount dps r) (.error e)) w w none
  | cardInFlight {r : Id} {amount : Cents} {dps : String} {φ : Call}
      {st : WindcaveStatusResponse} {w w' : World} (hst : st.complete = false)
      (hw : w.Updated r ((Checkout.replied st.rawXml).andThen inFlight) w') :
      RefundSegment settings (.reply φ (.windcaveRefund amount dps r) (.ok st)) w w'
        (some (.respond r))
  | cardAnswered {r : Id} {amount : Cents} {dps : String} {φ : Call}
      {st : WindcaveStatusResponse} {w w' : World} {refund : POSTransaction}
      {u : TransactionUpdate} {o : Option Call} (hst : st.complete = true)
      (hid : refund.id = r) (ho : RefundOutcome refund st u o)
      (hw : w.Updated r ((Checkout.replied st.rawXml).andThen u) w') :
      RefundSegment settings (.reply φ (.windcaveRefund amount dps r) (.ok st)) w w' o
  | pollAsks {r : Id} {e : Int} {t : Trig} {q : Call} {w : World}
      (ht : Polling settings r e t) (hq : q = .windcaveStatus r e ∨ q = .pollOn r) :
      RefundSegment settings t w w (some q)
  | pollTimedOut {r : Id} {e : Int} {t : Trig} {w w' : World} {refund : POSTransaction}
      (ht : Polling settings r e t) (he : Checkout.PastDeadline settings e)
      (hrow : w.db.transaction r = some refund)
      (hstatus : refund.status = .refundPaymentInFlight)
      (hw : w.Updated r (paymentFailed "polling_timeout") w') :
      RefundSegment settings t w w' none
  | pollOver {r : Id} {e : Int} {t : Trig} {w : World} (ht : Polling settings r e t)
      (hrow : ∀ t, w.db.transaction r = some t → t.status ≠ .refundPaymentInFlight) :
      RefundSegment settings t w w none
  | pollWaits {r : Id} {e : Int} {φ : Call} {a : Except PyExc WindcaveStatusResponse}
      {w : World} : RefundSegment settings (.reply φ (.windcaveStatus r e) a) w w
        (some (.pollSleep r e))
  | pollRaised {r : Id} {e : Int} {φ : Call} {exc : PyExc} {w : World}
      (he : ∀ m, exc ≠ .windcaveClient m) :
      RefundSegment settings (.reply φ (.windcaveStatus r e) (.error exc)) w w none
  | pollAnswered {r : Id} {e : Int} {φ : Call} {st : WindcaveStatusResponse}
      {w w' : World} {refund : POSTransaction} {u : TransactionUpdate} {o : Option Call}
      (hst : st.complete = true) (hrow : w.db.transaction r = some refund)
      (hstatus : refund.status = .refundPaymentInFlight) (ho : RefundOutcome refund st u o)
      (hw : w.Updated r ((Checkout.replied st.rawXml).andThen u) w') :
      RefundSegment settings (.reply φ (.windcaveStatus r e) (.ok st)) w w' o
  | pollAnsweredLate {r : Id} {e : Int} {φ : Call} {st : WindcaveStatusResponse} {w : World}
      (hrow : ∀ t, w.db.transaction r = some t → t.status ≠ .refundPaymentInFlight) :
      RefundSegment settings (.reply φ (.windcaveStatus r e) (.ok st)) w w none
  | cancelled {r : Id} {w w' : World} {refund : POSTransaction}
      (hrow : w.db.transaction r = some refund) (htype : refund.txnType = .refund)
      (hstatus : refund.status = .refundPending ∨ refund.status = .refundPaymentInFlight)
      (hw : w.Updated r Checkout.cancelled w') :
      RefundSegment settings (.start (.cancelRefund r)) w w' none
  | retry {y : Id} {q : Call} {w : World}
      (hq : (∃ req, q = .sentryCreatePosSo req) ∨ ∃ req, q = .sentryCreatePosRefund req) :
      RefundSegment settings (.start (.retrySentry y)) w w (some q)
  | saleSent {φ : Call} {req : CheckoutRequest} {outcome : Attempts} {w w' : World}
      {u : TransactionUpdate} (hu : SentryWrites u) (hw : w.Updated req.idempotencyKey u w') :
      RefundSegment settings (.reply φ (.sentryCreatePosSo req) outcome) w w' none
  | sent {φ : Call} {req : RefundRequest} {outcome : Attempts} {w w₁ w' : World}
      {u : TransactionUpdate} {original : Id} (hu : SentryWrites u)
      (hw : w.Updated req.idempotencyKey u w₁)
      (hlink : w₁.Updated original (linked req.idempotencyKey) w') :
      RefundSegment settings (.reply φ (.sentryCreatePosRefund req) outcome) w w' none
  | notSent {φ : Call} {req : RefundRequest} {outcome : Attempts} {w w' : World}
      {u : TransactionUpdate} {o : Option Call} (hu : SentryWrites u)
      (hw : w.Updated req.idempotencyKey u w')
      (ho : ∀ q ∈ o, ∃ event p c, q = .sentryLogInboundActivity event p c) :
      RefundSegment settings (.reply φ (.sentryCreatePosRefund req) outcome) w w' o
  | over {φ q : Call} {a : Answer q} {w : World}
      (hq : (∃ req, q = .sentryCreatePosSo req) ∨ (∃ req, q = .sentryCreatePosRefund req) ∨
        ∃ event p c, q = .sentryLogInboundActivity event p c) :
      RefundSegment settings (.reply φ q a) w w none

/-- The protocol: a phase is the call waited for. -/
def protocol (settings : Settings) : Protocol World Call Answer Request Call where
  call q := q
  seg := RefundSegment settings

/-! ## The handlers follow the protocol -/

section Follows

variable {D : Deployment} {E : Environment} {t : Trig} {w₀ w : World}

/-- The condition under which a program goes on within the segment `t`. -/
abbrev Goes (D : Deployment) (E : Environment) (p : App Unit) (t : Trig) (w₀ w : World) :
    Prop := p.Follows (D.system E) (protocol D.settings) t w₀ w

theorem goes_finishSend {φ : Call} {refund original : POSTransaction} {req : RefundRequest}
    {outcome : Attempts} (hreq : req.idempotencyKey = refund.id) :
    Goes D E (finishSend D.runtime D.settings refund original req outcome)
      (.reply φ (.sentryCreatePosRefund req) outcome) w w := by
  unfold Goes Prog.Follows finishSend
  have hover : RefundSegment D.settings (.reply φ (.sentryCreatePosRefund req) outcome) w w none :=
    .over (.inr (.inl ⟨req, rfl⟩))
  cases Sentry.createPosRefund D.runtime outcome with
  | ok result =>
      simp only [wp_bind, Till.wp_attributeTransaction, FabricOutbox.wp_enqueue, App.wp_commit]
      refine ⟨trivial, ?_⟩
      apply RefundSegment.sent (.completed result.refundSoId _)
      · rw [hreq]
        exact w.updated_updateTransaction _ _
      · rw [hreq]
        exact (Till.updated_commitTally (World.updated_updateTransaction _ _ _) _).addOutboxEntry _
  | error e =>
      cases e with
      | sentryClient exc =>
          rw [wp_bind]
          refine App.wp_bindText (fun text _ ↦ ?_) fun _ ↦ hover
          simp only [wp_bind, FabricOutbox.wp_enqueue, App.wp_commit]
          refine ⟨trivial, _, rfl, .notSent (.failed text) ?_ fun q hq ↦ ?_, fun w' a _ ↦ ?_⟩
          · rw [hreq]
            exact (w.updated_updateTransaction _ _).addOutboxEntry _
          · obtain rfl := Option.mem_some.mp hq
            exact ⟨_, _, _, rfl⟩
          · exact .over (.inr (.inr ⟨_, _, _, rfl⟩))
      | _ => exact hover

theorem goes_sendRefundToSentry {refund : POSTransaction}
    (hseg : ∀ o, Sends refund.id o → RefundSegment D.settings t w₀ w o) :
    Goes D E (sendRefundToSentry D.runtime D.settings refund) t w₀ w := by
  unfold Goes Prog.Follows sendRefundToSentry
  simp only [wp_bind, wp_read]
  cases refund.parentTransactionId.bind w.db.transaction with
  | none => exact hseg none fun _ h ↦ nomatch h
  | some original =>
      refine ⟨_, rfl, hseg _ fun q hq ↦ ?_, fun w' a _ ↦ goes_finishSend rfl⟩
      obtain rfl := Option.mem_some.mp hq
      exact ⟨_, rfl, rfl⟩

theorem goes_finalizeRefundCharge {refund : POSTransaction} {st : WindcaveStatusResponse}
    (hseg : ∀ u o w', RefundOutcome refund st u o →
      w.Updated refund.id ((Checkout.replied st.rawXml).andThen u) w' →
      RefundSegment D.settings t w₀ w' o) :
    Goes D E (finalizeRefundCharge D.runtime D.settings refund st) t w₀ w := by
  unfold Goes Prog.Follows finalizeRefundCharge
  by_cases hs : st.signatureRequired = true
  · simp only [hs, if_true, wp_bind, App.wp_saveTransaction]
    exact ⟨trivial, hseg _ _ _ (.signature hs) (w.updated_updateTransaction _ _)⟩
  · have hs' : st.signatureRequired = false := by simpa using hs
    by_cases ha : st.approved = true
    · -- an approved reply has a result, so that the assertion holds
      obtain ⟨result, hresult⟩ : ∃ result, st.result = some result := by
        cases hr : st.result with
        | none => simp [WindcaveStatusResponse.approved, hr] at ha
        | some result => exact ⟨result, rfl⟩
      simp only [hs', ha, hresult, wp_bind, App.wp_saveTransaction, Bool.not_true,
        Bool.false_eq_true, if_false]
      refine ⟨trivial, goes_sendRefundToSentry fun o ho ↦ ?_⟩
      rw [App.id_touch_set] at ho
      exact hseg _ _ _ (.approved hs' ha hresult ho) (w.updated_updateTransaction _ _)
    · have ha' : st.approved = false := by simpa using ha
      simp only [hs', ha', wp_bind, App.wp_saveTransaction, Bool.not_false, if_true,
        Bool.false_eq_true, if_false]
      exact ⟨trivial, hseg _ _ _ (.declined hs' ha') (w.updated_updateTransaction _ _)⟩

theorem goes_finishPoll {r : Id} {final : Option WindcaveStatusResponse}
    (htimeout : ∀ refund w', final = none → w.db.transaction r = some refund →
      refund.status = .refundPaymentInFlight → w.Updated r (paymentFailed "polling_timeout") w' →
      RefundSegment D.settings t w₀ w' none)
    (hover : (∀ t, w.db.transaction r = some t → t.status ≠ .refundPaymentInFlight) →
      RefundSegment D.settings t w₀ w none)
    (hanswer : ∀ refund st u o w', final = some st → w.db.transaction r = some refund →
      refund.status = .refundPaymentInFlight → RefundOutcome refund st u o →
      w.Updated r ((Checkout.replied st.rawXml).andThen u) w' →
      RefundSegment D.settings t w₀ w' o) :
    Goes D E (finishPoll D.runtime D.settings r final) t w₀ w := by
  unfold Goes Prog.Follows finishPoll
  simp only [wp_bind, App.wp_getTransaction]
  cases hrow : w.db.transaction r with
  | none => exact hover fun t h ↦ by rw [hrow] at h; cases h
  | some refund =>
      have hid : refund.id = r := Table.key_of_get? hrow
      by_cases hstatus : refund.status = .refundPaymentInFlight
      · cases final with
        | none =>
            simp only [hstatus, ne_eq, not_true_eq_false, if_false, wp_bind,
              App.wp_saveTransaction, hid]
            exact ⟨trivial, htimeout refund _ rfl hrow hstatus (w.updated_updateTransaction _ _)⟩
        | some st =>
            simp only [hstatus, ne_eq, not_true_eq_false, if_false]
            refine goes_finalizeRefundCharge fun u o w' ho hw ↦ ?_
            rw [hid] at hw
            exact hanswer refund st u o w' rfl hrow hstatus ho hw
      · simp only [hstatus, ne_eq, not_false_eq_true, if_true]
        refine hover fun t h ↦ ?_
        rw [hrow, Option.some.injEq] at h
        exact h ▸ hstatus

/-- A poller follows the protocol. -/
theorem goes_poll {r : Id} (fuel : Nat) (ht : Polling D.settings r 0 t) :
    Goes D E (pollRefundUntilComplete D.runtime D.settings fuel r) t w w := by
  unfold Goes Prog.Follows pollRefundUntilComplete
  rw [wp_bind]
  refine Checkout.wp_pollLoop (J := fun e g w ↦ Polling D.settings r e g.1 ∧ g.2 = w)
    ?_ ?_ ?_ fuel ⟨ht, rfl⟩
  · rintro e ⟨t, w₀⟩ w he ⟨ht, rfl⟩
    exact goes_finishPoll (fun refund w' _ hrow hstatus hw ↦ .pollTimedOut ht he hrow hstatus hw)
      (fun hrow ↦ .pollOver ht hrow) (fun _ _ _ _ _ h ↦ (by cases h))
  · rintro e ⟨t, w₀⟩ w ⟨ht, rfl⟩
    exact ⟨_, rfl, .pollAsks ht (.inr rfl), fun _ _ _ ↦ trivial⟩
  · rintro e ⟨t, w₀⟩ w ⟨ht, rfl⟩
    refine ⟨_, rfl, .pollAsks ht (.inl rfl), fun w' a _ ↦ ?_⟩
    have hsleep : ((protocol D.settings).calculus (D.system E)).await
        (.reply (.windcaveStatus r e) (.windcaveStatus r e) a, w') w' (.pollSleep r e)
        fun _ g w ↦ Polling D.settings r (e + D.settings.windcavePollIntervalMs) g.1 ∧
          g.2 = w :=
      ⟨_, rfl, .pollWaits, fun _ _ _ ↦ ⟨.slept, rfl⟩⟩
    cases a with
    | error exc =>
        by_cases hexc : ∃ m, exc = .windcaveClient m
        · obtain ⟨m, rfl⟩ := hexc
          exact hsleep
        · have hraise : RefundSegment D.settings
              (.reply (.windcaveStatus r e) (.windcaveStatus r e) (.error exc)) w' w' none :=
            .pollRaised fun m h ↦ hexc ⟨m, h⟩
          cases exc <;> first | exact hraise | exact absurd ⟨_, rfl⟩ hexc
    | ok st =>
        by_cases hst : st.complete = true
        · simp only [Checkout.PollStep, hst, if_true]
          exact goes_finishPoll (fun _ _ h ↦ (by cases h)) (fun hrow ↦ .pollAnsweredLate hrow)
            fun refund st' u o w'' heq hrow hstatus ho hw ↦ by
              cases heq
              exact .pollAnswered hst hrow hstatus ho hw
        · simp only [Checkout.PollStep, hst, if_false, Bool.false_eq_true]
          exact hsleep

theorem goes_chargeCashRefund {r : Id} :
    Goes D E (chargeCashRefund D.runtime D.settings r) (.start (.chargeCashRefund r)) w w := by
  unfold Goes Prog.Follows chargeCashRefund
  rw [wp_bind]
  refine wp_loadRefundForPayment (fun refund hrow htype hstatus ↦ ?_) fun e ↦ .refused
  obtain rfl : refund.id = r := Table.key_of_get? hrow
  by_cases hmethod : refund.paymentMethod = some .cash
  · simp only [hmethod, ne_eq, not_true_eq_false, if_false, wp_bind, App.wp_saveTransaction]
    refine ⟨trivial, goes_sendRefundToSentry fun o ho ↦ ?_⟩
    rw [App.id_touch_set] at ho
    exact .cashRefunded hrow htype hstatus hmethod (w.updated_updateTransaction _ _) ho
  · simp only [hmethod, ne_eq, not_false_eq_true, if_true]
    exact .refused

theorem goes_chargeCardRefund {r : Id} :
    Goes D E (chargeCardRefundRoute D.runtime D.settings D.fuel r)
      (.start (.chargeCardRefund r)) w w := by
  unfold Goes Prog.Follows chargeCardRefundRoute chargeCardRefund
  simp only [wp_bind]
  refine wp_loadRefundForPayment (fun refund hrow htype hstatus ↦ ?_) fun e ↦ .refused
  obtain rfl : refund.id = r := Table.key_of_get? hrow
  by_cases hmethod : refund.paymentMethod = some .card
  · simp only [hmethod, ne_eq, not_true_eq_false, if_false, wp_bind, wp_read]
    split
    · exact .refused
    · next dps _ =>
        rw [wp_bind]
        refine ⟨_, rfl, .cardPosted hrow htype hstatus hmethod, fun w' a _ ↦ ?_⟩
        cases a with
        | error exc =>
            by_cases hexc : ∃ m, exc = .windcaveClient m
            · obtain ⟨m, rfl⟩ := hexc
              simp only [wp_pure, wp_bind, App.wp_saveTransaction]
              exact ⟨trivial, .cardUnavailable (w'.updated_updateTransaction _ _)⟩
            · have hraise (q : Call) : RefundSegment D.settings
                  (.reply q (.windcaveRefund refund.totalCents.natAbs dps refund.id) (.error exc))
                  w' w' none :=
                .cardRaised fun m h ↦ hexc ⟨m, h⟩
              cases exc <;> first | exact hraise _ | exact absurd ⟨_, rfl⟩ hexc
        | ok st =>
            by_cases hst : st.complete = true
            · simp only [wp_pure, hst, if_true, wp_bind]
              -- the route ends after a refund that was answered at once
              refine wp_mono ?_ (goes_finalizeRefundCharge fun u o w'' ho hw ↦
                .cardAnswered hst rfl ho hw)
              rintro ⟨t, w₁⟩ (e | _) w₂ h <;> exact h
            · simp only [wp_pure, hst, if_false, Bool.false_eq_true, wp_bind,
                App.wp_saveTransaction]
              exact ⟨trivial, _, rfl, .cardInFlight (by simpa using hst)
                (w'.updated_updateTransaction _ _), fun w'' _ _ ↦ goes_poll _ .responded⟩
  · simp only [hmethod, ne_eq, not_false_eq_true, if_true]
    exact .refused

theorem goes_cancelRefund {r : Id} :
    Goes D E (cancelRefund r) (.start (.cancelRefund r)) w w := by
  unfold Goes Prog.Follows cancelRefund
  simp only [wp_bind, App.wp_getTransaction]
  cases hrow : w.db.transaction r with
  | none => exact .refused
  | some refund =>
      obtain rfl : refund.id = r := Table.key_of_get? hrow
      by_cases htype : refund.txnType = .refund
      · by_cases hstatus : refund.status = .refundPending ∨
          refund.status = .refundPaymentInFlight
        · have hgo : ¬ (refund.status ≠ .refundPending ∧
              refund.status ≠ .refundPaymentInFlight) := by tauto
          simp only [htype, hgo, ne_eq, not_true_eq_false, if_false, wp_bind,
            App.wp_saveTransaction]
          exact ⟨trivial, .cancelled hrow htype hstatus (w.updated_updateTransaction _ _)⟩
        · have hrefuse : refund.status ≠ .refundPending ∧
              refund.status ≠ .refundPaymentInFlight := by tauto
          simp only [htype, hrefuse, ne_eq, not_true_eq_false, not_false_eq_true, and_self,
            if_false, if_true]
          exact .refused
      · simp only [htype, ne_eq, not_false_eq_true, if_true]
        exact .refused

theorem goes_startRefund {s : Id} {cashierId : String} :
    Goes D E (startRefund D.settings s cashierId).void (.start (.startRefund s cashierId)) w w := by
  unfold Goes Prog.Follows startRefund App.void
  simp only [wp_bind]
  refine wp_lookupRefund (fun original hrow htype hstatus hfree ↦ ?_) fun e ↦ .refused
  exact ⟨trivial, .started hrow htype hstatus hfree⟩

theorem goes_lookupRefund {s : Id} :
    Goes D E (lookupRefund D.settings s).void (.start (.lookupRefund s)) w w := by
  unfold Goes Prog.Follows App.void
  rw [wp_bind]
  exact wp_lookupRefund (fun _ _ _ _ _ ↦ .refused) fun e ↦ .refused

/-- What a postcondition asks of a handler that retries, whatever it reports. -/
abbrev Done (D : Deployment) {α : Type} :
    Trig × World → Except PyExc α → World → Prop :=
  fun g _ w ↦ RefundSegment D.settings g.1 g.2 w none

theorem goes_finishRetrySale {φ : Call} {txn : POSTransaction} {req : CheckoutRequest}
    {outcome : Attempts} (hreq : req.idempotencyKey = txn.id) :
    (Reconciliation.finishRetrySale D.runtime txn outcome).wp
      ((protocol D.settings).calculus (D.system E)) (Done D)
      (.reply φ (.sentryCreatePosSo req) outcome, w) w := by
  unfold Reconciliation.finishRetrySale
  have hover : RefundSegment D.settings (.reply φ (.sentryCreatePosSo req) outcome) w w none :=
    .over (.inl ⟨req, rfl⟩)
  have hsent {u : TransactionUpdate} (hu : SentryWrites u) : RefundSegment D.settings
      (.reply φ (.sentryCreatePosSo req) outcome) w (w.updateTransaction txn.id u) none :=
    .saleSent hu (hreq ▸ w.updated_updateTransaction _ _)
  cases Sentry.createPosSo D.runtime outcome with
  | ok result =>
      simp only [wp_bind, App.wp_saveTransaction]
      exact ⟨trivial, hsent (.retried _ _)⟩
  | error e =>
      cases e with
      | sentryClient exc =>
          rw [wp_bind]
          refine App.wp_bindText (fun text _ ↦ ?_) fun _ ↦ hover
          simp only [wp_bind, App.wp_saveTransaction]
          exact ⟨trivial, hsent (.retryFailed _ _)⟩
      | _ => exact hover

theorem goes_retryOneSale {y : Id} {txn : POSTransaction} :
    (Reconciliation.retryOneSale D.runtime txn).wp ((protocol D.settings).calculus (D.system E))
      (Done D) (.start (.retrySentry y), w) w := by
  unfold Reconciliation.retryOneSale
  simp only [wp_bind, wp_read]
  exact ⟨_, rfl, .retry (.inl ⟨_, rfl⟩), fun w' a _ ↦ goes_finishRetrySale rfl⟩

theorem goes_finishRetryRefund {φ : Call} {refund original : POSTransaction}
    {req : RefundRequest} {outcome : Attempts} (hreq : req.idempotencyKey = refund.id) :
    (Reconciliation.finishRetryRefund D.runtime refund original outcome).wp
      ((protocol D.settings).calculus (D.system E)) (Done D)
      (.reply φ (.sentryCreatePosRefund req) outcome, w) w := by
  unfold Reconciliation.finishRetryRefund
  have hover : RefundSegment D.settings (.reply φ (.sentryCreatePosRefund req) outcome) w w none :=
    .over (.inr (.inl ⟨req, rfl⟩))
  cases Sentry.createPosRefund D.runtime outcome with
  | ok result =>
      simp only [wp_bind, App.wp_commit]
      refine ⟨trivial, ?_⟩
      apply RefundSegment.sent (.retried result.refundSoId refund.retryCount)
      · rw [hreq]
        exact w.updated_updateTransaction _ _
      · rw [hreq]
        exact World.updated_updateTransaction _ _ _
  | error e =>
      cases e with
      | sentryClient exc =>
          rw [wp_bind]
          refine App.wp_bindText (fun text _ ↦ ?_) fun _ ↦ hover
          simp only [wp_bind, App.wp_saveTransaction]
          refine ⟨trivial, .notSent (.retryFailed text refund.retryCount) ?_ fun _ h ↦ nomatch h⟩
          rw [hreq]
          exact w.updated_updateTransaction _ _
      | _ => exact hover

theorem goes_retryOneRefund {y : Id} {refund : POSTransaction} :
    (Reconciliation.retryOneRefund D.runtime refund).wp
      ((protocol D.settings).calculus (D.system E)) (Done D) (.start (.retrySentry y), w) w := by
  unfold Reconciliation.retryOneRefund
  simp only [wp_bind, wp_read]
  cases refund.parentTransactionId.bind w.db.transaction with
  | none => exact .refused
  | some original =>
      exact ⟨_, rfl, .retry (.inr ⟨_, rfl⟩), fun w' a _ ↦ goes_finishRetryRefund rfl⟩

theorem goes_retrySentry {y : Id} :
    Goes D E (Reconciliation.retrySentry D.runtime y) (.start (.retrySentry y)) w w := by
  unfold Goes Prog.Follows Reconciliation.retrySentry
  simp only [wp_bind, App.wp_getTransaction]
  cases hrow : w.db.transaction y with
  | none => exact .refused
  | some txn =>
      cases htype : txn.txnType with
      | sale =>
          simp only [htype]
          by_cases hstatus : txn.status ≠ .inventoryUpdateFailed
          · rw [if_pos hstatus]
            exact .refused
          · rw [if_neg hstatus, wp_bind]
            exact wp_mono (by rintro g (e | _) w h <;> exact h) goes_retryOneSale
      | refund =>
          simp only [htype]
          by_cases hstatus : txn.status ≠ .refundInventoryUpdateFailed
          · rw [if_pos hstatus]
            exact .refused
          · rw [if_neg hstatus, wp_bind]
            exact wp_mono (by rintro g (e | _) w h <;> exact h) goes_retryOneRefund

end Follows

/-- **The refund handlers follow the protocol**, in every environment. -/
theorem refund_follows (D : Deployment) (E : Environment) {i : Request} (h : IsRefund i) :
    (D.system E).Follows (protocol D.settings) i := by
  intro w
  cases i with
  | lookupRefund s => exact goes_lookupRefund
  | startRefund s cashierId => exact goes_startRefund
  | chargeCardRefund r => exact goes_chargeCardRefund
  | chargeCashRefund r => exact goes_chargeCashRefund
  | pollRefundUntilComplete r => exact goes_poll _ .start
  | cancelRefund r => exact goes_cancelRefund
  | retrySentry y => exact goes_retrySentry
  | _ => exact h.elim

end HightowerPos.Refunds
