import HightowerPos.Service

/-!
# The payment protocol of a sale

What one segment of `charge_cash`, `charge_card`, `cancel_checkout` or
`poll_card_until_complete` can do, whatever has happened to the sale since the segment
before: `SaleSegment` has one case for each way through a segment, with the guard the
code checks in that segment and the columns its commit assigns.

A waiting handler is in the phase named by the call it waits for.  The theorem of this
file is `payment_follows`: the handlers follow the protocol in every environment.
-/

namespace HightowerPos.Sale

open Async Checkout

/-- What sets a segment of a payment handler going. -/
abbrev Trig := Trigger Call Answer Request Call

/-- What `_finalize_card_charge` assigns, and what it then awaits. -/
inductive CardOutcome (txn : POSTransaction) (st : WindcaveStatusResponse) :
    TransactionUpdate → Option Call → Prop
  | signature (hs : st.signatureRequired = true) :
      CardOutcome txn st
        (paymentFailed "signature verification required (not supported in v1)") none
  | declined (hs : st.signatureRequired = false) (ha : st.approved = false) :
      CardOutcome txn st (paymentFailed (declineText st)) none
  | approved (hs : st.signatureRequired = false) (ha : st.approved = true)
      {result : WindcaveResult} (hresult : st.result = some result) {req : CheckoutRequest}
      (hreq : req.idempotencyKey = txn.id) :
      CardOutcome txn st (cardTaken txn.totalCents result) (some (.sentryCreatePosSo req))

/-- The triggers after which a poller asks for the status or gives up. -/
inductive Polling (x : Id) : Trig → Prop
  | start : Polling x (.start (.pollCardUntilComplete x))
  | responded {φ : Call} {a : Unit} : Polling x (.reply φ (.respond x) a)
  | slept {φ : Call} {e : Int} {a : Unit} : Polling x (.reply φ (.pollSleep x e) a)

/-- The answers after which a poller sleeps. -/
def Unsettled : Except PyExc WindcaveStatusResponse → Prop
  | .ok r => r.complete = false
  | .error e => ∃ m, e = .windcaveClient m

/-- The answers after which a charge or a cancel goes on; any other exception ends the handler. -/
def GoesOn {α : Type} : Except PyExc α → Prop
  | .ok _ => True
  | .error e => ∃ m, e = .windcaveClient m

/-- The answers of Sentry that a paid sale handles: an order, or an error whose text the
database takes. -/
def SentryHandled (rt : Runtime) (outcome : Attempts) : Prop :=
  (∃ result, Sentry.createPosSo rt outcome = .ok result) ∨
    ∃ exc text, Sentry.createPosSo rt outcome = .error (.sentryClient exc) ∧
      (errorText exc).encode = some text

/-- One segment of a payment handler. -/
inductive SaleSegment (rt : Runtime) : Trig → World → World → Option Call → Prop
  | /-- A request is refused, or raises before it has written anything. -/
    refused {i : Request} {w : World} : SaleSegment rt (.start i) w w none
  | cashTaken {x : Id} {amount : Cents} {w w' : World} {txn : POSTransaction}
      {req : CheckoutRequest} (hrow : w.db.transaction x = some txn)
      (hstatus : txn.status = .awaitingPayment) (hpaid : txn.totalCents ≤ amount)
      (hw : w.Updated x (cashTaken txn.totalCents amount) w') (hreq : req.idempotencyKey = x) :
      SaleSegment rt (.start (.chargeCash x amount)) w w' (some (.sentryCreatePosSo req))
  | cardPosted {x : Id} {w : World} {txn : POSTransaction}
      (hrow : w.db.transaction x = some txn) (hstatus : txn.status = .awaitingPayment)
      (hamount : 0 ≤ txn.totalCents) :
      SaleSegment rt (.start (.chargeCard x)) w
        (w.send (.windcaveCharge txn.totalCents x)) (some (.windcaveCharge txn.totalCents x))
  | cardUnavailable {x : Id} {amount : Cents} {φ : Call} {m : String} {w w' : World}
      (hw : w.Updated x (paymentFailed s!"windcave_unavailable: {m}") w') :
      SaleSegment rt (.reply φ (.windcaveCharge amount x) (.error (.windcaveClient m)))
        w w' none
  | cardRaised {x : Id} {amount : Cents} {φ : Call} {e : PyExc} {w : World}
      (he : ∀ m, e ≠ .windcaveClient m) :
      SaleSegment rt (.reply φ (.windcaveCharge amount x) (.error e)) w w none
  | cardInFlight {x : Id} {amount : Cents} {φ : Call} {r : WindcaveStatusResponse}
      {w w' : World} (hr : r.complete = false)
      (hw : w.Updated x ((charged r.rawXml).andThen inFlight) w') :
      SaleSegment rt (.reply φ (.windcaveCharge amount x) (.ok r)) w w' (some (.respond x))
  | cardAnswered {x : Id} {amount : Cents} {φ : Call} {r : WindcaveStatusResponse}
      {w w' : World} {txn : POSTransaction} {u : TransactionUpdate} {o : Option Call}
      (hr : r.complete = true) (hid : txn.id = x) (ho : CardOutcome txn r u o)
      (hw : w.Updated x (((charged r.rawXml).andThen (replied r.rawXml)).andThen u) w') :
      SaleSegment rt (.reply φ (.windcaveCharge amount x) (.ok r)) w w' o
  | pollAsks {x : Id} {t : Trig} {q : Call} {w : World} (ht : Polling x t)
      (hq : (∃ e, q = .windcaveStatus x e) ∨ q = .pollOn x) : SaleSegment rt t w w (some q)
  | pollTimedOut {x : Id} {t : Trig} {w w' : World} {txn : POSTransaction} (ht : Polling x t)
      (hrow : w.db.transaction x = some txn) (hstatus : txn.status = .paymentInFlight)
      (hw : w.Updated x (paymentFailed "polling_timeout") w') : SaleSegment rt t w w' none
  | pollOver {x : Id} {t : Trig} {w : World} (ht : Polling x t)
      (hrow : ∀ txn, w.db.transaction x = some txn → txn.status ≠ .paymentInFlight) :
      SaleSegment rt t w w none
  | pollWaits {x : Id} {e : Int} {φ : Call} {a : Except PyExc WindcaveStatusResponse}
      {w : World} (ha : Unsettled a) :
      SaleSegment rt (.reply φ (.windcaveStatus x e) a) w w (some (.pollSleep x e))
  | pollRaised {x : Id} {e : Int} {φ : Call} {exc : PyExc} {w : World}
      (he : ∀ m, exc ≠ .windcaveClient m) :
      SaleSegment rt (.reply φ (.windcaveStatus x e) (.error exc)) w w none
  | pollAnswered {x : Id} {e : Int} {φ : Call} {r : WindcaveStatusResponse}
      {w w' : World} {txn : POSTransaction} {u : TransactionUpdate} {o : Option Call}
      (hr : r.complete = true) (hrow : w.db.transaction x = some txn)
      (hstatus : txn.status = .paymentInFlight) (ho : CardOutcome txn r u o)
      (hw : w.Updated x ((Update.id.andThen (replied r.rawXml)).andThen u) w') :
      SaleSegment rt (.reply φ (.windcaveStatus x e) (.ok r)) w w' o
  | pollAnsweredLate {x : Id} {e : Int} {φ : Call} {r : WindcaveStatusResponse} {w : World}
      (hrow : ∀ txn, w.db.transaction x = some txn → txn.status ≠ .paymentInFlight) :
      SaleSegment rt (.reply φ (.windcaveStatus x e) (.ok r)) w w none
  | cancelled {x : Id} {w w' : World} {txn : POSTransaction}
      (hrow : w.db.transaction x = some txn)
      (hstatus : txn.status = .awaitingPayment ∨
        txn.status = .paymentInFlight ∧ txn.paymentMethod ≠ some .card)
      (hw : w.Updated x Checkout.cancelled w') :
      SaleSegment rt (.start (.cancelCheckout x)) w w' none
  | cancelSent {x : Id} {w : World} {txn : POSTransaction}
      (hrow : w.db.transaction x = some txn) (hstatus : txn.status = .paymentInFlight) :
      SaleSegment rt (.start (.cancelCheckout x)) w w (some (.windcaveCancel x))
  | cancelAnswered {x : Id} {φ : Call} {a : Except PyExc Bool} {w w' : World}
      (ha : GoesOn a) (hw : w.Updated x Checkout.cancelled w') :
      SaleSegment rt (.reply φ (.windcaveCancel x) a) w w' none
  | cancelRaised {x : Id} {φ : Call} {e : PyExc} {w : World}
      (he : ∀ m, e ≠ .windcaveClient m) :
      SaleSegment rt (.reply φ (.windcaveCancel x) (.error e)) w w none
  | completed {φ : Call} {req : CheckoutRequest} {outcome : Attempts}
      {result : CheckoutResult} {w w' : World} {a : Option Till.Attribution}
      (hres : Sentry.createPosSo rt outcome = .ok result)
      (hw : w.Updated req.idempotencyKey (completion result.soId a) w') :
      SaleSegment rt (.reply φ (.sentryCreatePosSo req) outcome) w w' none
  | sentryFailed {φ : Call} {req : CheckoutRequest} {outcome : Attempts}
      {exc : SentryClientError} {text : String} {w w' : World} {event : String}
      {context : PyStr} (hres : Sentry.createPosSo rt outcome = .error (.sentryClient exc))
      (htext : (errorText exc).encode = some text)
      (hw : w.Updated req.idempotencyKey (inventoryUpdateFailed text) w') :
      SaleSegment rt (.reply φ (.sentryCreatePosSo req) outcome) w w'
        (some (.sentryLogInboundActivity event (.checkout req) context))
  | sentryRaised {φ : Call} {req : CheckoutRequest} {outcome : Attempts} {w : World}
      (hres : ¬ SentryHandled rt outcome) :
      SaleSegment rt (.reply φ (.sentryCreatePosSo req) outcome) w w none
  | logged {φ : Call} {event : String} {payload : InboundPayload} {context : PyStr}
      {a : Attempts} {w : World} :
      SaleSegment rt (.reply φ (.sentryLogInboundActivity event payload context) a) w w none

/-- The protocol: a phase is the call waited for. -/
def protocol (rt : Runtime) : Protocol World Call Answer Request Call where
  call q := q
  seg := SaleSegment rt

/-- The requests that pay or cancel a sale. -/
def IsPayment : Request → Prop
  | .chargeCash _ _ | .chargeCard _ | .pollCardUntilComplete _ | .cancelCheckout _ => True
  | _ => False

/-- Any number of payment handlers, with any answers. -/
def payments : Guard World Call Answer Request where
  start _ _ i := IsPayment i
  resume _ _ _ _ := True
  kill _ _ _ := False

/-! ## The handlers follow the protocol -/

section Follows

variable {D : Deployment} {E : Environment} {t : Trig} {w₀ w : World}

/-- The condition under which a program goes on within the segment `t`. -/
abbrev Goes (D : Deployment) (E : Environment) (p : App Unit) (t : Trig) (w₀ w : World) :
    Prop := p.Follows (D.system E) (protocol D.runtime) t w₀ w

theorem goes_finishSend {φ : Call} {txn : POSTransaction} {req : CheckoutRequest}
    {outcome : Attempts} (hreq : req.idempotencyKey = txn.id) :
    Goes D E (finishSend D.runtime D.settings txn req outcome)
      (.reply φ (.sentryCreatePosSo req) outcome) w w := by
  unfold Goes Prog.Follows finishSend
  cases hres : Sentry.createPosSo D.runtime outcome with
  | ok result =>
      simp only [wp_bind, Till.wp_attributeTransaction, FabricOutbox.wp_enqueue, App.wp_commit]
      refine ⟨trivial, ?_⟩
      apply SaleSegment.completed hres
      rw [hreq]
      exact (Till.updated_commitTally (w.updated_updateTransaction _ _) _).addOutboxEntry _
  | error e =>
      by_cases he : ∃ exc, e = .sentryClient exc
      · obtain ⟨exc, rfl⟩ := he
        rw [wp_bind]
        refine App.wp_bindText (fun text htext ↦ ?_) fun htext ↦ ?_
        · simp only [wp_bind, FabricOutbox.wp_enqueue, App.wp_commit]
          refine ⟨trivial, _, rfl, ?_, fun w' a _ ↦ .logged⟩
          refine .sentryFailed hres htext ?_
          rw [hreq]
          exact (w.updated_updateTransaction _ _).addOutboxEntry _
        · refine .sentryRaised ?_
          rintro (⟨result, h⟩ | ⟨exc', text, h, ht⟩)
          · simp [hres] at h
          · simp only [hres, Except.error.injEq, PyExc.sentryClient.injEq] at h
            rw [← h, htext] at ht
            cases ht
      · have hraise :
            SaleSegment D.runtime (.reply φ (.sentryCreatePosSo req) outcome) w w none := by
          refine .sentryRaised ?_
          rintro (⟨result, h⟩ | ⟨exc', text, h, -⟩)
          · simp [hres] at h
          · rw [hres, Except.error.injEq] at h
            exact he ⟨exc', h⟩
        cases e <;> first | exact hraise | exact absurd ⟨_, rfl⟩ he

theorem goes_sendToSentry {txn : POSTransaction} {method : PaymentMethod}
    (hseg : ∀ req : CheckoutRequest, req.idempotencyKey = txn.id →
      SaleSegment D.runtime t w₀ w (some (.sentryCreatePosSo req))) :
    Goes D E (sendToSentry D.runtime D.settings txn method) t w₀ w := by
  unfold Goes Prog.Follows sendToSentry
  simp only [wp_bind, wp_read]
  exact ⟨_, rfl, hseg _ rfl, fun w' a _ ↦ goes_finishSend rfl⟩

theorem goes_finalizeCardCharge {txn : POSTransaction} {dirty : TransactionUpdate}
    {st : WindcaveStatusResponse}
    (hseg : ∀ u o w', CardOutcome txn st u o →
      w.Updated txn.id ((dirty.andThen (replied st.rawXml)).andThen u) w' →
      SaleSegment D.runtime t w₀ w' o) :
    Goes D E (finalizeCardCharge D.runtime D.settings txn dirty st) t w₀ w := by
  unfold Goes Prog.Follows finalizeCardCharge
  by_cases hs : st.signatureRequired = true
  · simp only [hs, if_true, wp_bind, App.wp_saveTransaction]
    exact ⟨trivial, hseg _ _ _ (.signature hs) (w.updated_updateTransaction _ _)⟩
  · have hs' : st.signatureRequired = false := by simpa using hs
    by_cases ha : st.approved = true
    · -- an approved reply has a result, so that the assertion holds
      obtain ⟨result, hresult⟩ : ∃ result, st.result = some result := by
        cases hr : st.result with
        | none => simp [WindcaveStatusResponse.approved, hr] at ha
        | some result => exact ⟨result, rfl⟩
      simp only [hs', ha, hresult, wp_bind, App.wp_saveTransaction, Bool.not_true,
        Bool.false_eq_true, if_false]
      refine ⟨trivial, goes_sendToSentry fun req hreq ↦ ?_⟩
      exact hseg _ _ _ (.approved hs' ha hresult (hreq.trans (App.id_touch_set _ _ _)))
        (w.updated_updateTransaction _ _)
    · have ha' : st.approved = false := by simpa using ha
      simp only [hs', ha', wp_bind, App.wp_saveTransaction, Bool.not_false, if_true,
        Bool.false_eq_true, if_false]
      exact ⟨trivial, hseg _ _ _ (.declined hs' ha') (w.updated_updateTransaction _ _)⟩

theorem goes_finishPoll {x : Id} {final : Option WindcaveStatusResponse}
    (htimeout : ∀ txn w', final = none → w.db.transaction x = some txn →
      txn.status = .paymentInFlight → w.Updated x (paymentFailed "polling_timeout") w' →
      SaleSegment D.runtime t w₀ w' none)
    (hover : (∀ txn, w.db.transaction x = some txn → txn.status ≠ .paymentInFlight) →
      SaleSegment D.runtime t w₀ w none)
    (hanswer : ∀ txn st u o w', final = some st → w.db.transaction x = some txn →
      txn.status = .paymentInFlight → CardOutcome txn st u o →
      w.Updated x ((Update.id.andThen (replied st.rawXml)).andThen u) w' →
      SaleSegment D.runtime t w₀ w' o) :
    Goes D E (finishPoll D.runtime D.settings x final) t w₀ w := by
  unfold Goes Prog.Follows finishPoll
  simp only [wp_bind, App.wp_getTransaction]
  cases hrow : w.db.transaction x with
  | none => exact hover fun txn h ↦ by rw [hrow] at h; cases h
  | some txn =>
      have hid : txn.id = x := Table.key_of_get? hrow
      by_cases hstatus : txn.status = .paymentInFlight
      · cases final with
        | none =>
            simp only [hstatus, ne_eq, not_true_eq_false, if_false, wp_bind,
              App.wp_saveTransaction, hid]
            exact ⟨trivial, htimeout txn _ rfl hrow hstatus (w.updated_updateTransaction _ _)⟩
        | some st =>
            simp only [hstatus, ne_eq, not_true_eq_false, if_false]
            refine goes_finalizeCardCharge fun u o w' ho hw ↦ ?_
            rw [hid] at hw
            exact hanswer txn st u o w' rfl hrow hstatus ho hw
      · simp only [hstatus, ne_eq, not_false_eq_true, if_true]
        refine hover fun txn' h ↦ ?_
        rw [hrow, Option.some.injEq] at h
        exact h ▸ hstatus

/-- A poller follows the protocol. -/
theorem goes_poll {x : Id} (fuel : Nat) (ht : Polling x t) :
    Goes D E (pollCardUntilComplete D.runtime D.settings fuel x) t w w := by
  unfold Goes Prog.Follows pollCardUntilComplete
  rw [wp_bind]
  refine wp_pollLoop (J := fun _ g w ↦ Polling x g.1 ∧ g.2 = w) ?_ ?_ ?_ fuel ⟨ht, rfl⟩
  · rintro _ ⟨t, w₀⟩ w - ⟨ht, rfl⟩
    exact goes_finishPoll (fun txn w' _ hrow hstatus hw ↦ .pollTimedOut ht hrow hstatus hw)
      (fun hrow ↦ .pollOver ht hrow) (fun _ _ _ _ _ h ↦ (by cases h))
  · rintro _ ⟨t, w₀⟩ w ⟨ht, rfl⟩
    exact ⟨_, rfl, .pollAsks ht (.inr rfl), fun _ _ _ ↦ trivial⟩
  · rintro e ⟨t, w₀⟩ w ⟨ht, rfl⟩
    refine ⟨_, rfl, .pollAsks ht (.inl ⟨e, rfl⟩), fun w' a _ ↦ ?_⟩
    have hsleep (ha : Unsettled a) : ((protocol D.runtime).calculus (D.system E)).await
        (.reply (.windcaveStatus x e) (.windcaveStatus x e) a, w') w' (.pollSleep x e)
        fun _ g w ↦ Polling x g.1 ∧ g.2 = w :=
      ⟨_, rfl, .pollWaits ha, fun _ _ _ ↦ ⟨.slept, rfl⟩⟩
    cases a with
    | error exc =>
        by_cases hexc : ∃ m, exc = .windcaveClient m
        · obtain ⟨m, rfl⟩ := hexc
          exact hsleep ⟨m, rfl⟩
        · have hraise : SaleSegment D.runtime
              (.reply (.windcaveStatus x e) (.windcaveStatus x e) (.error exc)) w' w' none :=
            .pollRaised fun m h ↦ hexc ⟨m, h⟩
          cases exc <;> first | exact hraise | exact absurd ⟨_, rfl⟩ hexc
    | ok r =>
        by_cases hr : r.complete = true
        · simp only [PollStep, hr, if_true]
          exact goes_finishPoll (fun _ _ h ↦ (by cases h)) (fun hrow ↦ .pollAnsweredLate hrow)
            fun txn st u o w'' hst hrow hstatus ho hw ↦ by
              cases hst
              exact .pollAnswered hr hrow hstatus ho hw
        · simp only [PollStep, hr, if_false, Bool.false_eq_true]
          exact hsleep (by simpa [Unsettled] using hr)

theorem goes_chargeCash {x : Id} {amount : Cents} :
    Goes D E (chargeCash D.runtime D.settings x amount) (.start (.chargeCash x amount)) w w := by
  unfold Goes Prog.Follows chargeCash
  rw [wp_bind]
  refine wp_loadForPayment (fun txn hrow _ hstatus ↦ ?_) fun e ↦ .refused
  obtain rfl : txn.id = x := Table.key_of_get? hrow
  by_cases h : amount < txn.totalCents
  · simp only [h, if_true]
    exact .refused
  · simp only [h, if_false, wp_bind, App.wp_saveTransaction]
    exact ⟨trivial, goes_sendToSentry fun req hreq ↦
      .cashTaken hrow hstatus (not_lt.mp h) (w.updated_updateTransaction _ _) hreq⟩

theorem goes_chargeCard {x : Id} :
    Goes D E (chargeCardRoute D.runtime D.settings D.fuel x) (.start (.chargeCard x)) w w := by
  unfold Goes Prog.Follows chargeCardRoute chargeCard
  simp only [wp_bind]
  refine wp_loadForPayment (fun txn hrow _ hstatus ↦ ?_) fun e ↦ .refused
  obtain rfl : txn.id = x := Table.key_of_get? hrow
  simp only [App.wp_ofExcept]
  by_cases hamount : txn.totalCents < 0
  · rw [Windcave.formatAmount, if_pos hamount]
    exact .refused
  · rw [Windcave.formatAmount, if_neg hamount]
    refine ⟨_, rfl, .cardPosted hrow hstatus (not_lt.mp hamount), fun w' a _ ↦ ?_⟩
    cases a with
    | error exc =>
        by_cases hexc : ∃ m, exc = .windcaveClient m
        · obtain ⟨m, rfl⟩ := hexc
          simp only [wp_pure, wp_bind, App.wp_saveTransaction]
          exact ⟨trivial, .cardUnavailable (w'.updated_updateTransaction _ _)⟩
        · have hraise (q : Call) : SaleSegment D.runtime
              (.reply q (.windcaveCharge txn.totalCents txn.id) (.error exc)) w' w' none :=
            .cardRaised fun m h ↦ hexc ⟨m, h⟩
          cases exc <;> first | exact hraise _ | exact absurd ⟨_, rfl⟩ hexc
    | ok r =>
        by_cases hr : r.complete = true
        · simp only [wp_pure, hr, if_true, wp_bind]
          -- the route ends after a charge that was answered at once
          refine wp_mono ?_ (goes_finalizeCardCharge fun u o w'' ho hw ↦
            .cardAnswered hr rfl ho hw)
          rintro ⟨t, w₁⟩ (e | _) w₂ h <;> exact h
        · simp only [wp_pure, hr, if_false, Bool.false_eq_true, wp_bind,
            App.wp_saveTransaction]
          exact ⟨trivial, _, rfl, .cardInFlight (by simpa using hr)
            (w'.updated_updateTransaction _ _), fun w'' _ _ ↦ goes_poll _ .responded⟩

theorem goes_cancelCheckout {x : Id} :
    Goes D E (cancelCheckout x) (.start (.cancelCheckout x)) w w := by
  unfold Goes Prog.Follows cancelCheckout
  simp only [wp_bind, App.wp_getTransaction]
  cases hrow : w.db.transaction x with
  | none => exact .refused
  | some txn =>
      obtain rfl : txn.id = x := Table.key_of_get? hrow
      by_cases hstatus : txn.status = .awaitingPayment ∨ txn.status = .paymentInFlight
      · have hgo : ¬ (txn.status ≠ .awaitingPayment ∧ txn.status ≠ .paymentInFlight) := by
          tauto
        by_cases hsend : txn.status = .paymentInFlight ∧ txn.paymentMethod = some .card
        · simp only [hsend, and_self, if_true]
          refine ⟨_, rfl, .cancelSent hrow hsend.1, fun w' a _ ↦ ?_⟩
          have hcancel (ha : GoesOn a) : SaleSegment D.runtime
              (.reply (.windcaveCancel txn.id) (.windcaveCancel txn.id) a) w'
              (w'.updateTransaction txn.id cancelled) none :=
            .cancelAnswered ha (w'.updated_updateTransaction txn.id cancelled)
          cases a with
          | ok b => exact ⟨trivial, hcancel trivial⟩
          | error exc =>
              by_cases hexc : ∃ m, exc = .windcaveClient m
              · obtain ⟨m, rfl⟩ := hexc
                exact ⟨trivial, hcancel ⟨m, rfl⟩⟩
              · have hraise : SaleSegment D.runtime
                    (.reply (.windcaveCancel txn.id) (.windcaveCancel txn.id) (.error exc))
                    w' w' none :=
                  .cancelRaised fun m h ↦ hexc ⟨m, h⟩
                cases exc <;> first | exact hraise | exact absurd ⟨_, rfl⟩ hexc
        · simp only [hgo, hsend, if_false, wp_bind, App.wp_saveTransaction]
          refine ⟨trivial, .cancelled hrow ?_ (w.updated_updateTransaction _ _)⟩
          tauto
      · have hrefuse : txn.status ≠ .awaitingPayment ∧ txn.status ≠ .paymentInFlight := by
          tauto
        simp only [hrefuse, ne_eq, not_false_eq_true, and_self, if_true]
        exact .refused

end Follows

/-- **The payment handlers follow the protocol**, in every environment. -/
theorem payment_follows (D : Deployment) (E : Environment) {i : Request} (h : IsPayment i) :
    (D.system E).Follows (protocol D.runtime) i := by
  intro w
  cases i with
  | chargeCash x amount => exact goes_chargeCash
  | chargeCard x => exact goes_chargeCard
  | pollCardUntilComplete x => exact goes_poll _ .start
  | cancelCheckout x => exact goes_cancelCheckout
  | _ => exact h.elim

/-! ## One sale at a time -/

/-- The sale a call is about. -/
def saleOf : Call → Option Id
  | .windcaveCharge _ x | .windcaveStatus x _ | .windcaveCancel x | .respond x
  | .pollSleep x _ | .pollOn x => some x
  | .sentryCreatePosSo req | .sentryLogInboundActivity _ (.checkout req) _ =>
      some req.idempotencyKey
  | _ => none

/-- The sale a segment is about. -/
def subject : Trig → Option Id
  | .start (.chargeCash x _) | .start (.chargeCard x) | .start (.pollCardUntilComplete x)
  | .start (.cancelCheckout x) => some x
  | .start _ => none
  | .reply _ q _ => saleOf q

theorem Polling.subject_eq {x : Id} {t : Trig} (h : Polling x t) : subject t = some x := by
  cases h <;> rfl

theorem CardOutcome.saleOf_eq {txn : POSTransaction} {st : WindcaveStatusResponse}
    {u : TransactionUpdate} {o : Option Call} (h : CardOutcome txn st u o) :
    ∀ φ ∈ o, saleOf φ = some txn.id := by
  cases h with
  | signature | declined => exact fun _ h ↦ nomatch h
  | approved _ _ _ hreq =>
      rintro φ hφ
      obtain rfl := Option.mem_some.mp hφ
      exact congrArg some hreq

/-- A segment leaves the other sales alone. -/
theorem SaleSegment.frame {rt : Runtime} {t : Trig} {w w' : World} {o : Option Call}
    (h : SaleSegment rt t w w' o) {x : Id} (hx : subject t ≠ some x) :
    w'.db.transaction x = w.db.transaction x ∧ w'.posted x = w.posted x := by
  have hupdated {y : Id} {u : TransactionUpdate} (hy : subject t = some y)
      (hw : w.Updated y u w') :
      w'.db.transaction x = w.db.transaction x ∧ w'.posted x = w.posted x := by
    refine ⟨hw.others x fun hxy ↦ hx (hxy ▸ hy), ?_⟩
    rw [World.posted, World.posted, hw.acquirer]
  cases h with
  | refused | pollAsks | pollOver | pollWaits | pollRaised | pollAnsweredLate | cancelSent
  | cancelRaised | cardRaised | sentryRaised | logged => exact ⟨rfl, rfl⟩
  | @cardPosted y =>
      have hyx : y ≠ x := fun hyx ↦ hx (congrArg some hyx)
      exact ⟨rfl, World.posted_charge_ne hyx⟩
  | cashTaken _ _ _ hw | cardUnavailable hw | cardInFlight _ hw | cardAnswered _ _ _ hw
  | pollAnswered _ _ _ _ hw | cancelled _ _ hw | cancelAnswered _ hw | completed _ hw
  | sentryFailed _ _ hw => exact hupdated rfl hw
  | pollTimedOut ht _ _ hw => exact hupdated ht.subject_eq hw

/-- A segment goes on waiting for its own sale. -/
theorem SaleSegment.saleOf_eq {rt : Runtime} {t : Trig} {w w' : World} {o : Option Call}
    (h : SaleSegment rt t w w' o) : ∀ φ ∈ o, saleOf φ = subject t := by
  rintro φ hφ
  cases h with
  | refused | pollOver | pollRaised | pollAnsweredLate | cancelRaised | cardRaised
  | sentryRaised | logged | cardUnavailable | pollTimedOut | cancelled | cancelAnswered
  | completed => cases hφ
  | cardPosted | cardInFlight | pollWaits | cancelSent | sentryFailed =>
      obtain rfl := Option.mem_some.mp hφ
      rfl
  | cashTaken _ _ _ _ hreq =>
      obtain rfl := Option.mem_some.mp hφ
      exact congrArg some hreq
  | pollAsks ht hq =>
      obtain rfl := Option.mem_some.mp hφ
      rw [ht.subject_eq]
      rcases hq with ⟨e, rfl⟩ | rfl <;> rfl
  | cardAnswered _ hid ho _ => exact (ho.saleOf_eq φ hφ).trans (congrArg some hid)
  | pollAnswered _ hrow _ ho _ =>
      exact (ho.saleOf_eq φ hφ).trans (congrArg some (Table.key_of_get? hrow))

/-- A handler of payments posts nothing but purchases. -/
theorem SaleSegment.posts {rt : Runtime} {t : Trig} {w w' : World} {o : Option Call}
    (h : SaleSegment rt t w w' o) :
    ∀ φ ∈ o, φ.Posts → ∃ amount x, φ = .windcaveCharge amount x := by
  have hcard {txn : POSTransaction} {st : WindcaveStatusResponse} {u : TransactionUpdate}
      (ho : CardOutcome txn st u o) :
      ∀ φ ∈ o, φ.Posts → ∃ amount x, φ = .windcaveCharge amount x := by
    intro φ hφ hposts
    cases ho with
    | signature | declined => cases hφ
    | approved =>
        obtain rfl := Option.mem_some.mp hφ
        exact hposts.elim
  intro φ hφ hposts
  cases h with
  | refused | pollOver | pollRaised | pollAnsweredLate | cancelRaised | cardRaised
  | sentryRaised | logged | cardUnavailable | pollTimedOut | cancelled | cancelAnswered
  | completed => cases hφ
  | cardPosted => exact ⟨_, _, (Option.mem_some.mp hφ).symm⟩
  | cashTaken | cardInFlight | pollWaits | cancelSent | sentryFailed =>
      obtain rfl := Option.mem_some.mp hφ
      exact hposts.elim
  | pollAsks _ hq =>
      obtain rfl := Option.mem_some.mp hφ
      rcases hq with ⟨e, rfl⟩ | rfl <;> exact hposts.elim
  | cardAnswered _ _ ho _ => exact hcard ho φ hφ hposts
  | pollAnswered _ _ _ ho _ => exact hcard ho φ hφ hposts

/-- The calls that handlers await for a sale. -/
def waiting (x : Id) (φs : List Call) : List Call := φs.filter fun φ ↦ saleOf φ = some x

theorem waiting_append (x : Id) (l r : List Call) :
    waiting x (l ++ r) = waiting x l ++ waiting x r := List.filter_append ..

theorem waiting_cons {x : Id} {φ : Call} (h : saleOf φ = some x) (r : List Call) :
    waiting x (φ :: r) = φ :: waiting x r := by simp [waiting, h]

theorem waiting_cons_ne {x : Id} {φ : Call} (h : saleOf φ ≠ some x) (r : List Call) :
    waiting x (φ :: r) = waiting x r := by simp [waiting, h]

theorem waiting_toList {x : Id} {o : Option Call} (h : ∀ φ ∈ o, saleOf φ = some x) :
    waiting x o.toList = o.toList := by
  cases o with
  | none => rfl
  | some φ => simp [waiting, h φ rfl]

theorem waiting_toList_ne {x : Id} {o : Option Call} (h : ∀ φ ∈ o, saleOf φ ≠ some x) :
    waiting x o.toList = [] := by
  cases o with
  | none => rfl
  | some φ => simp [waiting, h φ rfl]

def isCharge : Call → Bool
  | .windcaveCharge _ _ => true
  | _ => false

def isCancel : Call → Bool
  | .windcaveCancel _ => true
  | _ => false

def isOrder : Call → Bool
  | .sentryCreatePosSo _ => true
  | _ => false

/-- What the others wait for, they waited for before. -/
theorem mem_of_others {l r : List Call} {q q' : Call} (h : q' ∈ l ++ r) : q' ∈ l ++ q :: r := by
  rcases List.mem_append.mp h with h | h
  · exact List.mem_append_left _ h
  · exact List.mem_append_right _ (List.mem_cons_of_mem _ h)

/-- What is waited for after a segment: the new call, and what the others wait for. -/
theorem mem_next {l r : List Call} {o : Option Call} {q' : Call}
    (h : q' ∈ l ++ o.toList ++ r) : q' ∈ o ∨ q' ∈ l ++ r := by
  rw [List.append_assoc] at h
  rcases List.mem_append.mp h with h | h
  · exact .inr (List.mem_append_left _ h)
  · rcases List.mem_append.mp h with h | h
    · exact .inl (Option.mem_toList.mp h)
    · exact .inr (List.mem_append_right _ h)

/-- What the handlers wait for posts nothing but purchases. -/
def Purchases (φs : List Call) : Prop :=
  ∀ φ ∈ φs, φ.Posts → ∃ amount x, φ = .windcaveCharge amount x

theorem purchases_nil : Purchases [] := fun _ h ↦ absurd h List.not_mem_nil

/-- What a step of the pool is for one sale: somebody else's segment, a segment of its
own, its purchase posted again, or a move of the outside world. -/
inductive StepOf (rt : Runtime) (G : Guard World Call Answer Request)
    (reply : World → (q : Call) → Answer q → Prop) (x : Id) :
    Phased World Call → Phased World Call → Prop
  | other {d d' : Phased World Call}
      (hrow : d'.state.db.transaction x = d.state.db.transaction x)
      (hposted : d'.state.posted x = d.state.posted x)
      (hwaiting : waiting x d'.phases = waiting x d.phases) : StepOf rt G reply x d d'
  | start {d d' : Phased World Call} {i : Request} {o : Option Call}
      (hg : G.start d.state d.phases i) (hx : subject (.start i) = some x)
      (hseg : SaleSegment rt (.start i) d.state d'.state o)
      (hwaiting : waiting x d'.phases = waiting x d.phases ++ o.toList) :
      StepOf rt G reply x d d'
  | resume {d d' : Phased World Call} {l r : List Call} {φ : Call} {a : Answer φ}
      {o : Option Call} (ha : reply d.state φ a) (hg : ∃ qs, G.resume d.state qs φ a)
      (hx : saleOf φ = some x)
      (hseg : SaleSegment rt (.reply φ φ a) d.state d'.state o)
      (hbefore : waiting x d.phases = l ++ φ :: r)
      (hafter : waiting x d'.phases = l ++ o.toList ++ r) : StepOf rt G reply x d d'
  | resend {d d' : Phased World Call} {amount : Cents}
      (hg : ∃ qs, G.resend d.state qs (.windcaveCharge amount x))
      (hmem : .windcaveCharge amount x ∈ waiting x d.phases)
      (hrow : d'.state.db.transaction x = d.state.db.transaction x)
      (hposted : d'.state.posted x = d.state.posted x ++ [⟨x, .purchase, amount, .pending⟩])
      (hphases : d'.phases = d.phases) : StepOf rt G reply x d d'
  | drift {d d' : Phased World Call} (h : World.Drift d.state d'.state)
      (hphases : d'.phases = d.phases) : StepOf rt G reply x d d'

/-- Every step of the protocol is one of these. -/
theorem step_of {D : Deployment} {reply : World → (q : Call) → Answer q → Prop}
    {G : Guard World Call Answer Request} (hkill : ∀ w qs q, ¬ G.kill w qs q)
    {d d' : Phased World Call} (hposts : Purchases d.phases)
    (h : (protocol D.runtime).Step (D.system ⟨reply, World.Drift⟩) G d d') (x : Id) :
    StepOf D.runtime G reply x d d' := by
  cases h with
  | @start w w' l o i hg hseg =>
      have hg' : G.start w l i := by simpa [protocol] using hg
      by_cases hx : subject (.start i) = some x
      · refine .start hg' hx hseg ?_
        rw [waiting_append, waiting_toList fun φ hφ ↦ (hseg.saleOf_eq φ hφ).trans hx]
      · refine .other (hseg.frame hx).1 (hseg.frame hx).2 ?_
        rw [waiting_append, waiting_toList_ne fun φ hφ ↦ (hseg.saleOf_eq φ hφ).trans_ne hx,
          List.append_nil]
  | @resume w w' l r o φ a ha hg hseg =>
      change Call at φ
      by_cases hx : saleOf φ = some x
      · refine .resume ha ⟨_, hg⟩ hx hseg (l := waiting x l) (r := waiting x r) ?_ ?_
        · rw [waiting_append, waiting_cons hx]
          rfl
        · rw [waiting_append, waiting_append,
            waiting_toList fun φ hφ ↦ (hseg.saleOf_eq φ hφ).trans hx]
      · refine .other (hseg.frame hx).1 (hseg.frame hx).2 ?_
        rw [waiting_append, waiting_append, waiting_append,
          waiting_toList_ne fun φ hφ ↦ (hseg.saleOf_eq φ hφ).trans_ne hx, List.append_nil,
          waiting_cons_ne hx]
  | kill _ hg => exact absurd hg (hkill _ _ _)
  | @resend w l r φ hq hg =>
      obtain ⟨amount, y, hφ⟩ := hposts φ (List.mem_append_right _ (.head _)) hq
      obtain rfl : φ = .windcaveCharge amount y := hφ
      by_cases hy : y = x
      · subst hy
        refine .resend ⟨_, hg⟩ ?_ rfl (w.posted_charge amount y) rfl
        exact List.mem_filter.mpr ⟨List.mem_append_right _ (.head _), by simp [saleOf]⟩
      · exact .other rfl (World.posted_charge_ne hy) rfl
  | drift hd => exact .drift hd rfl

/-- The handlers go on posting nothing but purchases. -/
theorem purchases_step {D : Deployment} {E : Environment} {G : Guard World Call Answer Request}
    {d d' : Phased World Call} (h : Purchases d.phases)
    (hs : (protocol D.runtime).Step (D.system E) G d d') : Purchases d'.phases := by
  cases hs with
  | start i hg hseg =>
      intro φ hφ
      rcases List.mem_append.mp hφ with hφ | hφ
      · exact h φ hφ
      · exact hseg.posts φ (Option.mem_toList.mp hφ)
  | resume φ a ha hg hseg =>
      intro φ' hφ'
      rcases mem_next hφ' with hφ' | hφ'
      · exact hseg.posts φ' hφ'
      · exact h φ' (mem_of_others hφ')
  | kill φ hg =>
      intro φ' hφ'
      exact h φ' (mem_of_others hφ')
  | resend | drift => exact h

/-- **Induction over a run, for one sale.**  What the steps preserve, and what each of
them does to the world, holds of a run of payment handlers. -/
theorem run_of {D : Deployment} {reply : World → (q : Call) → Answer q → Prop}
    {G : Guard World Call Answer Request} (hstart : ∀ w qs i, G.start w qs i → IsPayment i)
    (hkill : ∀ w qs q, ¬ G.kill w qs q) {x : Id} {Inv : Phased World Call → Prop}
    {R : World → World → Prop} (hrefl : ∀ w, R w w)
    (htrans : ∀ w₁ w₂ w₃, R w₁ w₂ → R w₂ w₃ → R w₁ w₃)
    (hstep : ∀ d d', Inv d → StepOf D.runtime G reply x d d' → Inv d' ∧ R d.state d'.state)
    {c c' : Config World Call Answer PyExc} {d : Phased World Call}
    (hsim : Simulates (D.system ⟨reply, World.Drift⟩) (protocol D.runtime) c d)
    (hposts : Purchases d.phases) (hd : Inv d)
    (hrun : Run (D.system ⟨reply, World.Drift⟩) G c c') :
    ∃ d', Simulates (D.system ⟨reply, World.Drift⟩) (protocol D.runtime) c' d' ∧
      Purchases d'.phases ∧ Inv d' ∧ R c.state c'.state := by
  obtain ⟨d', hrun', hsim'⟩ := hrun.simulate
    (fun i w l hi ↦ payment_follows D ⟨reply, World.Drift⟩ (hstart w l i hi)) hsim
  suffices hall : Purchases d'.phases ∧ Inv d' ∧ R d.state d'.state by
    refine ⟨d', hsim', hall.1, hall.2.1, ?_⟩
    rw [hsim.state, hsim'.state]
    exact hall.2.2
  clear hsim'
  induction hrun' with
  | refl => exact ⟨hposts, hd, hrefl _⟩
  | tail _ hs ih =>
      obtain ⟨hinv, hR⟩ := hstep _ _ ih.2.1 (step_of hkill ih.1 hs x)
      exact ⟨purchases_step ih.1 hs, hinv, htrans _ _ _ ih.2.2 hR⟩

end HightowerPos.Sale
