import HightowerPos.Clients.Heeded
import HightowerPos.Commit

/-!
# Statuses that nothing leaves

`PENDING_VALIDATION`, `PAYMENT_SUCCESS` and `REFUND_PAYMENT_SUCCESS` are written before Sentry
is asked, and no operation of the service starts from them.  Whether a transaction leaves
them depends on Sentry's answer alone: the five handlers below go on exactly when it is
heeded (`Attempts.Heeded`), and any other exception of the client ends them where they are.
-/

namespace HightowerPos.Settled

open Async

/-- The statuses that are meant to be passed through. -/
def Transient (s : Option Status) : Prop :=
  s = some .pendingValidation ∨ s = some .paymentSuccess ∨ s = some .refundPaymentSuccess

/-- Sentry's tries end like this; `log` answers the report of a failure. -/
def answers (outcome log : Attempts) : (q : Call) → Option (Answer q)
  | .sentryValidateCart _ | .sentryCreatePosSo _ | .sentryCreatePosRefund _ => some outcome
  | .sentryLogInboundActivity _ _ _ => some log
  | _ => none

/-- The calculus of a handler that runs alone with these answers. -/
abbrev asking (outcome log : Attempts) : Calculus World Call Answer Unit :=
  .alone World.send (answers outcome log)

/-! ## What Sentry's answer makes of a transaction -/

/-- The transaction `x`, which was in status `s`, is in one of two others, or still there. -/
def LeftIff (x : Id) (s done failed : Status) (heeded : Prop) (w : World) : Prop :=
  (heeded → w.status x = some done ∨ w.status x = some failed) ∧ (¬ heeded → w.status x = some s)

section Finish

variable {rt : Runtime} {settings : Settings} {outcome log : Attempts} {w : World}
  {txn t : POSTransaction} {s : Status}

/-- The text of an error that can be stored is. -/
theorem encode_errorText {exc : SentryClientError} :
    (Checkout.errorText exc).encode.isSome ↔ Sentry.Storable exc := by
  rw [PyStr.encode_isSome_iff, Checkout.errorText, PyStr.encodable_append, PyStr.encodable_append]
  cases hcode : exc.errorCode with
  | none =>
      simp only [Sentry.Storable, hcode, Option.getD_none, PyStr.encodable_ofString, true_and]
      exact ⟨fun h ↦ ⟨h, fun c hc ↦ (by cases hc)⟩, And.left⟩
  | some code =>
      simp only [Sentry.Storable, hcode, Option.getD_some, PyStr.encodable_ofString, true_and]
      exact ⟨fun h ↦ ⟨h.2, fun c hc ↦ Option.some.inj hc ▸ h.1⟩, fun h ↦ ⟨h.2 code rfl, h.1⟩⟩

theorem status_ne_none {x : Id} (hrow : w.db.transaction x = some t) : w.status x ≠ none := by
  rw [World.status_of_row hrow]
  exact nofun

/-- The common end of a sale and a refund: Sentry's answer is `r`, and `p` goes on with what
it holds or with the text of the error. -/
theorem left_of_answer {α : Type} {r : Except PyExc α} {heeded : Prop} {x : Id}
    {done failed : Status} {p : App Unit} (htaken : Sentry.Taken r ↔ heeded)
    (hstatus : w.status x = some s)
    (hok : ∀ a, r = .ok a → p.wp (asking outcome log) (fun _ _ w' ↦ w'.status x = some done) () w)
    (hclient : ∀ exc, r = .error (.sentryClient exc) → ∃ fail : String → App Unit,
      p = App.bindText (Checkout.errorText exc) >>= fail ∧ ∀ text, (fail text).wp
        (asking outcome log) (fun _ _ w' ↦ w'.status x = some failed) () w)
    (hother : ∀ e, r = .error e → (∀ exc, e ≠ .sentryClient exc) → p = .raise e) :
    p.wp (asking outcome log) (fun _ _ w' ↦ LeftIff x s done failed heeded w') () w := by
  have hstay (h : ¬ Sentry.Taken r) : LeftIff x s done failed heeded w :=
    ⟨fun hh ↦ absurd (htaken.mpr hh) h, fun _ ↦ hstatus⟩
  cases hr : r with
  | ok a =>
      refine wp_mono (fun _ _ w' hw' ↦ ⟨fun _ ↦ .inl hw', fun hn ↦ ?_⟩) (hok a hr)
      exact absurd (htaken.mp (by rw [hr]; trivial)) hn
  | error e =>
      by_cases he : ∃ exc, e = .sentryClient exc
      · obtain ⟨exc, rfl⟩ := he
        have hexc : (Checkout.errorText exc).encode.isSome ↔ Sentry.Taken r := by
          rw [hr]
          exact encode_errorText
        obtain ⟨fail, rfl, hfail⟩ := hclient exc hr
        rw [wp_bind]
        refine App.wp_bindText (fun text htext ↦ ?_) fun htext ↦ hstay fun h ↦ ?_
        · refine wp_mono (fun _ _ w' hw' ↦ ⟨fun _ ↦ .inr hw', fun hn ↦ ?_⟩) (hfail text)
          exact absurd (htaken.mp (hexc.mp (by rw [htext]; rfl))) hn
        · have := hexc.mpr h
          rw [htext] at this
          cases this
      · rw [not_exists] at he
        rw [hother e hr he]
        refine hstay fun h ↦ ?_
        rw [hr] at h
        cases e <;> first | exact h | exact he _ rfl

/-- The end of a sale. -/
theorem left_finishSend {request : CheckoutRequest}
    (hrow : w.db.transaction txn.id = some t) (hs : t.status = s) :
    (Checkout.finishSend rt settings txn request outcome).wp (asking outcome log)
      (fun _ _ w' ↦ LeftIff txn.id s .complete .inventoryUpdateFailed
        (outcome.Heeded (Sentry.ReadableOrder rt.checkoutResult)) w') () w := by
  refine left_of_answer (r := Sentry.createPosSo rt outcome) Sentry.taken_created_iff
    ((World.status_of_row hrow).trans (congrArg some hs)) (fun result hresult ↦ ?_)
    (fun exc hexc ↦ ?_) (fun e he hne ↦ ?_)
  · unfold Checkout.finishSend
    rw [hresult]
    simp only [wp_bind, Till.wp_attributeTransaction, FabricOutbox.wp_enqueue, App.wp_commit]
    refine ⟨trivial, ?_⟩
    exact World.Updated.status ((Till.updated_commitTally (World.updated_updateTransaction _ _ _)
      _).addOutboxEntry _) (Checkout.completion_status _ _) (status_ne_none hrow)
  · unfold Checkout.finishSend
    rw [hexc]
    refine ⟨_, rfl, fun text ↦ ?_⟩
    simp only [wp_bind, FabricOutbox.wp_enqueue, App.wp_commit]
    refine ⟨trivial, log, rfl, ?_⟩
    exact World.Updated.status ((World.updated_updateTransaction _ _ _).addOutboxEntry _)
      (fun _ ↦ rfl) (status_ne_none hrow)
  · unfold Checkout.finishSend
    rw [he]
    cases e <;> first | rfl | exact absurd rfl (hne _)

/-- The end of a refund. -/
theorem left_finishSendRefund {request : RefundRequest} {original : POSTransaction}
    (hrow : w.db.transaction txn.id = some t) (hs : t.status = s) :
    (Refund.finishSend rt settings txn original request outcome).wp (asking outcome log)
      (fun _ _ w' ↦ LeftIff txn.id s .complete .refundInventoryUpdateFailed
        (outcome.Heeded (Sentry.ReadableOrder rt.refundResult)) w') () w := by
  refine left_of_answer (r := Sentry.createPosRefund rt outcome) Sentry.taken_created_iff
    ((World.status_of_row hrow).trans (congrArg some hs)) (fun result hresult ↦ ?_)
    (fun exc hexc ↦ ?_) (fun e he hother ↦ ?_)
  · unfold Refund.finishSend
    rw [hresult]
    simp only [wp_bind, Till.wp_attributeTransaction, FabricOutbox.wp_enqueue, App.wp_commit]
    refine ⟨trivial, ?_⟩
    refine (status_linked ((Till.updated_commitTally (World.updated_updateTransaction _ _ _)
      _).addOutboxEntry _)).trans ?_
    exact (World.updated_updateTransaction _ _ _).status (completion_status_refund _ _)
      (status_ne_none hrow)
  · unfold Refund.finishSend
    rw [hexc]
    refine ⟨_, rfl, fun text ↦ ?_⟩
    simp only [wp_bind, FabricOutbox.wp_enqueue, App.wp_commit]
    refine ⟨trivial, log, rfl, ?_⟩
    exact World.Updated.status ((World.updated_updateTransaction _ _ _).addOutboxEntry _)
      (fun _ ↦ rfl) (status_ne_none hrow)
  · unfold Refund.finishSend
    rw [he]
    cases e <;> first | rfl | exact absurd rfl (hother _)

/-- The end of `start_checkout`: the row waits for its payment, or the validation failed and
the cashier is told so. -/
theorem left_finishStart (hrow : w.db.transaction txn.id = some t)
    (hs : t.status = .pendingValidation) :
    (Checkout.finishStart rt txn outcome).wp (asking outcome log)
      (fun _ r w' ↦ (outcome.Heeded (Sentry.ReadableValidation rt) →
          (∃ a, r = .ok a) ∧ w'.status txn.id = some .awaitingPayment ∨
            (∃ e, r = .error e) ∧ w'.status txn.id = some .validationFailed) ∧
        (¬ outcome.Heeded (Sentry.ReadableValidation rt) →
          w'.status txn.id = some .pendingValidation)) () w := by
  have hstarted := @Sentry.started_validateCart_iff outcome rt
  have hstatus := (World.status_of_row hrow).trans (congrArg some hs)
  have hset {u : TransactionUpdate} {s' : Status} (hu : ∀ t, (u.set t).status = s') :
      (w.updateTransaction txn.id u).status txn.id = some s' :=
    (World.updated_updateTransaction _ _ _).status hu (status_ne_none hrow)
  unfold Checkout.finishStart
  cases hresult : Sentry.validateCart rt outcome with
  | ok result =>
      rw [hresult] at hstarted
      by_cases hv : result.valid = true
      · simp only [hv, if_true, App.wp_saveTransaction]
        refine ⟨trivial, fun _ ↦ .inl ⟨⟨_, rfl⟩, hset fun _ ↦ rfl⟩, fun hn ↦ ?_⟩
        exact absurd (hstarted.mp trivial) hn
      · simp only [hv, if_false, wp_bind, App.wp_saveTransaction, Bool.false_eq_true]
        refine ⟨trivial, fun _ ↦ .inr ⟨⟨_, rfl⟩, hset fun _ ↦ rfl⟩, fun hn ↦ ?_⟩
        exact absurd (hstarted.mp trivial) hn
  | error e =>
      rw [hresult] at hstarted
      cases e with
      | sentryClient exc =>
          have htext : (PyStr.ofString "sentry_unavailable: " ++ exc.message).encode.isSome ↔
              exc.message.Encodable := by
            rw [PyStr.encode_isSome_iff, PyStr.encodable_append]
            exact and_iff_right (PyStr.encodable_ofString _)
          rw [wp_bind]
          refine App.wp_bindText (fun text henc ↦ ?_) fun henc ↦ ⟨fun hh ↦ ?_, fun _ ↦ hstatus⟩
          · simp only [wp_bind, App.wp_saveTransaction]
            refine ⟨trivial, fun _ ↦ .inr ⟨⟨_, rfl⟩, hset fun _ ↦ rfl⟩, fun hn ↦ ?_⟩
            exact absurd (hstarted.mp (htext.mp (by rw [henc]; rfl))) hn
          · have := htext.mpr (hstarted.mpr hh)
            rw [henc] at this
            cases this
      | _ => exact ⟨fun hh ↦ (hstarted.mpr hh).elim, fun _ ↦ hstatus⟩

end Finish

/-! ## The five handlers -/

/-- A handler that asks Sentry, with what it is called with. -/
inductive Caller
  | startCheckout (lines : List Checkout.CartLineIn) (cashierId : String)
      (customer : Option Checkout.CustomerAttachIn)
  | chargeCash (txnId : Id) (amountTenderedCents : Cents)
  | finalizeCardCharge (txn : POSTransaction) (dirty : TransactionUpdate)
      (status : WindcaveStatusResponse)
  | chargeCashRefund (refundTxnId : Id)
  | finalizeRefundCharge (refund : POSTransaction) (status : WindcaveStatusResponse)

namespace Caller

/-- Its program. -/
def prog (D : Deployment) : Caller → App Unit
  | startCheckout lines cashierId customer =>
      (Checkout.startCheckout D.runtime D.settings lines cashierId customer).void
  | chargeCash txnId amount => Checkout.chargeCash D.runtime D.settings txnId amount
  | finalizeCardCharge txn dirty status =>
      Checkout.finalizeCardCharge D.runtime D.settings txn dirty status
  | chargeCashRefund refundId => Refund.chargeCashRefund D.runtime D.settings refundId
  | finalizeRefundCharge refund status =>
      Refund.finalizeRefundCharge D.runtime D.settings refund status

/-- Its transaction. -/
def txnId (w : World) : Caller → Id
  | startCheckout _ _ _ => w.db.posTransactions.fresh
  | chargeCash txnId _ => txnId
  | finalizeCardCharge txn _ _ => txn.id
  | chargeCashRefund refundId => refundId
  | finalizeRefundCharge refund _ => refund.id

/-- The request is not refused before Sentry is asked: the cart can be priced, or the
payment is taken. -/
inductive Accepted (D : Deployment) (w : World) : Caller → Prop
  | startCheckout {lines : List Checkout.CartLineIn} {prices : List (String × Cents)}
      {cart : List RichLine} (hprices : Checkout.pricesOf w.db lines [] [] = ([], prices))
      (hcart : lines.mapM (Checkout.richLine D.settings prices) = .ok cart)
      (cashierId : String) (customer : Option Checkout.CustomerAttachIn) :
      Accepted D w (.startCheckout lines cashierId customer)
  | chargeCash {txn : POSTransaction} (hrow : w.db.transaction txn.id = some txn)
      (htype : txn.txnType = .sale) (hstatus : txn.status = .awaitingPayment) {amount : Cents}
      (ha : txn.totalCents ≤ amount) : Accepted D w (.chargeCash txn.id amount)
  | finalizeCardCharge {txn : POSTransaction} (hrow : w.db.transaction txn.id = some txn)
      {status : WindcaveStatusResponse} (hs : status.signatureRequired = false)
      (ha : status.approved = true) (dirty : TransactionUpdate) :
      Accepted D w (.finalizeCardCharge txn dirty status)
  | chargeCashRefund {refund original : POSTransaction}
      (hrow : w.db.transaction refund.id = some refund) (htype : refund.txnType = .refund)
      (hstatus : refund.status = .refundPending) (hm : refund.paymentMethod = some .cash)
      (horig : refund.parentTransactionId.bind w.db.transaction = some original) :
      Accepted D w (.chargeCashRefund refund.id)
  | finalizeRefundCharge {refund original : POSTransaction}
      (hrow : w.db.transaction refund.id = some refund)
      (horig : refund.parentTransactionId.bind w.db.transaction = some original)
      {status : WindcaveStatusResponse} (hs : status.signatureRequired = false)
      (ha : status.approved = true) : Accepted D w (.finalizeRefundCharge refund status)

/-- Where the handler should leave its transaction. -/
def Leaves (result : Except PyExc Unit) (s : Option Status) : Caller → Prop
  | startCheckout _ _ _ => (∃ u, result = .ok u) ∧ s = some .awaitingPayment ∨
      (∃ e, result = .error e) ∧ s = some .validationFailed
  | chargeCash _ _ | finalizeCardCharge _ _ _ =>
      s = some .complete ∨ s = some .inventoryUpdateFailed
  | chargeCashRefund _ | finalizeRefundCharge _ _ =>
      s = some .complete ∨ s = some .refundInventoryUpdateFailed

/-- Sentry's tries are heeded. -/
def Heeded (rt : Runtime) (outcome : Attempts) : Caller → Prop
  | startCheckout _ _ _ => outcome.Heeded (Sentry.ReadableValidation rt)
  | chargeCash _ _ | finalizeCardCharge _ _ _ =>
      outcome.Heeded (Sentry.ReadableOrder rt.checkoutResult)
  | chargeCashRefund _ | finalizeRefundCharge _ _ =>
      outcome.Heeded (Sentry.ReadableOrder rt.refundResult)

/-- A status in which it should leave it is not transient. -/
theorem Leaves.not_transient {c : Caller} {r : Except PyExc Unit} {s : Option Status}
    (h : c.Leaves r s) : ¬ Transient s := by
  unfold Transient
  cases c with
  | startCheckout =>
      rcases h with ⟨-, rfl⟩ | ⟨-, rfl⟩
      · rintro (h | h | h) <;> cases h
      · rintro (h | h | h) <;> cases h
  | _ =>
      rcases h with rfl | rfl
      · rintro (h | h | h) <;> cases h
      · rintro (h | h | h) <;> cases h

end Caller

section Callers

variable {D : Deployment} {outcome log : Attempts} {w : World} {txn : POSTransaction}

variable (outcome log) in
/-- A sale that is paid is sent to Sentry. -/
theorem left_sendToSentry (hrow : w.db.transaction txn.id = some txn)
    (hs : txn.status = .paymentSuccess) (method : PaymentMethod) :
    (Checkout.sendToSentry D.runtime D.settings txn method).wp (asking outcome log)
      (fun _ _ w' ↦ LeftIff txn.id .paymentSuccess .complete .inventoryUpdateFailed
        (outcome.Heeded (Sentry.ReadableOrder D.runtime.checkoutResult)) w') () w := by
  unfold Checkout.sendToSentry
  simp only [wp_bind, wp_read]
  exact ⟨outcome, rfl, left_finishSend hrow hs⟩

/-- A refund that is paid out is sent to Sentry. -/
theorem left_sendRefundToSentry (hrow : w.db.transaction txn.id = some txn)
    (hs : txn.status = .refundPaymentSuccess) {original : POSTransaction}
    (horig : txn.parentTransactionId.bind w.db.transaction = some original) :
    (Refund.sendRefundToSentry D.runtime D.settings txn).wp (asking outcome log)
      (fun _ _ w' ↦ LeftIff txn.id .refundPaymentSuccess .complete .refundInventoryUpdateFailed
        (outcome.Heeded (Sentry.ReadableOrder D.runtime.refundResult)) w') () w := by
  unfold Refund.sendRefundToSentry
  simp only [wp_bind, wp_read, horig]
  exact ⟨outcome, rfl, left_finishSendRefund hrow hs⟩

/-- The sale that a refund refunds is still there when the refund was updated. -/
theorem original_updated {original : POSTransaction} {u : TransactionUpdate}
    (hu : (u.set txn).parentTransactionId = txn.parentTransactionId)
    (horig : txn.parentTransactionId.bind w.db.transaction = some original) :
    ∃ original', ((u.touch w.now).set txn).parentTransactionId.bind
      (w.updateTransaction txn.id u).db.transaction = some original' := by
  obtain ⟨p, hp, ho⟩ := Option.bind_eq_some_iff.mp horig
  obtain ⟨original', ho', -⟩ := (w.updated_updateTransaction txn.id u).row_of ho
  exact ⟨original', Option.bind_eq_some_iff.mpr ⟨p, hu.trans hp, ho'⟩⟩

variable (outcome log) in
/-- Where each handler leaves its transaction. -/
theorem Caller.Accepted.left {c : Caller} (h : c.Accepted D w) :
    (c.prog D).wp (asking outcome log) (fun _ r w' ↦
      (c.Heeded D.runtime outcome → c.Leaves r (w'.status (c.txnId w))) ∧
        (¬ c.Heeded D.runtime outcome → Transient (w'.status (c.txnId w)))) () w := by
  cases h with
  | @startCheckout lines prices cart hprices hcart cashierId customer =>
      change (Checkout.startCheckout D.runtime D.settings lines cashierId customer).void.wp _ _ _ _
      unfold App.void Checkout.startCheckout
      simp only [wp_bind, Checkout.wp_lookupPrices, hprices, ne_eq, not_true_eq_false, if_false,
        hcart, App.wp_ofExcept]
      refine ⟨trivial, outcome, rfl, ?_⟩
      change (Checkout.finishStart D.runtime _ outcome).wp (asking outcome log) _ () _
      refine wp_mono (fun _ r w' hw' ↦ ?_) (left_finishStart row_stored rfl)
      cases r with
      | ok txn =>
          refine ⟨fun hh ↦ (hw'.1 hh).imp (fun h ↦ ⟨⟨(), rfl⟩, h.2⟩) fun h ↦ ?_,
            fun hn ↦ .inl (hw'.2 hn)⟩
          obtain ⟨⟨e, he⟩, -⟩ := h
          cases he
      | error e =>
          refine ⟨fun hh ↦ (hw'.1 hh).imp (fun h ↦ ?_) fun h ↦ ⟨⟨e, rfl⟩, h.2⟩,
            fun hn ↦ .inl (hw'.2 hn)⟩
          obtain ⟨⟨a, ha⟩, -⟩ := h
          cases ha
  | @chargeCash txn hrow htype hstatus amount ha =>
      change (Checkout.chargeCash D.runtime D.settings txn.id amount).wp _ _ _ _
      unfold Checkout.chargeCash Checkout.loadForPayment
      simp only [wp_bind, App.wp_getTransaction, hrow, htype, hstatus, ne_eq, not_true_eq_false,
        if_false, Prog.pure_eq, wp_pure, not_lt.mpr ha, App.wp_saveTransaction]
      refine ⟨trivial, ?_⟩
      exact wp_mono (fun _ _ w' hw' ↦ ⟨hw'.1, fun hn ↦ .inr (.inl (hw'.2 hn))⟩)
        (left_sendToSentry outcome log (row_saved hrow) rfl .cash)
  | @finalizeCardCharge txn hrow status hs ha dirty =>
      change (Checkout.finalizeCardCharge D.runtime D.settings txn dirty status).wp _ _ _ _
      unfold Checkout.finalizeCardCharge
      cases hresult : status.result with
      | none => simp [WindcaveStatusResponse.approved, hresult] at ha
      | some result =>
          simp only [hs, ha, Bool.false_eq_true, Bool.not_true, if_false, wp_bind,
            App.wp_saveTransaction]
          refine ⟨trivial, ?_⟩
          have hleft := left_sendToSentry (D := D) outcome log
            (row_saved (u := (dirty.andThen (Checkout.replied status.rawXml)).andThen
              (Checkout.cardTaken txn.totalCents result)) hrow) rfl .card
          rw [App.id_touch_set] at hleft
          exact wp_mono (fun _ _ w' hw' ↦ ⟨hw'.1, fun hn ↦ .inr (.inl (hw'.2 hn))⟩) hleft
  | @chargeCashRefund refund original hrow htype hstatus hm horig =>
      change (Refund.chargeCashRefund D.runtime D.settings refund.id).wp _ _ _ _
      unfold Refund.chargeCashRefund Refund.loadRefundForPayment
      simp only [wp_bind, App.wp_getTransaction, hrow, htype, hstatus, hm, ne_eq,
        not_true_eq_false, if_false, Prog.pure_eq, wp_pure, App.wp_saveTransaction]
      obtain ⟨original', ho⟩ := original_updated
        (u := Refund.cashRefunded refund.totalCents) rfl horig
      refine ⟨trivial, ?_⟩
      exact wp_mono (fun _ _ w' hw' ↦ ⟨hw'.1, fun hn ↦ .inr (.inr (hw'.2 hn))⟩)
        (left_sendRefundToSentry (row_saved hrow) rfl ho)
  | @finalizeRefundCharge refund original hrow horig status hs ha =>
      change (Refund.finalizeRefundCharge D.runtime D.settings refund status).wp _ _ _ _
      unfold Refund.finalizeRefundCharge
      cases hresult : status.result with
      | none => simp [WindcaveStatusResponse.approved, hresult] at ha
      | some result =>
          simp only [hs, ha, Bool.false_eq_true, Bool.not_true, if_false, wp_bind,
            App.wp_saveTransaction]
          obtain ⟨original', ho⟩ := original_updated (u := (Checkout.replied status.rawXml).andThen
            (Refund.cardRefunded refund.totalCents result)) rfl horig
          refine ⟨trivial, ?_⟩
          exact wp_mono (fun _ _ w' hw' ↦ ⟨hw'.1, fun hn ↦ .inr (.inr (hw'.2 hn))⟩)
            (left_sendRefundToSentry (row_saved hrow) rfl ho)

end Callers

/-- **Transient statuses are left exactly when Sentry's answer is heeded**, by each of the five
handlers, whatever the tries of the request end in. -/
theorem transient_left_iff (D : Deployment) {w : World} {c : Caller} (h : c.Accepted D w)
    (outcome log : Attempts) :
    ∃ w' r, (c.prog D).exec World.send (answers outcome log) w = (w', some r) ∧
      (c.Leaves r (w'.status (c.txnId w)) ↔ c.Heeded D.runtime outcome) ∧
      (¬ Transient (w'.status (c.txnId w)) ↔ c.Heeded D.runtime outcome) := by
  obtain ⟨r, hr, hheeded, hunheeded⟩ := (wp_alone ..).mp (h.left outcome log)
  refine ⟨_, r, Prod.ext rfl hr, ⟨fun hl ↦ ?_, hheeded⟩, ⟨fun hn ↦ ?_, fun hh ↦ ?_⟩⟩
  · by_contra hn
    exact hl.not_transient (hunheeded hn)
  · by_contra hnot
    exact hn (hunheeded hnot)
  · exact (hheeded hh).not_transient

/-! ## A cash sale that Sentry answers without JSON -/

/-- Sentry accepts the order of the sample sale. -/
theorem transient_left_iff_accepted :
    ∃ w' r, (Checkout.chargeCash .sample Deployment.sample.settings 0 2000).exec World.send
        (answers (.ok (.order "SO-1")) (.ok .null)) (.sample (.sample .awaitingPayment)) =
          (w', some r) ∧
        (w'.status 0 = some .complete ∨ w'.status 0 = some .inventoryUpdateFailed) := by
  have haccepted : Caller.Accepted .sample (.sample (.sample .awaitingPayment))
      (.chargeCash 0 2000) := by
    let txn : POSTransaction := .sample .awaitingPayment
    have hrow : (World.sample txn).db.transaction txn.id = some txn := rfl
    have hamount : txn.totalCents ≤ 2000 := by decide
    exact .chargeCash hrow rfl rfl hamount
  obtain ⟨w', r, hexec, hleaves, -⟩ := transient_left_iff Deployment.sample haccepted
    (.ok (.order "SO-1")) (.ok .null)
  exact ⟨w', r, hexec, hleaves.mpr fun n _ _ _ ↦ ⟨200, _, rfl, _, rfl, by decide⟩⟩

/-- Sentry accepts the order and answers 200, but the body is not JSON: the cash is taken, and
the sale stays in `PAYMENT_SUCCESS`, where no handler picks it up. -/
theorem sale_stays_paymentSuccess :
    ∃ w' r, (Checkout.chargeCash .sample Deployment.sample.settings 0 2000).exec World.send
        (answers (fun _ ↦ .response 200 none) (.ok .null)) (.sample (.sample .awaitingPayment)) =
          (w', some r) ∧ Transient (w'.status 0) := by
  refine ⟨_, _, rfl, .inr (.inl rfl)⟩

end HightowerPos.Settled
