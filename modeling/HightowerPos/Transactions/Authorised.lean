import HightowerPos.Transactions.Tenders
import HightowerPos.Clients.WindcaveReply

/-!
# The amount that Windcave has authorised

A finalization takes the amount of the tender from the reply, and the total where the reply
has none or zero.  It never compares the two: a reply that approves another amount completes
the transaction as one that approves the total does.
-/

namespace HightowerPos

open Async

/-- The three finalizations of a reply: of a charge at once or polled, and of a refund. -/
inductive Finalization (D : Deployment) (t : POSTransaction) (st : WindcaveStatusResponse) :
    App Unit → Prop
  | charge (ht : t.txnType = .sale) : Finalization D t st
      (Checkout.finalizeCardCharge D.runtime D.settings t (Checkout.charged st.rawXml) st)
  | polled (ht : t.txnType = .sale) : Finalization D t st
      (Checkout.finalizeCardCharge D.runtime D.settings t .id st)
  | refund (ht : t.txnType = .refund) : Finalization D t st
      (Refund.finalizeRefundCharge D.runtime D.settings t st)

/-! ## What a finalization leaves -/

/-- The row `x` is paid with one tender. -/
def PaidWith (x : Id) (tender : Tender) (total : Cents) (w : World) : Prop :=
  ∃ t, w.db.transaction x = some t ∧ t.status ∈ Status.tendered ∧ t.tenders = some [tender] ∧
    t.totalCents = total

/-- The row `x` is not paid. -/
def Unpaid (x : Id) (w : World) : Prop :=
  ∀ t, w.db.transaction x = some t → t.status ∉ Status.tendered

variable {D : Deployment} {w : World} {t t₀ : POSTransaction} {st : WindcaveStatusResponse}
  {result : WindcaveResult} {x y : Id} {tender : Tender} {total : Cents} {u : TransactionUpdate}

/-- An update that pays. -/
theorem PaidWith.of_update (hrow : w.db.transaction x = some t₀)
    (hs : (u.set t₀).status ∈ Status.tendered) (htender : (u.set t₀).tenders = some [tender])
    (htotal : (u.set t₀).totalCents = total) :
    PaidWith x tender total (w.updateTransaction x u) := by
  refine ⟨(u.touch w.now).set t₀, ?_, hs, htender, htotal⟩
  rw [(w.updated_updateTransaction x u).row, hrow, Option.map_some]

/-- What is paid stays so. -/
theorem PaidWith.update (h : PaidWith x tender total w)
    (hu : ∀ t, t.status ∈ Status.tendered → (u.set t).status ∈ Status.tendered ∧
      (u.set t).tenders = t.tenders ∧ (u.set t).totalCents = t.totalCents) :
    PaidWith x tender total (w.updateTransaction y u) := by
  obtain ⟨t, hrow, hs, htender, htotal⟩ := h
  obtain ⟨t', hrow', rfl | rfl⟩ := (w.updated_updateTransaction y u).row_of hrow
  · exact ⟨t', hrow', hs, htender, htotal⟩
  · obtain ⟨hs', htender', htotal'⟩ := hu t hs
    exact ⟨_, hrow', hs', htender'.trans htender, htotal'.trans htotal⟩

theorem PaidWith.commitTally (h : PaidWith x tender total w) (a : Option Till.Attribution) :
    PaidWith x tender total (Till.commitTally a w) := by
  obtain ⟨t, hrow, ht⟩ := h
  refine ⟨t, ?_, ht⟩
  unfold Db.transaction at hrow ⊢
  rw [(Till.commitTally_rows a w).1, hrow]

theorem PaidWith.addOutboxEntry (h : PaidWith x tender total w)
    (d : Draft FabricOutboxEntry FabricOutboxEntry.id) :
    PaidWith x tender total (w.addOutboxEntry d) := h

/-- What Sentry has refused is paid. -/
theorem refused_tendered : Status.inventoryUpdateFailed ∈ Status.tendered ∧
    Status.refundInventoryUpdateFailed ∈ Status.tendered := by decide

section Sending

variable {answers : (q : Call) → Option (Answer q)}

/-- A paid sale stays paid, whatever Sentry answers. -/
theorem paidWith_finishSend (h : PaidWith x tender total w) (request : CheckoutRequest)
    (outcome : Attempts) :
    (Checkout.finishSend D.runtime D.settings t request outcome).wp
      (.leaving World.send answers (PaidWith x tender total))
      (fun _ _ w ↦ PaidWith x tender total w) () w := by
  unfold Checkout.finishSend
  cases Sentry.createPosSo D.runtime outcome with
  | ok result =>
      simp only [wp_bind, Till.wp_attributeTransaction, FabricOutbox.wp_enqueue, App.wp_commit]
      refine ⟨trivial, ((h.update fun t hs ↦ ?_).commitTally _).addOutboxEntry _⟩
      generalize Option.map _ _ = a
      cases a <;> exact ⟨List.mem_cons_self, rfl, rfl⟩
  | error e =>
      cases e with
      | sentryClient exc =>
          rw [wp_bind]
          refine App.wp_bindText (fun text _ ↦ ?_) fun _ ↦ h
          simp only [wp_bind, FabricOutbox.wp_enqueue, App.wp_commit]
          have hpaid : PaidWith x tender total
              (w.updateTransaction t.id (Checkout.inventoryUpdateFailed text)) :=
            h.update fun t hs ↦ ⟨refused_tendered.1, rfl, rfl⟩
          exact ⟨trivial, fun _ _ ↦ hpaid, fun _ ↦ hpaid⟩
      | _ => exact h

theorem paidWith_sendToSentry (h : PaidWith x tender total w) (method : PaymentMethod) :
    (Checkout.sendToSentry D.runtime D.settings t method).wp
      (.leaving World.send answers (PaidWith x tender total))
      (fun _ _ w ↦ PaidWith x tender total w) () w := by
  unfold Checkout.sendToSentry
  simp only [wp_bind, wp_read]
  exact ⟨fun outcome _ ↦ paidWith_finishSend h _ outcome, fun _ ↦ h⟩

/-- The same for a refund. -/
theorem paidWith_finishSend_refund (h : PaidWith x tender total w) (original : POSTransaction)
    (request : RefundRequest) (outcome : Attempts) :
    (Refund.finishSend D.runtime D.settings t original request outcome).wp
      (.leaving World.send answers (PaidWith x tender total))
      (fun _ _ w ↦ PaidWith x tender total w) () w := by
  unfold Refund.finishSend
  cases Sentry.createPosRefund D.runtime outcome with
  | ok result =>
      simp only [wp_bind, Till.wp_attributeTransaction, FabricOutbox.wp_enqueue, App.wp_commit]
      have hlinked : ∀ r, ∀ t : POSTransaction, t.status ∈ Status.tendered →
          ((Refund.linked r).set t).status ∈ Status.tendered ∧
            ((Refund.linked r).set t).tenders = t.tenders ∧
            ((Refund.linked r).set t).totalCents = t.totalCents := fun _ _ hs ↦ ⟨hs, rfl, rfl⟩
      refine ⟨trivial, (((h.update fun t hs ↦ ?_).update
        (hlinked _)).commitTally _).addOutboxEntry _⟩
      generalize Option.map _ _ = a
      cases a <;> exact ⟨List.mem_cons_self, rfl, rfl⟩
  | error e =>
      cases e with
      | sentryClient exc =>
          rw [wp_bind]
          refine App.wp_bindText (fun text _ ↦ ?_) fun _ ↦ h
          simp only [wp_bind, FabricOutbox.wp_enqueue, App.wp_commit]
          have hpaid : PaidWith x tender total
              (w.updateTransaction t.id (Refund.inventoryUpdateFailed text)) :=
            h.update fun t hs ↦ ⟨refused_tendered.2, rfl, rfl⟩
          exact ⟨trivial, fun _ _ ↦ hpaid, fun _ ↦ hpaid⟩
      | _ => exact h

theorem paidWith_sendRefundToSentry (h : PaidWith x tender total w) :
    (Refund.sendRefundToSentry D.runtime D.settings t).wp
      (.leaving World.send answers (PaidWith x tender total))
      (fun _ _ w ↦ PaidWith x tender total w) () w := by
  unfold Refund.sendRefundToSentry
  simp only [wp_bind, wp_read]
  cases t.parentTransactionId.bind w.db.transaction with
  | none => exact h
  | some original =>
      rw [wp_bind]
      exact ⟨fun outcome _ ↦ paidWith_finishSend_refund h original _ outcome, fun _ ↦ h⟩

end Sending

/-! ## The finalizations -/

/-- A reply that pays is approved, and needs no signature. -/
theorem pays_iff : (∃ result, st.Pays result) ↔
    st.approved = true ∧ st.signatureRequired = false := by
  refine ⟨fun ⟨result, h⟩ ↦ ⟨h.approved, h.unsigned⟩, fun ⟨ha, hs⟩ ↦ ?_⟩
  have hresult := ha
  unfold WindcaveStatusResponse.approved at hresult
  rw [Bool.and_eq_true] at hresult
  obtain ⟨result, hr, -⟩ := (Option.any_eq_true _ _).mp hresult.2
  exact ⟨result, ha, hs, hr⟩

section Finalizing

variable {answers : (q : Call) → Option (Answer q)} {p : App Unit}

theorem paidWith_finalizeCardCharge (hst : st.Pays result) {dirty : TransactionUpdate}
    (hrow : w.db.transaction t.id = some t₀)
    (htotal : (dirty.set t₀).totalCents = t.totalCents) :
    PaidWith t.id (Checkout.cardTender t.totalCents result) t.totalCents
      ((Checkout.finalizeCardCharge D.runtime D.settings t dirty st).exec World.send
        answers w).1 := by
  refine wp_leaving ?_
  unfold Checkout.finalizeCardCharge
  simp only [hst.unsigned, hst.approved, hst.result, Bool.not_true, Bool.false_eq_true, if_false,
    wp_bind, App.wp_saveTransaction]
  have hpaid : Status.paymentSuccess ∈ Status.tendered := by decide
  have hwrite : PaidWith t.id (Checkout.cardTender t.totalCents result) t.totalCents
      (w.updateTransaction t.id ((dirty.andThen (Checkout.replied st.rawXml)).andThen
        (Checkout.cardTaken t.totalCents result))) := .of_update hrow hpaid rfl htotal
  exact ⟨trivial, paidWith_sendToSentry hwrite _⟩

theorem paidWith_finalizeRefundCharge (hst : st.Pays result)
    (hrow : w.db.transaction t.id = some t₀) (htotal : t₀.totalCents = t.totalCents) :
    PaidWith t.id (Refund.cardTender t.totalCents result) t.totalCents
      ((Refund.finalizeRefundCharge D.runtime D.settings t st).exec World.send answers w).1 := by
  refine wp_leaving ?_
  unfold Refund.finalizeRefundCharge
  simp only [hst.unsigned, hst.approved, hst.result, Bool.not_true, Bool.false_eq_true, if_false,
    wp_bind, App.wp_saveTransaction]
  have hpaid : Status.refundPaymentSuccess ∈ Status.tendered := by decide
  have hwrite : PaidWith t.id (Refund.cardTender t.totalCents result) t.totalCents
      (w.updateTransaction t.id ((Checkout.replied st.rawXml).andThen
        (Refund.cardRefunded t.totalCents result))) := .of_update hrow hpaid rfl htotal
  exact ⟨trivial, paidWith_sendRefundToSentry hwrite⟩

/-- **A reply that pays is taken for the payment**, with the tender that is made of it. -/
theorem Finalization.paidWith (hp : Finalization D t st p) (hst : st.Pays result)
    (hrow : w.db.transaction t.id = some t₀) (htotal : t₀.totalCents = t.totalCents) :
    PaidWith t.id (.ofCard t.totalCents result t.txnType) t.totalCents
      (p.exec World.send answers w).1 := by
  cases hp with
  | charge ht | polled ht =>
      rw [ht]
      exact paidWith_finalizeCardCharge hst hrow htotal
  | refund ht =>
      rw [ht]
      exact paidWith_finalizeRefundCharge hst hrow htotal

/-- An update to a status that is not paid. -/
theorem Unpaid.of_update (s : Status) (hu : ∀ t, (u.set t).status = s)
    (hs : s ∉ Status.tendered := by decide) : Unpaid x (w.updateTransaction x u) := by
  intro t hrow
  rw [(w.updated_updateTransaction x u).row] at hrow
  obtain ⟨t', -, rfl⟩ := Option.map_eq_some_iff.mp hrow
  rw [show ((u.touch w.now).set t').status = s from hu t']
  exact hs

/-- **Any other reply fails the payment.** -/
theorem Finalization.unpaid (hp : Finalization D t st p) (hno : ¬ ∃ result, st.Pays result) :
    Unpaid t.id (p.exec World.send answers w).1 := by
  refine wp_leaving ?_
  rw [pays_iff, not_and] at hno
  by_cases hs : st.signatureRequired = true
  · cases hp <;> simp only [Checkout.finalizeCardCharge, Refund.finalizeRefundCharge, hs, if_true,
      wp_bind, App.wp_saveTransaction]
    · exact ⟨trivial, .of_update .paymentFailed fun _ ↦ rfl⟩
    · exact ⟨trivial, .of_update .paymentFailed fun _ ↦ rfl⟩
    · exact ⟨trivial, .of_update .refundPaymentFailed fun _ ↦ rfl⟩
  · have ha : st.approved = false := by
      by_contra h
      exact hno (Bool.eq_true_of_not_eq_false h) (Bool.eq_false_of_not_eq_true hs)
    cases hp <;> simp only [Checkout.finalizeCardCharge, Refund.finalizeRefundCharge, hs, ha,
      Bool.not_false, if_true]
    · exact ⟨trivial, .of_update .paymentFailed fun _ ↦ rfl⟩
    · exact ⟨trivial, .of_update .paymentFailed fun _ ↦ rfl⟩
    · exact ⟨trivial, .of_update .refundPaymentFailed fun _ ↦ rfl⟩

end Finalizing

/-! ## The amount -/

/-- A transaction that is paid has tenders of its total, and Windcave has approved no other
amount. -/
def PaidInFull (st : WindcaveStatusResponse) (x : Id) (w : World) : Prop :=
  ∀ t, w.db.transaction x = some t → t.status ∈ Status.tendered →
    ((t.tenders.getD []).map (·.amountCents)).sum = t.totalCents ∧
    ∀ result amount, st.result = some result → result.amountCents = some amount →
      (amount : Cents) = t.totalCents.natAbs

/-- If it pays, the reply has no amount or the one that was asked for, and a refund does not
come to more than nothing. -/
def AsAsked (st : WindcaveStatusResponse) (t : POSTransaction) : Prop :=
  ∀ result, st.Pays result → match t.txnType with
    | .sale => ∀ amount, result.amountCents = some amount → (amount : Cents) = t.totalCents
    | .refund => t.totalCents ≤ 0 ∧
        ∀ amount, result.amountCents = some amount → -(amount : Cents) = t.totalCents

/-- The tender of a sale. -/
theorem amount_sale_iff {total : Cents} {result : WindcaveResult} :
    ((Checkout.cardTender total result).amountCents = total ∧
      ∀ amount, result.amountCents = some amount → (amount : Cents) = total.natAbs) ↔
    ∀ amount, result.amountCents = some amount → (amount : Cents) = total := by
  unfold Checkout.cardTender
  cases result.amountCents with
  | none => simp
  | some amount =>
      cases amount with
      | zero => simp; grind
      | succ n => simp; grind

theorem amount_refund_iff {total : Cents} {result : WindcaveResult} :
    ((Refund.cardTender total result).amountCents = total ∧
      ∀ amount, result.amountCents = some amount → (amount : Cents) = total.natAbs) ↔
    total ≤ 0 ∧ ∀ amount, result.amountCents = some amount → -(amount : Cents) = total := by
  unfold Refund.cardTender
  cases result.amountCents with
  | none => simp; grind
  | some amount =>
      cases amount with
      | zero => simp; grind
      | succ n => simp; grind

/-- **Whether a card payment is in full**: exactly when the reply is for what was asked. -/
theorem paid_in_full_iff (D : Deployment) {t t₀ : POSTransaction} {st : WindcaveStatusResponse}
    {p : App Unit} (hp : Finalization D t st p) {w : World}
    (hrow : w.db.transaction t.id = some t₀) (htotal : t₀.totalCents = t.totalCents)
    (answers : (q : Call) → Option (Answer q)) :
    PaidInFull st t.id (p.exec World.send answers w).1 ↔ AsAsked st t := by
  by_cases hpays : ∃ result, st.Pays result
  · obtain ⟨result, hst⟩ := hpays
    obtain ⟨t', hrow', hs', htender', htotal'⟩ : PaidWith t.id
        (.ofCard t.totalCents result t.txnType) t.totalCents (p.exec World.send answers w).1 :=
      hp.paidWith hst hrow htotal
    have hfull : PaidInFull st t.id (p.exec World.send answers w).1 ↔
        (Tender.ofCard t.totalCents result t.txnType).amountCents = t.totalCents ∧
          ∀ amount, result.amountCents = some amount →
            (amount : Cents) = t.totalCents.natAbs := by
      refine ⟨fun h ↦ ?_, fun h t₁ h₁ hs₁ ↦ ?_⟩
      · obtain ⟨hsum, hamount⟩ := h t' hrow' hs'
        rw [htender', htotal'] at hsum
        exact ⟨by simpa using hsum, fun amount ha ↦ htotal' ▸ hamount result amount hst.result ha⟩
      · obtain rfl := Option.some.inj (hrow'.symm.trans h₁)
        rw [htender', htotal']
        refine ⟨by simpa using h.1, fun result' amount hr ha ↦ ?_⟩
        obtain rfl := Option.some.inj (hst.result.symm.trans hr)
        exact h.2 amount ha
    have hasked : AsAsked st t ↔ match t.txnType with
        | .sale => ∀ amount, result.amountCents = some amount → (amount : Cents) = t.totalCents
        | .refund => t.totalCents ≤ 0 ∧
            ∀ amount, result.amountCents = some amount → -(amount : Cents) = t.totalCents := by
      refine ⟨fun h ↦ h result hst, fun h result' hst' ↦ ?_⟩
      obtain rfl := Option.some.inj (hst.result.symm.trans hst'.result)
      exact h
    rw [hfull, hasked]
    cases t.txnType with
    | sale => exact amount_sale_iff
    | refund => exact amount_refund_iff
  · have hunpaid : Unpaid t.id (p.exec World.send answers w).1 := hp.unpaid hpays
    exact ⟨fun _ result hst ↦ absurd ⟨result, hst⟩ hpays,
      fun _ t' hrow' hs' ↦ absurd hs' (hunpaid t' hrow')⟩

/-- A reply that approves `amountCents`. -/
def WindcaveStatusResponse.approving (amountCents : Nat) : WindcaveStatusResponse where
  complete := true
  result := some { approved := true, amountCents := some amountCents }

theorem paid_in_full_iff_exact : PaidInFull (.approving 1081) 0
    ((Checkout.finalizeCardCharge Deployment.sample.runtime Deployment.sample.settings
      (.sample .paymentInFlight) .id (.approving 1081)).exec World.send Drawer.obliging
      (.sample (.sample .paymentInFlight))).1 := by
  refine (paid_in_full_iff Deployment.sample (t := .sample .paymentInFlight) (.polled rfl)
    (w := .sample (.sample .paymentInFlight)) rfl rfl Drawer.obliging).mpr fun result hst ↦ ?_
  obtain rfl := Option.some.inj hst.result
  intro amount ha
  obtain rfl := Option.some.inj ha
  rfl

/-! ## Five dollars for a mug -/

/-- A reply that approves 5.00. -/
def partialReply : Windcave.Element :=
  .mk "Scr" [] none [
    .mk "TxnRef" [] (some "0") [],
    .mk "Complete" [] (some "1") [],
    .mk "Result" [] none [
      .mk "AP" [] (some "1") [],
      .mk "AmtA" [] (some "500") [],
      .mk "TR" [] (some "0000000100e1a6f9") []]]

/-- Windcave sends it. -/
def approvingFive : (q : Call) → Option (Answer q)
  | .windcaveCharge _ _ => some (Windcave.parseRoot "" partialReply)
  | q => Drawer.obliging q

/-- A mug of 10.81 is sold on card, and 5.00 is approved. -/
def soldForFive : List (Move World Call Answer Request) :=
  [.start (.startCheckout [Drawer.mug] "alice" none), .resume 0 Drawer.obliging,
    .start (.chargeCard 0), .resume 0 approvingFive, .resume 0 approvingFive]

/-- **The sale is `COMPLETE`** all the same. -/
theorem partial_approval_completes : ∃ (st : WindcaveStatusResponse)
    (c : Config World Call Answer PyExc), Windcave.parseRoot "" partialReply = .ok st ∧
    Deployment.sample.SerialRun (.idle Drawer.newRegister) c ∧
    (c.state.db.transaction 0).map (fun t ↦ (t.status, t.totalCents, t.windcaveTxnRef,
      (t.tenders.getD []).map (·.amountCents))) =
        some (.complete, 1081, some "0000000100e1a6f9", [500]) ∧
    ¬ PaidInFull st 0 c.state := by
  have hrow : (((Config.idle Drawer.newRegister).playAll (Deployment.sample.system .any)
      soldForFive).state.db.transaction 0).map (fun t ↦ (t.status, t.totalCents,
        t.windcaveTxnRef, (t.tenders.getD []).map (·.amountCents))) =
      some (.complete, 1081, some "0000000100e1a6f9", [500]) := by decide +kernel
  have hplays : Deployment.sample.playsAll (.idle Drawer.newRegister) soldForFive = true := by
    decide +kernel
  refine ⟨_, _, rfl, Deployment.sample.run_of_playsAll hplays, hrow, fun h ↦ ?_⟩
  obtain ⟨t, ht, hvalues⟩ := Option.map_eq_some_iff.mp hrow
  obtain ⟨hs, hrest⟩ := Prod.mk.inj hvalues
  obtain ⟨htotal, hrest⟩ := Prod.mk.inj hrest
  obtain ⟨-, hamounts⟩ := Prod.mk.inj hrest
  have hsum := (h t ht (by rw [hs]; decide)).1
  rw [hamounts, htotal] at hsum
  exact absurd hsum (by decide)

end HightowerPos
