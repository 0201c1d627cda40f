import HightowerPos.Services.Checkout

/-!
# Refunds

`services/refund.py`, and the route that leaves a poller behind.  The columns a commit
assigns are named as for sales; the poll loop is the one of sales, which the source
repeats.
-/

namespace HightowerPos.Refund

open Async

/-- `REFUND_BLOCKING_STATES`. -/
def refundBlockingStates : List Status :=
  [.refundPending, .refundPaymentInFlight, .refundPaymentSuccess,
    .refundInventoryUpdateFailed, .complete]

/-! ## What is assigned -/

/-- The refund is under way. -/
def inFlight : TransactionUpdate where
  set t := { t with status := .refundPaymentInFlight }

/-- The refund failed at the terminal. -/
def paymentFailed (error : String) : TransactionUpdate where
  set t := { t with status := .refundPaymentFailed, lastError := some error }

/-- The card tender of a refund. -/
def cardTender (totalCents : Cents) (result : WindcaveResult) : Tender where
  type := .card
  amountCents := match result.amountCents with
    | some (n + 1) => -(n + 1)
    | _ => -(totalCents.natAbs : Int)
  cardBrand := result.cardBrand
  cardLast4 := result.cardLast4
  authCode := result.authCode
  externalRef := result.dpsTxnRef

/-- The card was refunded. -/
def cardRefunded (totalCents : Cents) (result : WindcaveResult) : TransactionUpdate where
  set t :=
    { t with
      status := .refundPaymentSuccess
      windcaveTxnRef := result.dpsTxnRef
      tenders := some [cardTender totalCents result] }

/-- The cash tender of a refund. -/
def cashTender (totalCents : Cents) : Tender where
  type := .cash
  amountCents := totalCents

/-- Cash was handed back. -/
def cashRefunded (totalCents : Cents) : TransactionUpdate where
  set t :=
    { t with status := .refundPaymentSuccess, tenders := some [cashTender totalCents] }

/-- Sentry refused the refund. -/
def inventoryUpdateFailed (error : String) : TransactionUpdate where
  set t := { t with status := .refundInventoryUpdateFailed, lastError := some error }

/-- Sentry has the refund. -/
def complete (refundSoId : String) : TransactionUpdate := Checkout.complete refundSoId

/-- The sale is linked to its refund. -/
def linked (refundId : Id) : TransactionUpdate where
  set t := { t with refundTransactionId := some refundId }

/-! ## Starting a refund -/

/-- `_existing_blocking_refund`. -/
def existingBlockingRefund (originalTransactionId : Id) : App (Option POSTransaction) := do
  let w ← Prog.read
  return w.db.posTransactions.first? fun t ↦
    t.parentTransactionId = some originalTransactionId ∧ t.status ∈ refundBlockingStates

/-- Microseconds of a day. -/
def day : Time := 24 * 60 * 60 * 1000000

/-- The gates of `lookup_refund`; it returns the sale it shows. -/
def lookupRefund (settings : Settings) (originalTransactionId : Id) : App POSTransaction := do
  match ← App.getTransaction originalTransactionId with
  | none => .raise (.checkout .transactionNotFound)
  | some original =>
      if original.txnType ≠ .sale then
        .raise (.checkout (.notACompletedSale original.status))
      else if original.status ≠ .complete then
        .raise (.checkout (.notACompletedSale original.status))
      else
        let w ← Prog.read
        let daysSince := (w.now - original.createdAt) / day
        if settings.refundWindowDays < daysSince then
          .raise (.checkout (.refundWindowExpired daysSince))
        else
          match ← existingBlockingRefund original.id with
          | some blocker => .raise (.checkout (.alreadyRefunded blocker.id))
          | none => return original

/-- The gates of a refund: a completed sale without a blocking refund, or a refusal. -/
theorem wp_lookupRefund {γ : Type} {C : Calculus World Call Answer γ} {g : γ} {s : Id}
    {settings : Settings} {w : World} {post : γ → Except PyExc POSTransaction → World → Prop}
    (hok : ∀ original, w.db.transaction s = some original → original.txnType = .sale →
      original.status = .complete →
      (∀ r t, w.db.transaction r = some t → t.parentTransactionId = some s →
        t.status ∉ refundBlockingStates) → post g (.ok original) w)
    (herr : ∀ e, post g (.error (.checkout e)) w) :
    (lookupRefund settings s).wp C post g w := by
  unfold lookupRefund existingBlockingRefund
  simp only [wp_bind, App.wp_getTransaction]
  cases hrow : w.db.transaction s with
  | none => exact herr _
  | some original =>
      obtain rfl : original.id = s := Table.key_of_get? hrow
      by_cases htype : original.txnType = .sale
      · by_cases hstatus : original.status = .complete
        · simp only [htype, hstatus, ne_eq, not_true_eq_false, if_false, wp_bind, wp_read]
          split
          · exact herr _
          · simp only [wp_bind, wp_read, Prog.pure_eq, wp_pure]
            split
            · exact herr _
            · next hfree =>
                refine hok original hrow htype hstatus fun r t ht hparent hblocking ↦ ?_
                have := List.find?_eq_none.mp hfree t (Table.mem_of_get? ht)
                simp [hparent, hblocking] at this
        · simp only [htype, hstatus, ne_eq, not_true_eq_false, not_false_eq_true, if_false,
            if_true]
          exact herr _
      · simp only [htype, ne_eq, not_false_eq_true, if_true]
        exact herr _

/-- A line of the refund's cart. -/
def refundLine (line : RichLine) : RichLine :=
  { line with
    quantity := -line.quantity
    taxCents := -line.taxCents
    lineTotalCents := -line.lineTotalCents }

/-- The row that `start_refund` stores. -/
def newRefund (original : POSTransaction) (cashierId : String) (now : Time) :
    Draft POSTransaction POSTransaction.id where
  build id :=
    { id := id
      status := .refundPending
      txnType := .refund
      parentTransactionId := some original.id
      cart := original.cart.map refundLine
      subtotalCents := -original.subtotalCents
      taxCents := -original.taxCents
      totalCents := -original.totalCents
      paymentMethod := original.paymentMethod
      cashierId := cashierId
      terminalId := original.terminalId
      createdAt := now.timestamp
      updatedAt := now.timestamp }

/-- `start_refund`. -/
def startRefund (settings : Settings) (originalTransactionId : Id) (cashierId : String) :
    App POSTransaction := do
  -- the session keeps the row that the lookup loaded
  let original ← lookupRefund settings originalTransactionId
  Checkout.storeTransaction fun now ↦ newRefund original cashierId now

/-! ## Sending the refund -/

/-- `_build_refund_request`. -/
def buildRefundRequest (refund original : POSTransaction) (now : Time) : RefundRequest where
  idempotencyKey := refund.id
  originalSoId := original.sentrySoId.getD ""
  originalExternalTxnRef := original.windcaveTxnRef
  externalRefundRef := refund.windcaveTxnRef
  cashierId := refund.cashierId
  terminalId := refund.terminalId
  completedAt := now
  refundSummary :=
    { method := refund.paymentMethod.getD .cash
      subtotalCents := refund.subtotalCents
      taxCents := refund.taxCents
      totalCents := refund.totalCents
      tenders := refund.tenders.getD [] }

/-- What a refund that Sentry has accepted is assigned, with the stamp of its
session. -/
def completion (refundSoId : String) : Option Till.Attribution → TransactionUpdate
  | none => complete refundSoId
  | some a => (complete refundSoId).andThen a.stamp

/-- The last commit of a refund that Sentry has accepted. -/
def commitComplete (refund original : POSTransaction) (refundSoId : String)
    (attribution : Option Till.Attribution)
    (entry : Draft FabricOutboxEntry FabricOutboxEntry.id) (w : World) : World :=
  let w := w.updateTransaction refund.id (completion refundSoId attribution)
  let w := w.updateTransaction original.id (linked refund.id)
  (Till.commitTally attribution w).addOutboxEntry entry

/-- What Sentry's answer makes of a refund that was paid out. -/
def finishSend (rt : Runtime) (settings : Settings) (refund original : POSTransaction)
    (request : RefundRequest) (outcome : Attempts) : App Unit := do
  match Sentry.createPosRefund rt outcome with
  | .error (.sentryClient exc) =>
      let error ← App.bindText (Checkout.errorText exc)
      let entry ← FabricOutbox.enqueue settings ((inventoryUpdateFailed error).set refund)
      App.commit fun w ↦
        (w.updateTransaction refund.id (inventoryUpdateFailed error)).addOutboxEntry entry
      -- whatever this call raises is logged and dropped
      let _ ← App.call (.sentryLogInboundActivity "refund_failed_post_payment"
        (.refund request) exc.message)
      return ()
  | .error e => .raise e
  | .ok result =>
      let refund := (complete result.refundSoId).set refund
      let attribution ← Till.attributeTransaction refund true
      let entry ← FabricOutbox.enqueue settings refund
      App.commit (commitComplete refund original result.refundSoId attribution entry)

/-- `_send_refund_to_sentry`. -/
def sendRefundToSentry (rt : Runtime) (settings : Settings) (refund : POSTransaction) :
    App Unit := do
  let w ← Prog.read
  match refund.parentTransactionId.bind w.db.transaction with
  | none => .raise .assertion
  | some original =>
      let request := buildRefundRequest refund original w.now
      let outcome ← App.call (.sentryCreatePosRefund request)
      finishSend rt settings refund original request outcome

/-! ## Paying out -/

/-- `_load_refund_for_payment`. -/
def loadRefundForPayment (refundTxnId : Id) : App POSTransaction := do
  match ← App.getTransaction refundTxnId with
  | none => .raise (.checkout .transactionNotFound)
  | some refund =>
      if refund.txnType ≠ .refund then .raise (.checkout .transactionNotFound)
      else if refund.status ≠ .refundPending then
        .raise (.checkout (.invalidState refund.status))
      else return refund

/-- A refund that may be paid out, or a refusal. -/
theorem wp_loadRefundForPayment {γ : Type} {C : Calculus World Call Answer γ} {g : γ}
    {w : World} {r : Id} {post : γ → Except PyExc POSTransaction → World → Prop}
    (hok : ∀ refund, w.db.transaction r = some refund → refund.txnType = .refund →
      refund.status = .refundPending → post g (.ok refund) w)
    (herr : ∀ e, post g (.error (.checkout e)) w) :
    (loadRefundForPayment r).wp C post g w := by
  unfold loadRefundForPayment
  simp only [wp_bind, App.wp_getTransaction]
  cases hrow : w.db.transaction r with
  | none => exact herr _
  | some refund =>
      by_cases htype : refund.txnType = .refund
      · by_cases hstatus : refund.status = .refundPending
        · simpa [htype, hstatus] using hok refund hrow htype hstatus
        · simpa [htype, hstatus] using herr _
      · simpa [htype] using herr _

/-- `charge_cash_refund`. -/
def chargeCashRefund (rt : Runtime) (settings : Settings) (refundTxnId : Id) : App Unit := do
  let refund ← loadRefundForPayment refundTxnId
  if refund.paymentMethod ≠ some .cash then .raise (.checkout (.tenderMismatch .cash))
  else
    let refund ← App.saveTransaction refund (cashRefunded refund.totalCents)
    sendRefundToSentry rt settings refund

/-- `_finalize_refund_charge`. -/
def finalizeRefundCharge (rt : Runtime) (settings : Settings) (refund : POSTransaction)
    (status : WindcaveStatusResponse) : App Unit := do
  let dirty := Checkout.replied status.rawXml
  if status.signatureRequired then
    let _ ← App.saveTransaction refund
      (dirty.andThen (paymentFailed "signature verification required (not supported in v1)"))
    return ()
  else if !status.approved then
    let _ ← App.saveTransaction refund
      (dirty.andThen (paymentFailed (Checkout.declineText status)))
    return ()
  else
    match status.result with
    | none => .raise .assertion
    | some result =>
        let refund ← App.saveTransaction refund
          (dirty.andThen (cardRefunded refund.totalCents result))
        sendRefundToSentry rt settings refund

/-- `charge_card_refund`; it returns whether the refund is still under way. -/
def chargeCardRefund (rt : Runtime) (settings : Settings) (refundTxnId : Id) : App Bool := do
  let refund ← loadRefundForPayment refundTxnId
  if refund.paymentMethod ≠ some .card then .raise (.checkout (.tenderMismatch .card))
  else
    let w ← Prog.read
    match (refund.parentTransactionId.bind w.db.transaction).bind fun original ↦
        Checkout.orNone original.windcaveTxnRef with
    | none => .raise (.checkout .missingOriginalDpsTxnRef)
    | some dpsTxnRef =>
        let initial : Except PyExc WindcaveStatusResponse ←
          App.call (.windcaveRefund refund.totalCents.natAbs dpsTxnRef refund.id)
        match initial with
        | .error (.windcaveClient message) =>
            let _ ← App.saveTransaction refund
              (paymentFailed s!"windcave_unavailable: {message}")
            .raise (.checkout .windcaveUnavailable)
        | .error e => .raise e
        | .ok initial =>
            if initial.complete then
              finalizeRefundCharge rt settings refund initial
              return false
            else
              let _ ← App.saveTransaction refund
                ((Checkout.replied initial.rawXml).andThen inFlight)
              return true

/-! ## Polling -/

/-- The end of `poll_refund_until_complete`. -/
def finishPoll (rt : Runtime) (settings : Settings) (refundTxnId : Id)
    (finalStatus : Option WindcaveStatusResponse) : App Unit := do
  match ← App.getTransaction refundTxnId with
  | none => return ()
  | some refund =>
      if refund.status ≠ .refundPaymentInFlight then return ()
      else
        match finalStatus with
        | none =>
            let _ ← App.saveTransaction refund (paymentFailed "polling_timeout")
            return ()
        | some status => finalizeRefundCharge rt settings refund status

/-- `poll_refund_until_complete`. -/
def pollRefundUntilComplete (rt : Runtime) (settings : Settings) (fuel : Nat)
    (refundTxnId : Id) : App Unit := do
  let finalStatus ← Checkout.pollLoop settings refundTxnId fuel 0
  finishPoll rt settings refundTxnId finalStatus

/-- The route of `charge_card_refund`: a refund that is under way leaves a poller
behind. -/
def chargeCardRefundRoute (rt : Runtime) (settings : Settings) (fuel : Nat)
    (refundTxnId : Id) : App Unit := do
  if ← chargeCardRefund rt settings refundTxnId then
    let _ ← App.call (.respond refundTxnId)
    pollRefundUntilComplete rt settings fuel refundTxnId
  else return ()

/-! ## Cancelling -/

/-- `cancel_refund`. -/
def cancelRefund (refundTxnId : Id) : App Unit := do
  match ← App.getTransaction refundTxnId with
  | none => .raise (.checkout .transactionNotFound)
  | some refund =>
      if refund.txnType ≠ .refund then .raise (.checkout .transactionNotFound)
      else if refund.status ≠ .refundPending ∧ refund.status ≠ .refundPaymentInFlight then
        .raise (.checkout (.invalidState refund.status))
      else
        let _ ← App.saveTransaction refund Checkout.cancelled
        return ()

end HightowerPos.Refund
