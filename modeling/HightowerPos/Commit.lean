import HightowerPos.Service

/-!
# What handlers commit when they do not overlap

In a serial run a handler finds the database as it left it before an await, so that each
of its writes starts from the rows it has loaded.  `Commit` lists the writes, with the
status of the row before them; the cash payments of a sale are apart, in
`CashCommit`, since they are made by `charge_cash` only.  An invariant of serial runs is
then one case for each kind of write.
-/

namespace HightowerPos

open Async

/-! ## Serial runs -/

/-- The calls at which a handler holds nothing it has read: a poller's, and those of the
drain worker. -/
def Quiet : Call → Prop
  | .respond _ | .windcaveStatus _ _ | .pollSleep _ _ | .pollOn _ | .drainSleep _
  | .fabricWriteSalesOrder _ _ => True
  | _ => False

instance : DecidablePred Quiet
  | .respond _ | .windcaveStatus _ _ | .pollSleep _ _ | .pollOn _ | .drainSleep _
  | .fabricWriteSalesOrder _ _ => .isTrue trivial
  | .windcaveCharge _ _ | .windcaveRefund _ _ _ | .windcaveCancel _ | .sentryValidateCart _
  | .sentryCreatePosSo _ | .sentryCreatePosRefund _ | .sentryLogInboundActivity _ _ _
  | .renderCloseReport _ => .isFalse id

/-- What Windcave says of each transaction, and which of them Sentry accepts when they are
sent again. -/
structure Replies where
  windcave : Id → WindcaveStatusResponse → Prop
  resent : Id → Prop

/-- Anything. -/
def Replies.any : Replies := ⟨fun _ _ ↦ True, fun _ ↦ True⟩

/-- An answer is one of the replies. -/
def Replies.Covers (said : Replies) (rt : Runtime) (w : World) : (q : Call) → Answer q → Prop
  | .windcaveCharge _ x, a | .windcaveRefund _ _ x, a | .windcaveStatus x _, a =>
      ∀ st, a = .ok st → said.windcave x st
  | .sentryCreatePosSo request, a =>
      w.status request.idempotencyKey = some .inventoryUpdateFailed →
        (∃ r, Sentry.createPosSo rt a = .ok r) → said.resent request.idempotencyKey
  | .sentryCreatePosRefund request, a =>
      w.status request.idempotencyKey = some .refundInventoryUpdateFailed →
        (∃ r, Sentry.createPosRefund rt a = .ok r) → said.resent request.idempotencyKey
  | _, _ => True

theorem Replies.any_covers (rt : Runtime) (w : World) (q : Call) (a : Answer q) :
    Replies.any.Covers rt w q a := by
  cases q <;> first | exact fun _ _ ↦ trivial | trivial

/-- The orders and refunds that Sentry is sent, each built from its committed row. -/
def World.Sends (w : World) : Call → Prop
  | .sentryCreatePosSo request => ∃ t, w.db.transaction t.id = some t ∧
      (t.status = .paymentSuccess ∨ t.status = .inventoryUpdateFailed) ∧
      request = Checkout.buildCheckoutRequest t (t.paymentMethod.getD .cash) w.now
  | .sentryCreatePosRefund request => ∃ t original, w.db.transaction t.id = some t ∧
      (t.status = .refundPaymentSuccess ∨ t.status = .refundInventoryUpdateFailed) ∧
      t.parentTransactionId.bind w.db.transaction = some original ∧
      request = Refund.buildRefundRequest t original w.now
  | _ => True

/-- What Sentry has accepted is `COMPLETE` when the handler next waits, or ends. -/
def World.Owes (rt : Runtime) : (q : Call) → Answer q → World → Prop
  | .sentryCreatePosSo request, a => fun w ↦
      (∃ r, Sentry.createPosSo rt a = .ok r) → w.status request.idempotencyKey = some .complete
  | .sentryCreatePosRefund request, a => fun w ↦
      (∃ r, Sentry.createPosRefund rt a = .ok r) →
        w.status request.idempotencyKey = some .complete
  | _, _ => fun _ ↦ True

/-- Serial runs of the service: requests that are accepted, and replies of Windcave. -/
def Deployment.serially (D : Deployment) (accepts : World → Request → Prop) (said : Replies) :
    Setting World Call Answer PyExc Request where
  sys := D.system .any
  quiet := Quiet
  accepts := accepts
  ok w q a := said.Covers D.runtime w q a
  asks := World.Sends
  owes := World.Owes D.runtime

/-! ## The writes -/

/-- A reply that a finalization takes for a payment, with what it says. -/
structure WindcaveStatusResponse.Pays (st : WindcaveStatusResponse) (result : WindcaveResult) :
    Prop where
  approved : st.approved = true
  unsigned : st.signatureRequired = false
  result : st.result = some result

/-- What no delivery changes of an entry. -/
def FabricOutboxEntry.order (e : FabricOutboxEntry) : Id × Id × FabricPayload :=
  (e.id, e.posTransactionId, e.payload)

/-- A transaction on its own: its status and the columns that are assigned. -/
inductive Moves (said : Replies) (t : POSTransaction) : TransactionUpdate → Prop
  | validated (hs : t.status = .pendingValidation) : Moves said t Checkout.validated
  | validationFailed (hs : t.status = .pendingValidation) {error : String} :
      Moves said t (Checkout.validationFailed error)
  | cardUnavailable (hs : t.status = .awaitingPayment) {m : String} :
      Moves said t (Checkout.paymentFailed s!"windcave_unavailable: {m}")
  | cardInFlight (hs : t.status = .awaitingPayment) {raw : String} :
      Moves said t ((Checkout.charged raw).andThen Checkout.inFlight)
  | cardFailed (hs : t.status = .awaitingPayment ∨ t.status = .paymentInFlight)
      {v : TransactionUpdate} {raw error : String} (hv : v = Checkout.charged raw ∨ v = .id) :
      Moves said t ((v.andThen (Checkout.replied raw)).andThen (Checkout.paymentFailed error))
  | cardTaken (hs : t.status = .awaitingPayment ∨ t.status = .paymentInFlight)
      {v : TransactionUpdate} {st : WindcaveStatusResponse} {result : WindcaveResult}
      (hsaid : said.windcave t.id st) (hst : st.Pays result)
      (hv : v = Checkout.charged st.rawXml ∨ v = .id) :
      Moves said t ((v.andThen (Checkout.replied st.rawXml)).andThen
        (Checkout.cardTaken t.totalCents result))
  | timedOut (hs : t.status = .paymentInFlight) :
      Moves said t (Checkout.paymentFailed "polling_timeout")
  | cancelled (hs : t.status = .awaitingPayment ∨ t.status = .paymentInFlight) :
      Moves said t Checkout.cancelled
  | refundUnavailable (hs : t.status = .refundPending) {m : String} :
      Moves said t (Refund.paymentFailed s!"windcave_unavailable: {m}")
  | refundInFlight (hs : t.status = .refundPending) (ht : t.txnType = .refund)
      (hm : t.paymentMethod = some .card) {raw : String} :
      Moves said t ((Checkout.replied raw).andThen Refund.inFlight)
  | refundFailed (hs : t.status = .refundPending ∨ t.status = .refundPaymentInFlight)
      {raw error : String} :
      Moves said t ((Checkout.replied raw).andThen (Refund.paymentFailed error))
  | cardRefunded (hs : t.status = .refundPending ∧ t.txnType = .refund ∧
        t.paymentMethod = some .card ∨ t.status = .refundPaymentInFlight)
      {st : WindcaveStatusResponse} {result : WindcaveResult} (hsaid : said.windcave t.id st)
      (hst : st.Pays result) :
      Moves said t ((Checkout.replied st.rawXml).andThen (Refund.cardRefunded t.totalCents result))
  | cashRefunded (hs : t.status = .refundPending) (ht : t.txnType = .refund)
      (hm : t.paymentMethod = some .cash) : Moves said t (Refund.cashRefunded t.totalCents)
  | refundTimedOut (hs : t.status = .refundPaymentInFlight) :
      Moves said t (Refund.paymentFailed "polling_timeout")
  | refundCancelled (hs : t.status = .refundPending ∨ t.status = .refundPaymentInFlight) :
      Moves said t Checkout.cancelled
  | retried (hs : t.status = .inventoryUpdateFailed) (hsaid : said.resent t.id) {soId : String} :
      Moves said t (Reconciliation.retried soId t.retryCount)
  | retryFailed (hs : t.status = .inventoryUpdateFailed ∨
        t.status = .refundInventoryUpdateFailed) {error : String} :
      Moves said t (Reconciliation.retryFailed error t.retryCount)

/-- The stamp that `attribute_transaction` makes of a transaction as it is held. -/
def World.attribution (w : World) (t : POSTransaction) (isRefund : Bool) :
    Option Till.Attribution :=
  (w.db.openSession t.cashierId).map fun s ↦ ⟨s, t, isRefund⟩

/-- The entry that `enqueue` makes of a transaction as it is held. -/
def World.entry (w : World) (settings : Settings) (t : POSTransaction) :
    Draft FabricOutboxEntry FabricOutboxEntry.id :=
  FabricOutbox.newEntry settings t (FabricOutbox.completedAt t w) w.now

/-- Sentry has accepted the paid sale `t`. -/
def World.saleDone (w : World) (settings : Settings) (t : POSTransaction) (soId : String) :
    World :=
  let held := (Checkout.complete soId).set t
  Checkout.commitComplete held soId (w.attribution held false) (w.entry settings held) w

/-- Sentry has accepted the refund `t` of `original`. -/
def World.refundDone (w : World) (settings : Settings) (t original : POSTransaction)
    (soId : String) : World :=
  let held := (Refund.complete soId).set t
  Refund.commitComplete held original soId (w.attribution held true) (w.entry settings held) w

/-- A write of any handler, the cash payments of a sale apart. -/
inductive Commit (settings : Settings) (said : Replies) : World → World → Prop
  | sale {w : World} {cart : List RichLine} {cashierId : String}
      {customer : Checkout.CustomerAttachIn} : Commit settings said w
        (w.addTransaction (Checkout.newSale settings cart cashierId customer w.now))
  | refund {w : World} {original : POSTransaction} {cashierId : String}
      (hrow : w.db.transaction original.id = some original)
      (htype : original.txnType = .sale) (hstatus : original.status = .complete)
      (hfree : ∀ r t, w.db.transaction r = some t → t.parentTransactionId = some original.id →
        t.status ∉ Refund.refundBlockingStates) :
      Commit settings said w (w.addTransaction (Refund.newRefund original cashierId w.now))
  | moved {w : World} {t : POSTransaction} {u : TransactionUpdate}
      (hrow : w.db.transaction t.id = some t) (hu : Moves said t u) :
      Commit settings said w (w.updateTransaction t.id u)
  | saleNotSent {w : World} {t : POSTransaction} {error : String}
      (hrow : w.db.transaction t.id = some t) (hs : t.status = .paymentSuccess) :
      Commit settings said w
        ((w.updateTransaction t.id (Checkout.inventoryUpdateFailed error)).addOutboxEntry
        (w.entry settings ((Checkout.inventoryUpdateFailed error).set t)))
  | saleDone {w : World} {t : POSTransaction} {soId : String}
      (hrow : w.db.transaction t.id = some t) (hs : t.status = .paymentSuccess)
      (hm : t.paymentMethod = some .card) : Commit settings said w (w.saleDone settings t soId)
  | refundNotSent {w : World} {t : POSTransaction} {error : String}
      (hrow : w.db.transaction t.id = some t) (hs : t.status = .refundPaymentSuccess) :
      Commit settings said w
        ((w.updateTransaction t.id (Refund.inventoryUpdateFailed error)).addOutboxEntry
        (w.entry settings ((Refund.inventoryUpdateFailed error).set t)))
  | refundDone {w : World} {t original : POSTransaction} {soId : String}
      (hrow : w.db.transaction t.id = some t) (hs : t.status = .refundPaymentSuccess)
      (horig : t.parentTransactionId.bind w.db.transaction = some original) :
      Commit settings said w (w.refundDone settings t original soId)
  | refundRetried {w : World} {t original : POSTransaction} {soId : String}
      (hrow : w.db.transaction t.id = some t) (hs : t.status = .refundInventoryUpdateFailed)
      (hsaid : said.resent t.id)
      (horig : t.parentTransactionId.bind w.db.transaction = some original) :
      Commit settings said w
        ((w.updateTransaction t.id (Reconciliation.retried soId t.retryCount)).updateTransaction
        original.id (Refund.linked t.id))
  | opened {w : World} {cashierId : String} {float : Cents} {counts : Denominations}
      (hnone : w.db.openSession cashierId = none) : Commit settings said w
        (w.addSession (Till.newSession cashierId settings.windcaveStation float counts w.now))
  | closed {w : World} {s : TillSession} {count : Cents} {counts : Denominations}
      (hrow : w.db.session s.id = some s) (hs : s.status = .open) :
      Commit settings said w (w.updateSession s.id (Till.closing s count counts w.now))
  | rendered {w : World} {s : Id} {path : String} :
      Commit settings said w (w.updateSession s (Till.withPdfPath path))
  | posted {w : World} {q : Call} : Commit settings said w (World.send q w)
  | outbox {w : World} {table : Table FabricOutboxEntry FabricOutboxEntry.id}
      (hsame : table.rows.map FabricOutboxEntry.order =
        w.db.fabricOutbox.rows.map FabricOutboxEntry.order) :
      Commit settings said w { w with db := { w.db with fabricOutbox := table } }

/-- A write of `charge_cash`. -/
inductive CashCommit (settings : Settings) : World → World → Prop
  | taken {w : World} {t : POSTransaction} {amount : Cents}
      (hrow : w.db.transaction t.id = some t) (hs : t.status = .awaitingPayment)
      (ht : t.txnType = .sale) (ha : t.totalCents ≤ amount) :
      CashCommit settings w (w.updateTransaction t.id (Checkout.cashTaken t.totalCents amount))
  | saleDone {w : World} {t : POSTransaction} {soId : String}
      (hrow : w.db.transaction t.id = some t) (hs : t.status = .paymentSuccess)
      (ht : t.txnType = .sale) (hm : t.paymentMethod = some .cash) :
      CashCommit settings w (w.saleDone settings t soId)

/-- A write of any handler. -/
def Commits (settings : Settings) (said : Replies) (w w' : World) : Prop :=
  Commit settings said w w' ∨ CashCommit settings w w'

/-- The contract of a handler that writes what `step` allows. -/
def Contract.plain (step : World → World → Prop) : Contract World where
  step := step
  inv _ := True
  rest _ := True

/-! ## The handlers make these writes -/

/-- The program writes what `step` allows, when handlers do not overlap; the segment under
way reaches `g`. -/
abbrev Writes (D : Deployment) (accepts : World → Request → Prop) (said : Replies)
    (step : World → World → Prop) {α : Type} (p : App α) (w : World)
    (g : World → Prop := fun _ ↦ True) : Prop :=
  p.wp ((Contract.plain step).calculus (D.serially accepts said)) (fun g _ w ↦ g w) g w

/-- What happens during a call leaves the database and the journal alone. -/
theorem Deployment.db_of_drifts {D : Deployment} {accepts : World → Request → Prop}
    {said : Replies} {w w' : World} (h : (D.serially accepts said).Drifts w w') :
    w'.db = w.db ∧ w'.journal = w.journal := by
  induction h with
  | refl => exact ⟨rfl, rfl⟩
  | tail _ hd ih =>
      rcases hd with (_ | _) | ⟨q, -, rfl⟩
      · exact ih
      · exact ih
      · exact ⟨(World.send_db q _).trans ih.1, (World.send_journal q _).trans ih.2⟩

section Writes

variable {D : Deployment} {accepts : World → Request → Prop} {said : Replies}
  {step : World → World → Prop} {w : World} {α : Type} {g : World → Prop}

theorem Writes.void {p : App α} (h : Writes D accepts said step p w g) :
    Writes D accepts said step p.void w g := by
  unfold Writes App.void
  rw [wp_bind]
  exact wp_mono (by rintro _ (e | a) w h <;> exact h) h

/-- A call that handlers of Sentry and of the report await: the database is the same
afterwards. -/
theorem await_same {q : Call} (hq : ¬ Quiet q) (hsend : World.send q w = w) (hg : g w)
    (hasks : World.Sends w q) {k : Answer q → (World → Prop) → World → Prop}
    (hk : ∀ w' a, w'.db = w.db → said.Covers D.runtime w' q a →
      k a (World.Owes D.runtime q a) w') :
    ((Contract.plain step).calculus (D.serially accepts said)).await g w q k := by
  refine Contract.await_busy hq (.inl hsend) ((congrArg g hsend).mpr hg) hasks
    fun w' a hd hok ↦ hk w' a ?_ hok
  exact (Deployment.db_of_drifts hd).1.trans (congrArg World.db hsend)

/-- A write that is allowed. -/
theorem write_of {w' : World} (h : step w w') :
    ((Contract.plain step).calculus (D.serially accepts said)).write w w' := .inr h

/-- Where Sentry has raised nothing is owed. -/
theorem owes_of_error {request : CheckoutRequest} {a : Attempts} {e : PyExc}
    (h : Sentry.createPosSo D.runtime a = .error e) :
    World.Owes D.runtime (.sentryCreatePosSo request) a w :=
  fun ⟨_, hok⟩ ↦ nomatch h.symm.trans hok

theorem owes_of_error_refund {request : RefundRequest} {a : Attempts} {e : PyExc}
    (h : Sentry.createPosRefund D.runtime a = .error e) :
    World.Owes D.runtime (.sentryCreatePosRefund request) a w :=
  fun ⟨_, hok⟩ ↦ nomatch h.symm.trans hok

/-- The status of a sale or of a refund that Sentry has accepted. -/
theorem status_completed {w' : World} {x : Id} {t : POSTransaction} {u : TransactionUpdate}
    (h : w.Updated x u w') (hrow : w.db.transaction x = some t)
    (hu : ∀ t, (u.set t).status = .complete) : w'.status x = some .complete :=
  h.status hu (by rw [World.status_of_row hrow]; nofun)

theorem completion_status_refund (soId : String) (a : Option Till.Attribution)
    (t : POSTransaction) : ((Refund.completion soId a).set t).status = .complete := by
  cases a <;> rfl

/-- The update of a completed sale. -/
theorem updated_saleDone {settings : Settings} {t : POSTransaction} {soId : String} :
    w.Updated t.id (Checkout.completion soId
      (w.attribution ((Checkout.complete soId).set t) false)) (w.saleDone settings t soId) :=
  (Till.updated_commitTally (w.updated_updateTransaction t.id _) _).addOutboxEntry _

theorem writes_finishSend {t : POSTransaction} {req : CheckoutRequest} {outcome : Attempts}
    (hC : ∀ {w w'}, Commit D.settings said w w' → step w w')
    (hrow : w.db.transaction t.id = some t) (hs : t.status = .paymentSuccess)
    (hreq : req.idempotencyKey = t.id) (hdone : ∀ soId, step w (w.saleDone D.settings t soId)) :
    Writes D accepts said step (Checkout.finishSend D.runtime D.settings t req outcome) w
      (World.Owes D.runtime (.sentryCreatePosSo req) outcome) := by
  unfold Writes Checkout.finishSend
  cases hanswer : Sentry.createPosSo D.runtime outcome with
  | ok result =>
      simp only [wp_bind, Till.wp_attributeTransaction, FabricOutbox.wp_enqueue, App.wp_commit]
      refine ⟨write_of (hdone result.soId), fun _ ↦ ?_⟩
      rw [hreq]
      exact status_completed updated_saleDone hrow (Checkout.completion_status result.soId _)
  | error e =>
      cases e with
      | sentryClient exc =>
          rw [wp_bind]
          refine App.wp_bindText (fun text _ ↦ ?_) fun _ ↦ owes_of_error hanswer
          simp only [wp_bind, FabricOutbox.wp_enqueue, App.wp_commit]
          refine ⟨write_of (hC (.saleNotSent hrow hs)), ?_⟩
          exact await_same (by exact id) rfl (owes_of_error hanswer) (by exact trivial)
            fun _ _ _ _ ↦ trivial
      | _ => exact owes_of_error hanswer

theorem writes_sendToSentry {t : POSTransaction} {method : PaymentMethod}
    (hC : ∀ {w w'}, Commit D.settings said w w' → step w w')
    (hrow : w.db.transaction t.id = some t) (hs : t.status = .paymentSuccess)
    (hm : t.paymentMethod = some method)
    (hdone : ∀ w' soId, w'.db.transaction t.id = some t →
      step w' (w'.saleDone D.settings t soId)) :
    Writes D accepts said step (Checkout.sendToSentry D.runtime D.settings t method) w := by
  unfold Writes Checkout.sendToSentry
  simp only [wp_bind, wp_read]
  have hsends : World.Sends w
      (.sentryCreatePosSo (Checkout.buildCheckoutRequest t method w.now)) :=
    ⟨t, hrow, .inl hs, by rw [hm, Option.getD_some]⟩
  refine await_same (by exact id) rfl trivial hsends fun w' a hdb hok ↦ ?_
  have hrow' : w'.db.transaction t.id = some t := hdb ▸ hrow
  exact writes_finishSend hC hrow' hs rfl fun soId ↦ hdone w' soId hrow'

/-- The row that `saveTransaction` returns is the committed one. -/
theorem row_saved {t : POSTransaction} {u : TransactionUpdate}
    (hrow : w.db.transaction t.id = some t) :
    (w.updateTransaction t.id u).db.transaction ((u.touch w.now).set t).id =
      some ((u.touch w.now).set t) := by
  rw [App.id_touch_set]
  exact (w.updated_updateTransaction t.id u).row_some hrow

theorem writes_finalizeCardCharge {t : POSTransaction} {v : TransactionUpdate} {raw : String}
    {st : WindcaveStatusResponse} (hC : ∀ {w w'}, Commit D.settings said w w' → step w w')
    (hrow : w.db.transaction t.id = some t)
    (hs : t.status = .awaitingPayment ∨ t.status = .paymentInFlight) (hsaid : said.windcave t.id st)
    (hv : v = Checkout.charged raw ∨ v = .id) (hraw : st.rawXml = raw) :
    Writes D accepts said step (Checkout.finalizeCardCharge D.runtime D.settings t v st) w := by
  unfold Writes Checkout.finalizeCardCharge
  subst hraw
  by_cases hsig : st.signatureRequired = true
  · simp only [hsig, if_true, wp_bind, App.wp_saveTransaction]
    exact ⟨write_of (hC (.moved hrow (.cardFailed hs hv))), trivial⟩
  · by_cases ha : st.approved = true
    · cases hresult : st.result with
      | none =>
          simp only [hsig, ha, Bool.not_true, Bool.false_eq_true, if_false]
          trivial
      | some result =>
          simp only [hsig, ha, wp_bind, App.wp_saveTransaction, Bool.not_true,
            Bool.false_eq_true, if_false]
          have hst : st.Pays result := ⟨ha, Bool.eq_false_iff.mpr hsig, hresult⟩
          refine ⟨write_of (hC (.moved hrow (.cardTaken hs hsaid hst hv))), ?_⟩
          refine writes_sendToSentry hC (row_saved hrow) rfl rfl fun w' soId hrow' ↦ ?_
          exact hC (.saleDone hrow' rfl rfl)
    · simp only [hsig, ha, wp_bind, App.wp_saveTransaction, Bool.not_false, if_true,
        Bool.false_eq_true, if_false]
      exact ⟨write_of (hC (.moved hrow (.cardFailed hs hv))), trivial⟩

theorem writes_finishPoll {x : Id} {final : Option WindcaveStatusResponse}
    (hC : ∀ {w w'}, Commit D.settings said w w' → step w w')
    (hsaid : ∀ st, final = some st → said.windcave x st) (hg : g = fun _ ↦ True) :
    Writes D accepts said step (Checkout.finishPoll D.runtime D.settings x final) w g := by
  subst hg
  unfold Writes Checkout.finishPoll
  simp only [wp_bind, App.wp_getTransaction]
  cases hrow : w.db.transaction x with
  | none => trivial
  | some t =>
      obtain rfl : t.id = x := Table.key_of_get? hrow
      by_cases hs : t.status = .paymentInFlight
      · cases final with
        | none =>
            simp only [hs, ne_eq, not_true_eq_false, if_false, wp_bind, App.wp_saveTransaction]
            exact ⟨write_of (hC (.moved hrow (.timedOut hs))), trivial⟩
        | some st =>
            simp only [hs, ne_eq, not_true_eq_false, if_false]
            exact writes_finalizeCardCharge hC hrow (.inr hs) (hsaid st rfl) (.inr rfl) rfl
      · simp only [hs, ne_eq, not_false_eq_true, if_true]
        trivial

/-- The calls of a poller are quiet, and it holds nothing at them. -/
theorem writes_pollLoop {x : Id} {fuel : Nat}
    {post : (World → Prop) → Except PyExc (Option WindcaveStatusResponse) → World → Prop}
    (hpost : ∀ r w, (∀ st, r = .ok (some st) → said.windcave x st) → post (fun _ ↦ True) r w) :
    (Checkout.pollLoop D.settings x fuel 0).wp
      ((Contract.plain step).calculus (D.serially accepts said)) post (fun _ ↦ True) w := by
  refine Checkout.wp_pollLoop (J := fun _ g _ ↦ g = fun _ ↦ True) ?_ ?_ ?_ fuel rfl
  · rintro _ _ w - rfl
    have hnone (st : WindcaveStatusResponse) (h : none = some st) : False := by cases h
    exact hpost (.ok none) w fun st h ↦ (hnone st (Except.ok.inj h)).elim
  · rintro _ _ w rfl
    exact Contract.await_quiet trivial rfl trivial trivial trivial fun _ _ _ _ _ ↦ trivial
  · rintro e _ w rfl
    refine Contract.await_quiet trivial rfl trivial trivial trivial fun w' a _ _ hok ↦ ?_
    have hsleep : ((Contract.plain step).calculus (D.serially accepts said)).await (fun _ ↦ True) w'
        (.pollSleep x e) fun _ g _ ↦ g = fun _ ↦ True :=
      Contract.await_quiet trivial rfl trivial trivial trivial fun _ _ _ _ _ ↦ rfl
    change Checkout.PollStep _ x post _ e (fun _ ↦ True) w' a
    cases a with
    | error exc =>
        have hraised : post (fun _ ↦ True) (.error exc) w' :=
          hpost (.error exc) w' fun _ h ↦ (nomatch h)
        cases exc with
        | windcaveClient => exact hsleep
        | _ => exact hraised
    | ok st =>
        by_cases hst : st.complete = true
        · simp only [Checkout.PollStep, hst, if_true]
          refine hpost _ w' fun st' h ↦ ?_
          obtain rfl := Option.some.inj (Except.ok.inj h)
          exact hok st rfl
        · simp only [Checkout.PollStep, hst, if_false, Bool.false_eq_true]
          exact hsleep

theorem writes_pollCard {x : Id} (hC : ∀ {w w'}, Commit D.settings said w w' → step w w') :
    Writes D accepts said step
      (Checkout.pollCardUntilComplete D.runtime D.settings D.fuel x) w := by
  unfold Writes Checkout.pollCardUntilComplete
  rw [wp_bind]
  refine writes_pollLoop fun r w hsaid ↦ ?_
  cases r with
  | error => trivial
  | ok final => exact writes_finishPoll hC (fun st h ↦ hsaid st (congrArg _ h)) rfl

theorem writes_chargeCash {x : Id} {amount : Cents}
    (hC : ∀ {w w'}, Commit D.settings said w w' → step w w')
    (hcash : ∀ {w w'}, CashCommit D.settings w w' → step w w') :
    Writes D accepts said step (Checkout.chargeCash D.runtime D.settings x amount) w := by
  unfold Writes Checkout.chargeCash
  rw [wp_bind]
  refine Checkout.wp_loadForPayment (fun t hrow ht hs ↦ ?_) fun e ↦ trivial
  obtain rfl : t.id = x := Table.key_of_get? hrow
  by_cases ha : amount < t.totalCents
  · simp only [ha, if_true]
    trivial
  · simp only [ha, if_false, wp_bind, App.wp_saveTransaction]
    refine ⟨write_of (hcash (.taken hrow hs ht (not_lt.mp ha))), ?_⟩
    refine writes_sendToSentry hC (row_saved hrow) rfl rfl fun w' soId hrow' ↦ ?_
    exact hcash (.saleDone hrow' rfl ht rfl)

theorem writes_chargeCard {x : Id} (hC : ∀ {w w'}, Commit D.settings said w w' → step w w') :
    Writes D accepts said step (Checkout.chargeCardRoute D.runtime D.settings D.fuel x) w := by
  unfold Writes Checkout.chargeCardRoute Checkout.chargeCard
  simp only [wp_bind]
  refine Checkout.wp_loadForPayment (fun t hrow ht hs ↦ ?_) fun e ↦ trivial
  obtain rfl : t.id = x := Table.key_of_get? hrow
  simp only [App.wp_ofExcept]
  cases Windcave.formatAmount t.totalCents with
  | error e => trivial
  | ok _ =>
      have hsend : Commit D.settings said w (World.send (.windcaveCharge t.totalCents t.id) w) :=
        .posted
      refine Contract.await_busy (by exact id) (.inr (hC hsend)) trivial trivial ?_
      intro w' a hd hok
      have hrow' : w'.db.transaction t.id = some t := by
        rw [(Deployment.db_of_drifts hd).1]
        exact hrow
      cases a with
      | error exc =>
          cases exc with
          | windcaveClient m =>
              simp only [wp_pure, wp_bind, App.wp_saveTransaction]
              exact ⟨write_of (hC (.moved hrow' (.cardUnavailable hs))), trivial⟩
          | _ => trivial
      | ok st =>
          by_cases hst : st.complete = true
          · simp only [wp_pure, hst, if_true, wp_bind]
            refine wp_mono ?_
              (writes_finalizeCardCharge hC hrow' (.inl hs) (hok st rfl) (.inl rfl) rfl)
            rintro _ (e | _) w₂ h <;> exact h
          · simp only [wp_pure, hst, if_false, Bool.false_eq_true, wp_bind,
              App.wp_saveTransaction]
            refine ⟨write_of (hC (.moved hrow' (.cardInFlight hs))), ?_⟩
            exact Contract.await_quiet trivial rfl trivial trivial trivial
              fun w'' _ _ _ _ ↦ writes_pollCard hC

theorem writes_cancelCheckout {x : Id} (hC : ∀ {w w'}, Commit D.settings said w w' → step w w') :
    Writes D accepts said step (Checkout.cancelCheckout x) w := by
  unfold Writes Checkout.cancelCheckout
  simp only [wp_bind, App.wp_getTransaction]
  cases hrow : w.db.transaction x with
  | none => trivial
  | some t =>
      obtain rfl : t.id = x := Table.key_of_get? hrow
      by_cases hs : t.status = .awaitingPayment ∨ t.status = .paymentInFlight
      · have hgo : ¬ (t.status ≠ .awaitingPayment ∧ t.status ≠ .paymentInFlight) := by tauto
        by_cases hsend : t.status = .paymentInFlight ∧ t.paymentMethod = some .card
        · simp only [hsend, and_self, if_true]
          refine await_same (by exact id) rfl trivial (by exact trivial) fun w' a hdb hok ↦ ?_
          have hrow' : w'.db.transaction t.id = some t := hdb ▸ hrow
          have hcancel : ((Contract.plain step).calculus (D.serially accepts said)).write w'
              (w'.updateTransaction t.id Checkout.cancelled) :=
            write_of (hC (.moved hrow' (.cancelled hs)))
          cases a with
          | ok b => exact ⟨hcancel, trivial⟩
          | error exc => cases exc <;> first | exact ⟨hcancel, trivial⟩ | trivial
        · simp only [hgo, hsend, if_false, wp_bind, App.wp_saveTransaction]
          exact ⟨write_of (hC (.moved hrow (.cancelled hs))), trivial⟩
      · have hrefuse : t.status ≠ .awaitingPayment ∧ t.status ≠ .paymentInFlight := by tauto
        simp only [hrefuse, ne_eq, not_false_eq_true, and_self, if_true]
        trivial

theorem writes_finishStart {t : POSTransaction} {outcome : Attempts}
    (hC : ∀ {w w'}, Commit D.settings said w w' → step w w')
    (hrow : w.db.transaction t.id = some t) (hs : t.status = .pendingValidation) :
    Writes D accepts said step (Checkout.finishStart D.runtime t outcome) w := by
  unfold Writes Checkout.finishStart
  have hfailed (error : String) : ((Contract.plain step).calculus (D.serially accepts said)).write w
      (w.updateTransaction t.id (Checkout.validationFailed error)) :=
    write_of (hC (.moved hrow (.validationFailed hs)))
  cases Sentry.validateCart D.runtime outcome with
  | error e =>
      cases e with
      | sentryClient exc =>
          rw [wp_bind]
          refine App.wp_bindText (fun text _ ↦ ?_) fun _ ↦ trivial
          simp only [wp_bind, App.wp_saveTransaction]
          exact ⟨hfailed _, trivial⟩
      | _ => trivial
  | ok result =>
      by_cases hv : result.valid = true
      · simp only [hv, if_true, App.wp_saveTransaction]
        exact ⟨write_of (hC (.moved hrow (.validated hs))), trivial⟩
      · simp only [hv, if_false, wp_bind, App.wp_saveTransaction, Bool.false_eq_true]
        exact ⟨hfailed _, trivial⟩

/-- A row that was just stored. -/
theorem row_stored {d : Draft POSTransaction POSTransaction.id} :
    (w.addTransaction d).db.transaction (d.build w.db.posTransactions.fresh).id =
      some (d.build w.db.posTransactions.fresh) := by
  rw [d.keyed]
  change (w.db.posTransactions.add d).get? _ = _
  rw [Table.get?_add, if_pos rfl]

theorem writes_startCheckout {lines : List Checkout.CartLineIn} {cashierId : String}
    {customer : Option Checkout.CustomerAttachIn}
    (hC : ∀ {w w'}, Commit D.settings said w w' → step w w') :
    Writes D accepts said step
      (Checkout.startCheckout D.runtime D.settings lines cashierId customer) w := by
  unfold Writes Checkout.startCheckout
  rw [wp_bind]
  rw [Checkout.wp_lookupPrices]
  obtain ⟨missing, prices⟩ := Checkout.pricesOf w.db lines [] []
  simp only
  split
  · trivial
  · simp only [wp_bind, App.wp_ofExcept]
    split
    · next cart _ =>
        refine ⟨write_of (hC .sale), await_same (by exact id) rfl trivial (by exact trivial) ?_⟩
        intro w' a hdb hok
        refine writes_finishStart hC ?_ rfl
        rw [hdb]
        exact row_stored
    · trivial

/-! ### Refunds -/

/-- The updates of a completed refund: its own, and the link of its sale. -/
theorem updated_refundDone {settings : Settings} {t original : POSTransaction} {soId : String} :
    (w.updateTransaction t.id (Refund.completion soId
      (w.attribution ((Refund.complete soId).set t) true))).Updated original.id
        (Refund.linked t.id) (w.refundDone settings t original soId) :=
  (Till.updated_commitTally (World.updated_updateTransaction _ original.id _) _).addOutboxEntry _

/-- A link leaves the status. -/
theorem status_linked {w' : World} {x y r : Id} (h : w.Updated y (Refund.linked r) w') :
    w'.status x = w.status x := by
  by_cases hx : x = y
  · subst hx
    unfold World.status
    rw [h.row]
    cases w.db.transaction x <;> rfl
  · exact h.status_ne hx

theorem writes_finishSendRefund {t original : POSTransaction} {req : RefundRequest}
    {outcome : Attempts} (hC : ∀ {w w'}, Commit D.settings said w w' → step w w')
    (hrow : w.db.transaction t.id = some t) (hs : t.status = .refundPaymentSuccess)
    (hreq : req.idempotencyKey = t.id)
    (horig : t.parentTransactionId.bind w.db.transaction = some original) :
    Writes D accepts said step
      (Refund.finishSend D.runtime D.settings t original req outcome) w
      (World.Owes D.runtime (.sentryCreatePosRefund req) outcome) := by
  unfold Writes Refund.finishSend
  cases hanswer : Sentry.createPosRefund D.runtime outcome with
  | ok result =>
      simp only [wp_bind, Till.wp_attributeTransaction, FabricOutbox.wp_enqueue, App.wp_commit]
      refine ⟨write_of (hC (.refundDone hrow hs horig)), fun _ ↦ ?_⟩
      rw [hreq]
      refine (status_linked updated_refundDone).trans ?_
      exact status_completed (w.updated_updateTransaction t.id _) hrow
        (completion_status_refund result.refundSoId _)
  | error e =>
      cases e with
      | sentryClient exc =>
          rw [wp_bind]
          refine App.wp_bindText (fun text _ ↦ ?_) fun _ ↦ owes_of_error_refund hanswer
          simp only [wp_bind, FabricOutbox.wp_enqueue, App.wp_commit]
          refine ⟨write_of (hC (.refundNotSent hrow hs)), ?_⟩
          exact await_same (by exact id) rfl (owes_of_error_refund hanswer) (by exact trivial)
            fun _ _ _ _ ↦ trivial
      | _ => exact owes_of_error_refund hanswer

theorem writes_sendRefundToSentry {t : POSTransaction}
    (hC : ∀ {w w'}, Commit D.settings said w w' → step w w')
    (hrow : w.db.transaction t.id = some t) (hs : t.status = .refundPaymentSuccess) :
    Writes D accepts said step (Refund.sendRefundToSentry D.runtime D.settings t) w := by
  unfold Writes Refund.sendRefundToSentry
  simp only [wp_bind, wp_read]
  cases horig : t.parentTransactionId.bind w.db.transaction with
  | none => trivial
  | some original =>
      have hsends : World.Sends w
          (.sentryCreatePosRefund (Refund.buildRefundRequest t original w.now)) :=
        ⟨t, original, hrow, .inl hs, horig, rfl⟩
      refine await_same (by exact id) rfl trivial hsends fun w' a hdb hok ↦ ?_
      exact writes_finishSendRefund hC (hdb ▸ hrow) hs rfl (hdb ▸ horig)

theorem writes_finalizeRefund {t : POSTransaction} {st : WindcaveStatusResponse}
    (hC : ∀ {w w'}, Commit D.settings said w w' → step w w')
    (hrow : w.db.transaction t.id = some t)
    (hs : t.status = .refundPending ∧ t.txnType = .refund ∧ t.paymentMethod = some .card ∨
      t.status = .refundPaymentInFlight) (hsaid : said.windcave t.id st) :
    Writes D accepts said step (Refund.finalizeRefundCharge D.runtime D.settings t st) w := by
  unfold Writes Refund.finalizeRefundCharge
  have hs' := hs.imp_left And.left
  by_cases hsig : st.signatureRequired = true
  · simp only [hsig, if_true, wp_bind, App.wp_saveTransaction]
    exact ⟨write_of (hC (.moved hrow (.refundFailed hs'))), trivial⟩
  · by_cases ha : st.approved = true
    · cases hresult : st.result with
      | none =>
          simp only [hsig, ha, Bool.not_true, Bool.false_eq_true, if_false]
          trivial
      | some result =>
          simp only [hsig, ha, wp_bind, App.wp_saveTransaction, Bool.not_true,
            Bool.false_eq_true, if_false]
          have hst : st.Pays result := ⟨ha, Bool.eq_false_iff.mpr hsig, hresult⟩
          refine ⟨write_of (hC (.moved hrow (.cardRefunded hs hsaid hst))), ?_⟩
          exact writes_sendRefundToSentry hC (row_saved hrow) rfl
    · simp only [hsig, ha, wp_bind, App.wp_saveTransaction, Bool.not_false, if_true,
        Bool.false_eq_true, if_false]
      exact ⟨write_of (hC (.moved hrow (.refundFailed hs'))), trivial⟩

theorem writes_finishPollRefund {x : Id} {final : Option WindcaveStatusResponse}
    (hC : ∀ {w w'}, Commit D.settings said w w' → step w w')
    (hsaid : ∀ st, final = some st → said.windcave x st) (hg : g = fun _ ↦ True) :
    Writes D accepts said step (Refund.finishPoll D.runtime D.settings x final) w g := by
  subst hg
  unfold Writes Refund.finishPoll
  simp only [wp_bind, App.wp_getTransaction]
  cases hrow : w.db.transaction x with
  | none => trivial
  | some t =>
      obtain rfl : t.id = x := Table.key_of_get? hrow
      by_cases hs : t.status = .refundPaymentInFlight
      · cases final with
        | none =>
            simp only [hs, ne_eq, not_true_eq_false, if_false, wp_bind, App.wp_saveTransaction]
            exact ⟨write_of (hC (.moved hrow (.refundTimedOut hs))), trivial⟩
        | some st =>
            simp only [hs, ne_eq, not_true_eq_false, if_false]
            exact writes_finalizeRefund hC hrow (.inr hs) (hsaid st rfl)
      · simp only [hs, ne_eq, not_false_eq_true, if_true]
        trivial

theorem writes_pollRefund {x : Id} (hC : ∀ {w w'}, Commit D.settings said w w' → step w w') :
    Writes D accepts said step
      (Refund.pollRefundUntilComplete D.runtime D.settings D.fuel x) w := by
  unfold Writes Refund.pollRefundUntilComplete
  rw [wp_bind]
  refine writes_pollLoop fun r w hsaid ↦ ?_
  cases r with
  | error => trivial
  | ok final => exact writes_finishPollRefund hC (fun st h ↦ hsaid st (congrArg _ h)) rfl

theorem writes_chargeCashRefund {x : Id} (hC : ∀ {w w'}, Commit D.settings said w w' → step w w') :
    Writes D accepts said step (Refund.chargeCashRefund D.runtime D.settings x) w := by
  unfold Writes Refund.chargeCashRefund
  rw [wp_bind]
  refine Refund.wp_loadRefundForPayment (fun t hrow ht hs ↦ ?_) fun e ↦ trivial
  obtain rfl : t.id = x := Table.key_of_get? hrow
  by_cases hm : t.paymentMethod = some .cash
  · simp only [hm, ne_eq, not_true_eq_false, if_false, wp_bind, App.wp_saveTransaction]
    exact ⟨write_of (hC (.moved hrow (.cashRefunded hs ht hm))),
      writes_sendRefundToSentry hC (row_saved hrow) rfl⟩
  · simp only [hm, ne_eq, not_false_eq_true, if_true]
    trivial

theorem writes_chargeCardRefund {x : Id} (hC : ∀ {w w'}, Commit D.settings said w w' → step w w') :
    Writes D accepts said step (Refund.chargeCardRefundRoute D.runtime D.settings D.fuel x) w := by
  unfold Writes Refund.chargeCardRefundRoute Refund.chargeCardRefund
  simp only [wp_bind]
  refine Refund.wp_loadRefundForPayment (fun t hrow ht hs ↦ ?_) fun e ↦ trivial
  obtain rfl : t.id = x := Table.key_of_get? hrow
  by_cases hm : t.paymentMethod = some .card
  · simp only [hm, ne_eq, not_true_eq_false, if_false, wp_bind, wp_read]
    split
    · trivial
    · next dps _ =>
        rw [wp_bind]
        have hsend : Commit D.settings said w
            (World.send (.windcaveRefund t.totalCents.natAbs dps t.id) w) := .posted
        refine Contract.await_busy (by exact id) (.inr (hC hsend)) trivial trivial ?_
        intro w' a hd hok
        have hrow' : w'.db.transaction t.id = some t := by
          rw [(Deployment.db_of_drifts hd).1]
          exact hrow
        cases a with
        | error exc =>
            cases exc with
            | windcaveClient m =>
                simp only [wp_pure, wp_bind, App.wp_saveTransaction]
                exact ⟨write_of (hC (.moved hrow' (.refundUnavailable hs))), trivial⟩
            | _ => trivial
        | ok st =>
            by_cases hst : st.complete = true
            · simp only [wp_pure, hst, if_true, wp_bind]
              refine wp_mono ?_
                (writes_finalizeRefund hC hrow' (.inl ⟨hs, ht, hm⟩) (hok st rfl))
              rintro _ (e | _) w₂ h <;> exact h
            · simp only [wp_pure, hst, if_false, Bool.false_eq_true, wp_bind,
                App.wp_saveTransaction]
              refine ⟨write_of (hC (.moved hrow' (.refundInFlight hs ht hm))), ?_⟩
              exact Contract.await_quiet trivial rfl trivial trivial trivial
                fun w'' _ _ _ _ ↦ writes_pollRefund hC
  · simp only [hm, ne_eq, not_false_eq_true, if_true]
    trivial

theorem writes_cancelRefund {x : Id} (hC : ∀ {w w'}, Commit D.settings said w w' → step w w') :
    Writes D accepts said step (Refund.cancelRefund x) w := by
  unfold Writes Refund.cancelRefund
  simp only [wp_bind, App.wp_getTransaction]
  cases hrow : w.db.transaction x with
  | none => trivial
  | some t =>
      obtain rfl : t.id = x := Table.key_of_get? hrow
      by_cases ht : t.txnType = .refund
      · by_cases hs : t.status = .refundPending ∨ t.status = .refundPaymentInFlight
        · have hgo : ¬ (t.status ≠ .refundPending ∧ t.status ≠ .refundPaymentInFlight) := by
            tauto
          simp only [ht, hgo, ne_eq, not_true_eq_false, if_false, wp_bind,
            App.wp_saveTransaction]
          exact ⟨write_of (hC (.moved hrow (.refundCancelled hs))), trivial⟩
        · have hrefuse : t.status ≠ .refundPending ∧ t.status ≠ .refundPaymentInFlight := by
            tauto
          simp only [ht, hrefuse, ne_eq, not_true_eq_false, not_false_eq_true, and_self,
            if_false, if_true]
          trivial
      · simp only [ht, ne_eq, not_false_eq_true, if_true]
        trivial

theorem writes_lookupRefund {s : Id} :
    Writes D accepts said step (Refund.lookupRefund D.settings s) w :=
  Refund.wp_lookupRefund (fun _ _ _ _ _ ↦ trivial) fun _ ↦ trivial

theorem writes_startRefund {s : Id} {cashierId : String}
    (hC : ∀ {w w'}, Commit D.settings said w w' → step w w') :
    Writes D accepts said step (Refund.startRefund D.settings s cashierId) w := by
  unfold Writes Refund.startRefund
  rw [wp_bind]
  refine Refund.wp_lookupRefund (fun original hrow ht hs hfree ↦ ?_) fun e ↦ trivial
  obtain rfl : original.id = s := Table.key_of_get? hrow
  exact ⟨write_of (hC (.refund hrow ht hs hfree)), trivial⟩

/-! ### Reconciliation -/

/-- The row `t` is still there as a batch command has scanned it, apart from its link. -/
def Like (w : World) (t : POSTransaction) : Prop :=
  ∃ t', w.db.transaction t.id = some t' ∧
    t = { t' with refundTransactionId := t.refundTransactionId, updatedAt := t.updatedAt }

theorem Like.of_row {t : POSTransaction} (hrow : w.db.transaction t.id = some t) : Like w t :=
  ⟨t, hrow, rfl⟩

theorem Like.same {w' : World} {t : POSTransaction} (h : Like w t) (hdb : w'.db = w.db) :
    Like w' t := by
  unfold Like
  rw [hdb]
  exact h

theorem Like.updated {x : Id} {u : TransactionUpdate} {w' : World} (hw : w.Updated x u w')
    {t : POSTransaction} (h : Like w t) (hx : t.id ≠ x) : Like w' t := by
  obtain ⟨t', ht', hlike⟩ := h
  exact ⟨t', (hw.others _ hx).trans ht', hlike⟩

/-- A link is in a column of its own. -/
theorem Like.linked {x r : Id} {w' : World} (hw : w.Updated x (Refund.linked r) w')
    {t : POSTransaction} (h : Like w t) : Like w' t := by
  obtain ⟨t', ht', hlike⟩ := h
  obtain ⟨t'', ht'', rfl | rfl⟩ := hw.row_of ht' <;> exact ⟨_, ht'', hlike⟩

/-- A retry writes to the row `t`, and leaves the others as they were scanned. -/
def RetryPost (w : World) (t : POSTransaction) (w' : World) : Prop :=
  ∀ t₁, t₁.id ≠ t.id → Like w t₁ → Like w' t₁

/-- The committed row of one that was scanned. -/
theorem Like.committed {t : POSTransaction} (h : Like w t) : ∃ t', t'.id = t.id ∧
    w.db.transaction t'.id = some t' ∧ t'.status = t.status ∧ t'.retryCount = t.retryCount ∧
      t'.parentTransactionId = t.parentTransactionId ∧ t'.paymentMethod = t.paymentMethod ∧
      (∀ m now, Checkout.buildCheckoutRequest t m now = Checkout.buildCheckoutRequest t' m now) ∧
      ∀ original now,
        Refund.buildRefundRequest t original now = Refund.buildRefundRequest t' original now := by
  obtain ⟨t', hrow, ht⟩ := h
  have hid : t'.id = t.id := Table.key_of_get? hrow
  refine ⟨t', hid, hid ▸ hrow, ?_, ?_, ?_, ?_, fun m now ↦ ?_, fun original now ↦ ?_⟩ <;>
    rw [ht] <;> rfl

/-- A retry writes to its row, and to no other. -/
theorem retryPost_updated (w : World) (t : POSTransaction) (u : TransactionUpdate) :
    RetryPost w t (w.updateTransaction t.id u) :=
  fun _ hne hl ↦ hl.updated (w.updated_updateTransaction t.id u) hne

/-- Sentry has refused again: the row `t`, whose committed row is `t'`, keeps the refusal. -/
theorem writes_retryFailed {t t' : POSTransaction} {exc : SentryClientError}
    {post : (World → Prop) → Except PyExc Bool → World → Prop}
    (hC : ∀ {w w'}, Commit D.settings said w w' → step w w') (hid : t'.id = t.id)
    (hrow : w.db.transaction t'.id = some t')
    (hst : t'.status = .inventoryUpdateFailed ∨ t'.status = .refundInventoryUpdateFailed)
    (hretry : t'.retryCount = t.retryCount) (hraise : ∀ e, post g (.error e) w)
    (hpost : ∀ u, RetryPost w t (w.updateTransaction t.id u) →
      post g (.ok false) (w.updateTransaction t.id u)) :
    (do
      let error ← App.bindText (Checkout.errorText exc)
      let _ ← App.saveTransaction t (Reconciliation.retryFailed error t.retryCount)
      return false : App Bool).wp
      ((Contract.plain step).calculus (D.serially accepts said)) post g w := by
  rw [wp_bind]
  refine App.wp_bindText (fun text _ ↦ ?_) fun _ ↦ hraise _
  simp only [wp_bind, App.wp_saveTransaction]
  have hmoves : Moves said t' (Reconciliation.retryFailed text t'.retryCount) := .retryFailed hst
  have hwrite := hC (.moved hrow hmoves)
  rw [hid, hretry] at hwrite
  exact ⟨write_of hwrite, hpost _ (retryPost_updated w t _)⟩

theorem writes_retryOneSale {t : POSTransaction}
    {post : (World → Prop) → Except PyExc Bool → World → Prop}
    (hC : ∀ {w w'}, Commit D.settings said w w' → step w w') (hlike : Like w t)
    (hs : t.status = .inventoryUpdateFailed) (hg : g w)
    (hpost : ∀ g r w', RetryPost w t w' → g w' → post g r w') :
    (Reconciliation.retryOneSale D.runtime t).wp
      ((Contract.plain step).calculus (D.serially accepts said)) post g w := by
  unfold Reconciliation.retryOneSale
  simp only [wp_bind, wp_read]
  obtain ⟨t', hid, hrow, hst, hretry, -, hm, hrequest, -⟩ := hlike.committed
  have hsends : World.Sends w (.sentryCreatePosSo
      (Checkout.buildCheckoutRequest t (t.paymentMethod.getD .cash) w.now)) :=
    ⟨t', hrow, .inr (hst.trans hs), by rw [hrequest, hm]⟩
  refine await_same (by exact id) rfl hg hsends fun w' a hdb hok ↦ ?_
  have hrow' : w'.db.transaction t'.id = some t' := hdb ▸ hrow
  have hsame : RetryPost w t w' := fun _ _ hl ↦ hl.same hdb
  change Prog.wp _ post (Reconciliation.finishRetrySale D.runtime t a) _ w'
  unfold Reconciliation.finishRetrySale
  cases hanswer : Sentry.createPosSo D.runtime a with
  | ok result =>
      simp only [wp_bind, App.wp_saveTransaction]
      have hstatus : w'.status t.id = some .inventoryUpdateFailed :=
        (World.status_of_row (hid ▸ hrow')).trans (congrArg some (hst.trans hs))
      have hmoves : Moves said t' (Reconciliation.retried result.soId t'.retryCount) :=
        .retried (hst.trans hs) (hid.symm ▸ hok hstatus ⟨result, hanswer⟩)
      have hwrite := hC (.moved hrow' hmoves)
      rw [hid, hretry] at hwrite
      refine ⟨write_of hwrite, hpost _ _ _ (fun t₁ hne hl ↦ ?_) fun _ ↦ ?_⟩
      · exact retryPost_updated w' t _ t₁ hne (hsame t₁ hne hl)
      · exact status_completed (w'.updated_updateTransaction t.id _) (hid ▸ hrow') fun _ ↦ rfl
  | error e =>
      have howes (w'' : World) : World.Owes D.runtime (.sentryCreatePosSo
          (Checkout.buildCheckoutRequest t (t.paymentMethod.getD .cash) w.now)) _ w'' :=
        owes_of_error hanswer
      cases e with
      | sentryClient exc =>
          refine writes_retryFailed hC hid hrow' (.inl (hst.trans hs)) hretry
            (fun e ↦ hpost _ _ _ hsame (howes w')) fun u hu ↦ ?_
          exact hpost _ _ _ (fun t₁ hne hl ↦ hu t₁ hne (hsame t₁ hne hl)) (howes _)
      | _ => exact hpost _ _ _ hsame (howes w')

theorem writes_retryOneRefund {t : POSTransaction}
    {post : (World → Prop) → Except PyExc Bool → World → Prop}
    (hC : ∀ {w w'}, Commit D.settings said w w' → step w w') (hlike : Like w t)
    (hs : t.status = .refundInventoryUpdateFailed) (hg : g w)
    (hpost : ∀ g r w', RetryPost w t w' → g w' → post g r w') :
    (Reconciliation.retryOneRefund D.runtime t).wp
      ((Contract.plain step).calculus (D.serially accepts said)) post g w := by
  unfold Reconciliation.retryOneRefund
  simp only [wp_bind, wp_read]
  cases horig : t.parentTransactionId.bind w.db.transaction with
  | none => exact hpost _ _ _ (fun _ _ hl ↦ hl) hg
  | some original =>
      obtain ⟨t', hid, hrow, hst, hretry, hparent, -, -, hrequest⟩ := hlike.committed
      have horig₁ : t'.parentTransactionId.bind w.db.transaction = some original := by
        rw [hparent]
        exact horig
      have hsends : World.Sends w
          (.sentryCreatePosRefund (Refund.buildRefundRequest t original w.now)) :=
        ⟨t', original, hrow, .inr (hst.trans hs), horig₁, hrequest _ _⟩
      refine await_same (by exact id) rfl hg hsends fun w' a hdb hok ↦ ?_
      have hrow' : w'.db.transaction t'.id = some t' := hdb ▸ hrow
      have hsame : RetryPost w t w' := fun _ _ hl ↦ hl.same hdb
      change Prog.wp _ post (Reconciliation.finishRetryRefund D.runtime t original a) _ w'
      unfold Reconciliation.finishRetryRefund
      cases hanswer : Sentry.createPosRefund D.runtime a with
      | ok result =>
          simp only [wp_bind, App.wp_commit]
          have hstatus : w'.status t.id = some .refundInventoryUpdateFailed :=
            (World.status_of_row (hid ▸ hrow')).trans (congrArg some (hst.trans hs))
          have hcommit : Commit D.settings said w' ((w'.updateTransaction t'.id
              (Reconciliation.retried result.refundSoId t'.retryCount)).updateTransaction
              original.id (Refund.linked t'.id)) :=
            .refundRetried hrow' (hst.trans hs) (hid.symm ▸ hok hstatus ⟨result, hanswer⟩)
              (hdb ▸ horig₁)
          have hwrite := hC hcommit
          rw [hid, hretry] at hwrite
          refine ⟨write_of hwrite, hpost _ _ _ (fun t₁ hne hl ↦ ?_) fun _ ↦ ?_⟩
          · exact (retryPost_updated w' t _ t₁ hne (hsame t₁ hne hl)).linked
              (World.updated_updateTransaction _ _ _)
          · refine (status_linked (World.updated_updateTransaction _ _ _)).trans ?_
            exact status_completed (w'.updated_updateTransaction t.id _) (hid ▸ hrow') fun _ ↦ rfl
      | error e =>
          have howes (w'' : World) : World.Owes D.runtime (.sentryCreatePosRefund
              (Refund.buildRefundRequest t original w.now)) _ w'' :=
            owes_of_error_refund hanswer
          cases e with
          | sentryClient exc =>
              refine writes_retryFailed hC hid hrow' (.inr (hst.trans hs)) hretry
                (fun e ↦ hpost _ _ _ hsame (howes w')) fun u hu ↦ ?_
              exact hpost _ _ _ (fun t₁ hne hl ↦ hu t₁ hne (hsame t₁ hne hl)) (howes _)
          | _ => exact hpost _ _ _ hsame (howes w')

/-- The loop of the batch commands, when one retry leaves the rows that come later. -/
theorem writes_retryAll {retryOne : POSTransaction → App Bool} {status : Status}
    (hone : ∀ {w : World} {g : World → Prop} {t : POSTransaction}
      {post : (World → Prop) → Except PyExc Bool → World → Prop}, Like w t → t.status = status →
      g w → (∀ g r w', RetryPost w t w' → g w' → post g r w') →
      (retryOne t).wp ((Contract.plain step).calculus (D.serially accepts said)) post g w)
    (txns : List POSTransaction) (hnd : (txns.map (·.id)).Nodup)
    (hlike : ∀ t ∈ txns, Like w t ∧ t.status = status) (hg : g w)
    {report : Reconciliation.RetryReport} :
    Writes D accepts said step (Reconciliation.retryAll retryOne txns report) w g := by
  induction txns generalizing w g report with
  | nil => exact hg
  | cons t txns ih =>
      obtain ⟨hnotin, hnd'⟩ := List.nodup_cons.mp hnd
      unfold Writes Reconciliation.retryAll
      rw [wp_bind]
      refine hone (hlike t (.head _)).1 (hlike t (.head _)).2 hg fun g r w' hpost hg' ↦ ?_
      have hrest : ∀ t₁ ∈ txns, Like w' t₁ ∧ t₁.status = status := fun t₁ h₁ ↦ by
        have hne : t₁.id ≠ t.id := fun hid ↦ hnotin (List.mem_map.mpr ⟨t₁, h₁, hid⟩)
        obtain ⟨hl, hst⟩ := hlike t₁ (List.mem_cons_of_mem _ h₁)
        exact ⟨hpost t₁ hne hl, hst⟩
      cases r with
      | error => exact hg'
      | ok b => cases b <;> exact ih hnd' hrest hg'

/-- The rows that a batch command scans are there. -/
theorem like_of_select {p : POSTransaction → Bool} {t : POSTransaction}
    (h : t ∈ w.db.posTransactions.select p) : Like w t :=
  .of_row (Table.get?_of_mem (List.mem_filter.mp h).1)

theorem nodup_select {p : POSTransaction → Bool} :
    ((w.db.posTransactions.select p).map (·.id)).Nodup :=
  w.db.posTransactions.nodup.sublist (List.filter_sublist.map _)

theorem writes_retryFailedSales (hC : ∀ {w w'}, Commit D.settings said w w' → step w w') :
    Writes D accepts said step (Reconciliation.retryFailedSales D.runtime) w := by
  unfold Writes Reconciliation.retryFailedSales Reconciliation.rowsIn
  simp only [wp_bind, wp_read, Prog.pure_eq, wp_pure]
  refine writes_retryAll (writes_retryOneSale hC) _ nodup_select
    (fun t ht ↦ ⟨like_of_select ht, ?_⟩) trivial
  exact (of_decide_eq_true (List.mem_filter.mp ht).2).2

theorem writes_retryFailedRefunds (hC : ∀ {w w'}, Commit D.settings said w w' → step w w') :
    Writes D accepts said step (Reconciliation.retryFailedRefunds D.runtime) w := by
  unfold Writes Reconciliation.retryFailedRefunds Reconciliation.rowsIn
  simp only [wp_bind, wp_read, Prog.pure_eq, wp_pure]
  refine writes_retryAll (writes_retryOneRefund hC) _ nodup_select
    (fun t ht ↦ ⟨like_of_select ht, ?_⟩) trivial
  exact (of_decide_eq_true (List.mem_filter.mp ht).2).2

theorem writes_retrySentry {x : Id} (hC : ∀ {w w'}, Commit D.settings said w w' → step w w') :
    Writes D accepts said step (Reconciliation.retrySentry D.runtime x) w := by
  unfold Writes Reconciliation.retrySentry
  simp only [wp_bind, App.wp_getTransaction]
  cases hrow : w.db.transaction x with
  | none => trivial
  | some t =>
      obtain rfl : t.id = x := Table.key_of_get? hrow
      have hlike : Like w t := .of_row hrow
      cases htype : t.txnType with
      | sale =>
          simp only [htype]
          by_cases hs : t.status = .inventoryUpdateFailed
          · simp only [hs, ne_eq, not_true_eq_false, if_false, wp_bind]
            refine writes_retryOneSale hC hlike hs trivial ?_
            rintro g (e | _) w - hg <;> exact hg
          · simp only [hs, ne_eq, not_false_eq_true, if_true]
            trivial
      | refund =>
          simp only [htype]
          by_cases hs : t.status = .refundInventoryUpdateFailed
          · simp only [hs, ne_eq, not_true_eq_false, if_false, wp_bind]
            refine writes_retryOneRefund hC hlike hs trivial ?_
            rintro g (e | _) w - hg <;> exact hg
          · simp only [hs, ne_eq, not_false_eq_true, if_true]
            trivial

/-! ### Till sessions and the outbox -/

theorem writes_openTill {cashierId : String} {counts : Denominations}
    (hC : ∀ {w w'}, Commit D.settings said w w' → step w w') :
    Writes D accepts said step
      (Till.openSession cashierId D.settings.windcaveStation counts) w := by
  unfold Writes Till.openSession
  simp only [wp_bind, Till.wp_getOpenSession]
  cases hopen : w.db.openSession cashierId with
  | some s => trivial
  | none =>
      simp only [wp_bind]
      refine Till.wp_ofTill (fun float _ ↦ ?_) fun e ↦ trivial
      refine App.wp_bindIntegers ?_ trivial
      exact Till.wp_storeSession hopen ⟨write_of (hC (.opened hopen)), fun _ ↦ trivial⟩

theorem writes_tryRenderPdf {s : TillSession}
    (hC : ∀ {w w'}, Commit D.settings said w w' → step w w') :
    Writes D accepts said step (Till.tryRenderPdf s) w := by
  unfold Writes Till.tryRenderPdf
  simp only [wp_bind, wp_read]
  cases w.db.posUsers.get? s.cashierId with
  | none => trivial
  | some user =>
      refine await_same (by exact id) rfl trivial (by exact trivial) fun w' a hdb hok ↦ ?_
      cases a with
      | none => trivial
      | some path => exact ⟨write_of (hC .rendered), trivial⟩

theorem writes_closeTill {cashierId : String} {counts : Denominations} {renders : Bool}
    (hC : ∀ {w w'}, Commit D.settings said w w' → step w w') :
    Writes D accepts said step (Till.closeSession cashierId counts renders) w := by
  unfold Writes Till.closeSession
  simp only [wp_bind, Till.wp_getOpenSession]
  cases hopen : w.db.openSession cashierId with
  | none => trivial
  | some s =>
      obtain ⟨hrow, -, hs⟩ := Db.openSession_spec hopen
      simp only [wp_bind]
      refine Till.wp_ofTill (fun count _ ↦ ?_) fun e ↦ trivial
      refine App.wp_bindIntegers ?_ trivial
      simp only [App.wp_commit, wp_read]
      refine ⟨write_of (hC (.closed hrow hs)), ?_⟩
      cases renders with
      | false => trivial
      | true =>
          simp only [if_true]
          split
          · exact writes_tryRenderPdf hC
          · trivial

theorem writes_currentTill {cashierId : String} :
    Writes D accepts said step (Till.currentTill cashierId) w := by
  unfold Writes Till.currentTill
  simp only [wp_bind, Till.wp_getOpenSession]
  trivial

/-- An update that assigns no column of the order leaves the orders. -/
theorem commit_updateOutboxEntry {settings : Settings} {w : World} {x : Id} {u : OutboxUpdate}
    (hu : ∀ e, (u.set e).order = e.order) : Commit settings said w (w.updateOutboxEntry x u) := by
  refine .outbox ?_
  simp only [Table.modify, List.map_map]
  refine List.map_congr_left fun e _ ↦ ?_
  simp only [Function.comp_apply]
  split
  · exact hu e
  · rfl

theorem order_failed (entry : FabricOutboxEntry) (error : String) (now : Time)
    (e : FabricOutboxEntry) : ((FabricOutbox.failed entry error now).set e).order = e.order := by
  simp only [FabricOutbox.failed]
  split <;> rfl

theorem writes_getEntry {x : Id}
    {post : (World → Prop) → Except PyExc (Option FabricOutboxEntry) → World → Prop}
    (h : post g (.ok (w.db.outboxEntry x)) w) :
    (FabricOutbox.getEntry x).wp ((Contract.plain step).calculus (D.serially accepts said))
      post g w := by
  simpa [FabricOutbox.getEntry] using h

theorem writes_markFailed {x : Id} {error : String}
    {post : (World → Prop) → Except PyExc (Option OutboxStatus) → World → Prop}
    (hC : ∀ {w w'}, Commit D.settings said w w' → step w w') (hpost : ∀ r w, post g (.ok r) w) :
    (FabricOutbox.markFailed x error).wp
      ((Contract.plain step).calculus (D.serially accepts said)) post g w := by
  unfold FabricOutbox.markFailed
  rw [wp_bind]
  refine writes_getEntry ?_
  cases w.db.outboxEntry x with
  | none => exact hpost _ _
  | some entry =>
      exact ⟨write_of (hC (commit_updateOutboxEntry (order_failed entry error _))), hpost _ _⟩

theorem writes_markDelivered {x : Id} {soId : Json}
    {post : (World → Prop) → Except PyExc Unit → World → Prop}
    (hC : ∀ {w w'}, Commit D.settings said w w' → step w w') (hpost : ∀ r w, post g r w) :
    (FabricOutbox.markDelivered D.runtime x soId).wp
      ((Contract.plain step).calculus (D.serially accepts said)) post g w := by
  unfold FabricOutbox.markDelivered
  rw [wp_bind]
  refine writes_getEntry ?_
  cases w.db.outboxEntry x with
  | none => exact hpost _ _
  | some entry =>
      simp only [wp_bind, App.wp_ofExcept]
      cases Fabric.bindText D.runtime soId with
      | error e => exact hpost _ _
      | ok text =>
          exact ⟨write_of (hC (commit_updateOutboxEntry fun _ ↦ rfl)), hpost _ _⟩

theorem writes_drainEntries (hC : ∀ {w w'}, Commit D.settings said w w' → step w w')
    (ids : List Id) {res : FabricOutbox.DrainResult} :
    Writes D accepts said step (FabricOutbox.drainEntries D.runtime ids res) w := by
  induction ids generalizing w res with
  | nil => trivial
  | cons x ids ih =>
      unfold Writes FabricOutbox.drainEntries
      rw [wp_bind]
      refine writes_getEntry ?_
      cases w.db.outboxEntry x with
      | none => exact ih
      | some entry =>
          by_cases hs : entry.status = .inFlight
          · simp only [hs, if_true]
            rw [wp_bind]
            refine Contract.await_quiet trivial rfl trivial trivial trivial fun w' a _ _ _ ↦ ?_
            simp only [wp_pure]
            cases Fabric.writeSalesOrder a with
            | error e =>
                cases e with
                | fabricClient error =>
                    simp only [wp_bind]
                    refine writes_markFailed hC fun r w ↦ ?_
                    simp only
                    split <;> exact ih
                | _ => trivial
            | ok body =>
                simp only [wp_bind]
                refine writes_markDelivered hC fun r w ↦ ?_
                cases r with
                | error => trivial
                | ok => exact ih
          · simp only [hs, if_false]
            exact ih

/-- Claiming changes statuses only. -/
theorem claimAll_orders (ids : List Id) (w : World) :
    ∃ table, FabricOutbox.claimAll ids w = { w with db := { w.db with fabricOutbox := table } } ∧
      table.rows.map FabricOutboxEntry.order =
        w.db.fabricOutbox.rows.map FabricOutboxEntry.order := by
  induction ids generalizing w with
  | nil => exact ⟨w.db.fabricOutbox, rfl, rfl⟩
  | cons x ids ih =>
      obtain ⟨table, h, hsame⟩ := ih (w.updateOutboxEntry x FabricOutbox.claimed)
      refine ⟨table, h, hsame.trans ?_⟩
      simp only [World.updateOutboxEntry, Table.modify, List.map_map]
      refine List.map_congr_left fun e _ ↦ ?_
      simp only [Function.comp_apply]
      split <;> rfl

theorem writes_drainOnce {batchSize : Nat}
    (hC : ∀ {w w'}, Commit D.settings said w w' → step w w') :
    Writes D accepts said step (FabricOutbox.drainOnce D.runtime batchSize) w := by
  unfold Writes FabricOutbox.drainOnce FabricOutbox.claimDue
  simp only [wp_bind, wp_read, App.wp_commit]
  refine ⟨?_, writes_drainEntries hC _⟩
  obtain ⟨table, h, hsame⟩ :=
    claimAll_orders ((FabricOutbox.due w.db w.now batchSize).map (·.id)) w
  exact write_of (h ▸ hC (.outbox hsame))

theorem writes_runLoop (hC : ∀ {w w'}, Commit D.settings said w w' → step w w') (passes : Nat) :
    Writes D accepts said step (FabricOutbox.runLoop D.runtime D.settings passes) w := by
  induction passes generalizing w with
  | zero => trivial
  | succ passes ih =>
      unfold Writes FabricOutbox.runLoop
      rw [wp_bind, wp_catching, wp_bind]
      refine wp_mono (fun g r w hg ↦ ?_) (writes_drainOnce hC)
      have hsleep : ((Contract.plain step).calculus (D.serially accepts said)).await g w
          (.drainSleep D.settings.fabricOutboxDrainIntervalS) fun _ _ w ↦
            Writes D accepts said step (FabricOutbox.runLoop D.runtime D.settings passes) w :=
        Contract.await_quiet trivial rfl trivial hg trivial fun _ _ _ _ _ ↦ ih
      cases r <;> exact hsleep

theorem writes_retryOutboxEntry {x : Id} (hC : ∀ {w w'}, Commit D.settings said w w' → step w w') :
    Writes D accepts said step (FabricOutbox.retryFabricOutboxEntry x) w := by
  unfold Writes FabricOutbox.retryFabricOutboxEntry
  rw [wp_bind]
  refine writes_getEntry ?_
  cases w.db.outboxEntry x with
  | none => trivial
  | some entry =>
      simp only
      split
      · exact ⟨write_of (hC (commit_updateOutboxEntry fun _ ↦ rfl)), trivial⟩
      · trivial

/-! ### All requests -/

/-- Every handler but `charge_cash` writes what `Commit` lists. -/
theorem writes_handle {i : Request} (hi : ∀ x amount, i ≠ .chargeCash x amount)
    (hC : ∀ {w w'}, Commit D.settings said w w' → step w w') :
    Writes D accepts said step (D.handle i) w := by
  cases i with
  | startCheckout => exact (writes_startCheckout hC).void
  | chargeCash x amount => exact absurd rfl (hi x amount)
  | chargeCard => exact writes_chargeCard hC
  | pollCardUntilComplete => exact writes_pollCard hC
  | cancelCheckout => exact writes_cancelCheckout hC
  | lookupRefund => exact writes_lookupRefund.void
  | startRefund => exact (writes_startRefund hC).void
  | chargeCardRefund => exact writes_chargeCardRefund hC
  | chargeCashRefund => exact writes_chargeCashRefund hC
  | pollRefundUntilComplete => exact writes_pollRefund hC
  | cancelRefund => exact writes_cancelRefund hC
  | retrySentry => exact writes_retrySentry hC
  | retryFailedSales => exact (writes_retryFailedSales hC).void
  | retryFailedRefunds => exact (writes_retryFailedRefunds hC).void
  | openTill => exact (writes_openTill hC).void
  | closeTill => exact writes_closeTill hC
  | currentTill => exact writes_currentTill.void
  | drainOnce => exact (writes_drainOnce hC).void
  | runLoop => exact writes_runLoop hC _
  | retryFabricOutboxEntry => exact writes_retryOutboxEntry hC

end Writes

/-! ## Serial runs move by these writes -/

namespace Deployment

variable (D : Deployment)

theorem writes_all {accepts : World → Request → Prop} {said : Replies} (i : Request) (w : World) :
    Writes D accepts said (Commits D.settings said) (D.handle i) w := by
  cases i with
  | chargeCash => exact writes_chargeCash .inl .inr
  | _ => exact writes_handle nofun .inl

/-- Every handler makes its writes only. -/
theorem sound (accepts : World → Request → Prop) (said : Replies) :
    (Contract.plain (Commits D.settings said)).Sound (D.serially accepts said) where
  step _ _ := trivial
  drift _ _ := trivial
  drift_rest _ _ := trivial
  resend _ := .inl .posted
  resend_rest _ _ := trivial
  serves i w _ _ _ :=
    wp_mono (fun _ _ _ hg ↦ ⟨trivial, hg⟩) (D.writes_all i w)

/-- Serial runs: no handler starts or goes on while another one is between two of its
commits. -/
abbrev SerialRun : Config World Call Answer PyExc → Config World Call Answer PyExc → Prop :=
  Run (D.system .any) (.serial Quiet (fun _ _ ↦ True) fun _ _ _ ↦ True)

/-- Those in which each answer of Windcave is one of the replies. -/
abbrev SerialRunSaying (said : Replies) :
    Config World Call Answer PyExc → Config World Call Answer PyExc → Prop :=
  Run (D.system .any) (.serial Quiet (fun _ _ ↦ True) fun w q a ↦ said.Covers D.runtime w q a)

/-- In every serial run Windcave says anything. -/
theorem saying_any {c c' : Config World Call Answer PyExc} (h : D.SerialRun c c') :
    D.SerialRunSaying .any c c' := by
  refine Relation.ReflTransGen.mono (fun _ _ hs ↦ ?_) _ _ h
  cases hs with
  | start i hg => exact .start i hg
  | resume p a ha hg => exact .resume p a ha ⟨hg.1, Replies.any_covers _ _ p.call a⟩
  | kill _ hg => exact hg.elim
  | resend p hq => exact .resend p hq trivial
  | drift hd => exact .drift hd

/-- The state moves by the writes of handlers and by itself. -/
abbrev Reaches (said : Replies) : World → World → Prop :=
  Relation.ReflTransGen fun w w' ↦ Commits D.settings said w w' ∨ World.Drift w w'

/-- A serial run, and what follows it. -/
theorem moves_of_saying {said : Replies} {w : World} {c c' : Config World Call Answer PyExc}
    (h : D.SerialRunSaying said (.idle w) c) (h' : D.SerialRunSaying said c c') :
    D.Reaches said w c.state ∧ D.Reaches said c.state c'.state := by
  have hsound := D.sound (fun _ _ ↦ True) said
  obtain ⟨hser, hmoves⟩ := (Serial.idle trivial trivial).run hsound h
  exact ⟨hmoves, (hser.run hsound h').2⟩

theorem moves_of_run {w : World} {c c' : Config World Call Answer PyExc}
    (h : D.SerialRun (.idle w) c) (h' : D.SerialRun c c') :
    D.Reaches .any w c.state ∧ D.Reaches .any c.state c'.state :=
  D.moves_of_saying (D.saying_any h) (D.saying_any h')

/-- A handler that waits for the answer to `q` is given `a`, and runs to its next await. -/
inductive Given (q : Call) (a : Answer q) :
    Config World Call Answer PyExc → Config World Call Answer PyExc → Prop
  | mk {s : World} {l r : List (Suspended World Call Answer PyExc)} {k : Answer q → App Unit}
      (hquiet : ∀ x ∈ l ++ r, Quiet x.call) : Given q a ⟨s, l ++ ⟨q, k⟩ :: r⟩
        ⟨((k a).advance World.send s).1, l ++ ((k a).advance World.send s).2.toList ++ r⟩

/-- It is a step of a serial run. -/
theorem Given.serialRun {q : Call} {a : Answer q} {c c' : Config World Call Answer PyExc}
    (h : Given q a c c') : D.SerialRun c c' := by
  cases h with
  | @mk s l r k hquiet =>
      refine .single (.resume ⟨q, k⟩ a trivial ⟨fun q' hq' ↦ ?_, trivial⟩)
      obtain ⟨x, hx, rfl⟩ := List.mem_map.mp hq'
      exact hquiet x hx

/-- What the segment has reached that an answer has set going. -/
theorem Given.reached {q : Call} {a : Answer q} {w : World}
    {c c' : Config World Call Answer PyExc} (h : D.SerialRun (.idle w) c) (hg : Given q a c c') :
    World.Owes D.runtime q a c'.state := by
  have hsound := D.sound (fun _ _ ↦ True) .any
  obtain ⟨hser, -⟩ := (Serial.idle trivial trivial).run hsound (D.saying_any h)
  cases hg with
  | @mk s l r k hquiet =>
      refine hser.reached (p := ⟨q, k⟩) hsound trivial ⟨fun q' hq' ↦ ?_, Replies.any_covers _ _ q a⟩
      obtain ⟨x, hx, rfl⟩ := List.mem_map.mp hq'
      exact hquiet x hx

/-- What is asked of Sentry is built from the committed rows, where the call is pending. -/
theorem sends_of_run {q : Call} {w : World} {c : Config World Call Answer PyExc}
    (h : D.SerialRun (.idle w) c) (hq : q ∈ c.calls) (hbusy : ¬ Quiet q) :
    ∃ w₀, w₀.Sends q ∧ c.state.db = (World.send q w₀).db := by
  have hsound := D.sound (fun _ _ ↦ True) .any
  obtain ⟨hser, -⟩ := (Serial.idle trivial trivial).run hsound (D.saying_any h)
  obtain ⟨w₀, hasks, hd⟩ := hser.asked hq hbusy
  exact ⟨w₀, hasks, (D.db_of_drifts hd).1⟩

/-- A move that may be played while only quiet calls are pending elsewhere. -/
def plays (c : Config World Call Answer PyExc) : Move World Call Answer Request → Bool
  | .start _ => c.calls.all fun q ↦ Quiet q
  | .resume n answer => match c.pool[n]? with
      | some p => (answer p.call).isSome &&
          ((c.pool.take n ++ c.pool.drop (n + 1)).map Suspended.call).all fun q ↦ Quiet q
      | none => false
  | .drift _ => false

/-- The same for a list of moves. -/
def playsAll : Config World Call Answer PyExc → List (Move World Call Answer Request) → Bool
  | _, [] => true
  | c, m :: ms => plays c m && playsAll (c.play (D.system .any) m) ms

/-- A script that is played serially is a serial run, under a condition that its answers
meet. -/
theorem run_of_answers {ok : World → (q : Call) → Answer q → Prop}
    {c : Config World Call Answer PyExc} {ms : List (Move World Call Answer Request)}
    (hok : ∀ n answer, .resume n answer ∈ ms → ∀ w q a, answer q = some a → ok w q a)
    (h : D.playsAll c ms = true) :
    Run (D.system .any) (.serial Quiet (fun _ _ ↦ True) ok) c
      (c.playAll (D.system .any) ms) := by
  induction ms generalizing c with
  | nil => exact .refl
  | cons m ms ih =>
      rw [playsAll, Bool.and_eq_true] at h
      refine .head (Move.Allowed.step ?_)
        (ih (fun n answer hm ↦ hok n answer (List.mem_cons_of_mem _ hm)) h.2)
      have hm := h.1
      cases m with
      | start i => exact ⟨by simpa [plays] using hm, trivial⟩
      | drift s => cases hm
      | resume n answer =>
          simp only [plays] at hm
          simp only [Move.Allowed]
          cases hp : c.pool[n]? with
          | none => simp [hp] at hm
          | some p =>
              simp only [hp, Bool.and_eq_true] at hm ⊢
              obtain ⟨a, ha⟩ := Option.isSome_iff_exists.mp hm.1
              simp only [ha]
              refine ⟨trivial, fun q hq ↦ ?_, hok n answer (.head _) _ _ _ ha⟩
              exact of_decide_eq_true (List.all_eq_true.mp hm.2 q hq)

/-- A script that is played serially is a serial run. -/
theorem run_of_playsAll {c : Config World Call Answer PyExc}
    {ms : List (Move World Call Answer Request)} (h : D.playsAll c ms = true) :
    D.SerialRun c (c.playAll (D.system .any) ms) :=
  D.run_of_answers (fun _ _ _ _ _ _ _ ↦ trivial) h

end Deployment

end HightowerPos
