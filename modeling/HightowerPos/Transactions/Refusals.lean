import HightowerPos.Async.Refusal
import HightowerPos.Async.Stretch
import HightowerPos.Clients.WindcavePost
import HightowerPos.Transactions.Cancellable

/-!
# A refused request changes nothing

The operations on sales, refunds and tills look before they act: their refusals are raised while
they have only read, and what they raise after that is another exception.  So a request that is
refused has left the database as it found it, and has called nobody, whatever ran beside it.  An
operation on a transaction of the other type is refused at once.
-/

namespace HightowerPos

open Async

/-! ## Refusals -/

/-- The codes of the refusals among the `CheckoutError`s. -/
def CheckoutError.refusals : List String :=
  ["transaction_not_found", "invalid_state", "insufficient_tender", "price_missing",
    "not_a_completed_sale", "refund_window_expired", "already_refunded", "tender_mismatch",
    "missing_original_dps_txn_ref"]

/-- The exception is a refusal. -/
inductive PyExc.Refuses : PyExc → Prop
  | checkout {e : CheckoutError} (h : e.code ∈ CheckoutError.refusals) : Refuses (.checkout e)
  | till (e : TillError) : Refuses (.till e)

theorem PyExc.not_refuses {e : CheckoutError} (code : String) (hcode : e.code = code)
    (h : code ∉ CheckoutError.refusals := by decide) : ¬ (PyExc.checkout e).Refuses := by
  rintro ⟨hrefuses⟩
  exact h (hcode ▸ hrefuses)

/-- Windcave's client raises what it raises; anything else may be answered. -/
def Call.Told : (q : Call) → Answer q → Prop
  | .windcaveCharge _ _, a | .windcaveRefund _ _ _, a | .windcaveStatus _ _, a => Windcave.Raises a
  | .windcaveCancel _, a => Windcave.Raises a
  | _, _ => True

/-- What the methods of Windcave's client make of a post. -/
def Call.posted (parseXml : String → Except String Windcave.Element)
    (outcome : Nat → Windcave.Try) : (q : Call) → Option (Answer q)
  | .windcaveCharge _ _ | .windcaveRefund _ _ _ | .windcaveStatus _ _ =>
      some (Windcave.post parseXml outcome)
  | .windcaveCancel _ => some (Windcave.cancel parseXml outcome)
  | _ => none

theorem Call.told_posted {parseXml : String → Except String Windcave.Element}
    {outcome : Nat → Windcave.Try} (q : Call) (a : Answer q)
    (h : Call.posted parseXml outcome q = some a) : q.Told a := by
  cases q with
  | windcaveCharge | windcaveRefund | windcaveStatus =>
      obtain rfl := Option.some.inj h
      exact Windcave.raises_post
  | windcaveCancel =>
      obtain rfl := Option.some.inj h
      exact Windcave.raises_cancel
  | _ => cases h

/-- The result is no refusal. -/
def Granted {α : Type} (r : Except PyExc α) : Prop := ∀ e, r = .error e → ¬ e.Refuses

section Granted

variable {α β : Type}

theorem granted_ok (a : α) : Granted (.ok a : Except PyExc α) := fun _ h ↦ by cases h

theorem granted_error {e : PyExc} (he : ¬ e.Refuses) : Granted (.error e : Except PyExc α) := by
  rintro _ h
  cases h
  exact he

theorem Granted.bind {r : Except PyExc α} {f : α → Except PyExc β} (hr : Granted r)
    (hf : ∀ a, Granted (f a)) : Granted (r >>= f) := by
  cases r with
  | ok a => exact hf a
  | error e => exact granted_error (hr e rfl)

theorem granted_of_raises {r : Except PyExc α} (h : Windcave.Raises r) : Granted r := by
  intro e he hrefuses
  cases h e he <;> cases hrefuses

/-! ### Sentry -/

variable {rt : Runtime} {outcome : Attempts}

theorem granted_requestLoop (method path : String) (left attempt : Nat)
    (last : Option Sentry.LastExc) :
    Granted (Sentry.requestLoop outcome method path left attempt last) := by
  induction left generalizing attempt last with
  | zero =>
      cases last with
      | none => exact granted_error nofun
      | some last => cases last <;> exact granted_error nofun
  | succ left ih =>
      unfold Sentry.requestLoop
      split
      · split
        · exact ih _ _
        · exact granted_ok _
      · exact ih _ _
      · exact ih _ _
      · exact granted_error nofun

theorem granted_raiseForStatus (r : SentryResponse) : Granted (Sentry.raiseForStatus rt r) := by
  unfold Sentry.raiseForStatus
  dsimp only
  split
  · exact granted_ok _
  · exact granted_error nofun

theorem granted_parseBody (validate : Json → Option α) (r : SentryResponse) :
    Granted (Sentry.parseBody validate r) := by
  unfold Sentry.parseBody
  split
  · exact granted_error nofun
  · split
    · exact granted_error nofun
    · exact granted_ok _

theorem granted_validateCart : Granted (Sentry.validateCart rt outcome) := by
  refine (granted_requestLoop _ _ _ _ _).bind fun r ↦ ?_
  split
  · split
    · exact granted_error nofun
    · exact granted_ok _
  · exact (granted_raiseForStatus _).bind fun _ ↦ granted_parseBody _ _

theorem granted_created (validate : Json → Option α) (failed : String) (r : SentryResponse) :
    Granted (Sentry.created rt validate failed r) := by
  unfold Sentry.created
  split
  · exact granted_error nofun
  · exact (granted_raiseForStatus _).bind fun _ ↦ granted_parseBody _ _

theorem granted_createPosSo : Granted (Sentry.createPosSo rt outcome) :=
  (granted_requestLoop _ _ _ _ _).bind fun _ ↦ granted_created _ _ _

theorem granted_createPosRefund : Granted (Sentry.createPosRefund rt outcome) :=
  (granted_requestLoop _ _ _ _ _).bind fun _ ↦ granted_created _ _ _

end Granted

/-! ## Programs -/

/-- The program only reads. -/
abbrev Peeks {α : Type} (p : App α) : Prop := p.Looks Call.Told (fun _ ↦ True) fun _ ↦ False

/-- The program refuses only while it has only read. -/
abbrev Hesitates {α : Type} (p : App α) : Prop := p.Looks Call.Told (fun _ ↦ True) Granted

/-- The program does not refuse. -/
abbrev Proceeds {α : Type} (p : App α) : Prop := p.Ends Call.Told Granted

section Programs

variable {α β : Type} {rt : Runtime} {settings : Settings}

theorem Proceeds.hesitates {p : App α} (h : Proceeds p) : Hesitates p :=
  h.looks.mono (fun _ _ ↦ trivial) fun _ h ↦ h

theorem proceeds_bind {p : App α} {f : α → App β} (hp : Proceeds p)
    (hf : ∀ a, Proceeds (f a)) : Proceeds (p >>= f) := by
  refine ends_bind (hp.mono fun r hr ↦ ?_)
  cases r with
  | ok a => exact hf a
  | error e => exact granted_error (hr e rfl)

theorem hesitates_bind {p : App α} {f : α → App β} (hp : Peeks p)
    (hf : ∀ a, Hesitates (f a)) : Hesitates (p >>= f) := by
  refine looks_bind (hp.mono (fun r _ ↦ ?_) fun _ h ↦ h.elim)
  cases r with
  | ok a => exact hf a
  | error e => trivial

/-- What a program does after it has acted is to proceed. -/
theorem hesitates_seq {p : App α} {f : α → App β} (hp : Hesitates p)
    (hf : ∀ a, Proceeds (f a)) : Hesitates (p >>= f) := by
  refine looks_bind (hp.mono (fun r _ ↦ ?_) fun r hr ↦ ?_)
  · cases r with
    | ok a => exact (hf a).hesitates
    | error e => trivial
  · cases r with
    | ok a => exact hf a
    | error e => exact granted_error (hr e rfl)

theorem peeks_bind {p : App α} {f : α → App β} (hp : Peeks p) (hf : ∀ a, Peeks (f a)) :
    Peeks (p >>= f) := by
  refine looks_bind (hp.mono (fun r _ ↦ ?_) fun _ h ↦ h.elim)
  cases r with
  | ok a => exact hf a
  | error e => trivial

/-! ### Accesses -/

theorem peeks_read : Peeks (Prog.read : App World) := fun _ ↦ .inl ⟨rfl, trivial⟩

theorem peeks_getTransaction (x : Id) : Peeks (App.getTransaction x) :=
  peeks_bind peeks_read fun _ ↦ trivial

theorem peeks_ofExcept (r : Except PyExc α) : Peeks (App.ofExcept r) := by
  cases r <;> trivial

theorem peeks_ofTill (r : Except TillError α) : Peeks (Till.ofTill r) := by
  cases r <;> trivial

theorem peeks_bindIntegers (ns : List Int) : Peeks (App.bindIntegers ns) := by
  unfold App.bindIntegers
  split <;> trivial

theorem peeks_getOpenSession (cashierId : String) : Peeks (Till.getOpenSession cashierId) :=
  peeks_bind peeks_read fun _ ↦ trivial

theorem proceeds_pure (a : α) : Proceeds (.pure a : App α) := granted_ok a

theorem proceeds_raise {e : PyExc} (he : ¬ e.Refuses) : Proceeds (.raise e : App α) :=
  granted_error he

theorem proceeds_read : Proceeds (Prog.read : App World) := fun _ ↦ granted_ok _

theorem proceeds_commit (f : World → World) : Proceeds (App.commit f) := fun _ ↦ granted_ok _

theorem proceeds_saveTransaction (txn : POSTransaction) (u : TransactionUpdate) :
    Proceeds (App.saveTransaction txn u) := fun _ ↦ granted_ok _

theorem proceeds_getTransaction (x : Id) : Proceeds (App.getTransaction x) :=
  proceeds_bind proceeds_read fun _ ↦ granted_ok _

theorem proceeds_call (q : Call) : Proceeds (App.call q) := fun _ _ ↦ granted_ok _

theorem proceeds_bindText (s : PyStr) : Proceeds (App.bindText s) := by
  unfold App.bindText
  split
  · exact proceeds_pure _
  · exact proceeds_raise nofun

theorem proceeds_attributeTransaction (txn : POSTransaction) (isRefund : Bool) :
    Proceeds (Till.attributeTransaction txn isRefund) :=
  proceeds_bind (proceeds_bind proceeds_read fun _ ↦ proceeds_pure _) fun _ ↦ proceeds_pure _

theorem proceeds_enqueue (settings : Settings) (txn : POSTransaction) :
    Proceeds (FabricOutbox.enqueue settings txn) :=
  proceeds_bind proceeds_read fun _ ↦ proceeds_pure _

/-- A thread that awaits an answer has acted. -/
theorem hesitates_call {q : Call} {f : Answer q → App β}
    (hf : ∀ a, q.Told a → Proceeds (f a)) : Hesitates (App.call q >>= f) := hf

theorem proceeds_call_bind {q : Call} {f : Answer q → App β}
    (hf : ∀ a, q.Told a → Proceeds (f a)) : Proceeds (App.call q >>= f) := hf

/-! ### Sales -/

theorem peeks_lookupPrices (lines : List Checkout.CartLineIn) (missing : List String)
    (prices : List (String × Cents)) : Peeks (Checkout.lookupPrices lines missing prices) := by
  induction lines generalizing missing prices with
  | nil => trivial
  | cons line lines ih =>
      unfold Checkout.lookupPrices
      split
      · exact ih _ _
      · refine peeks_bind (peeks_bind peeks_read fun _ ↦ trivial) fun price ↦ ?_
        cases price with
        | none => exact ih _ _
        | some price => exact ih _ _

theorem proceeds_storeTransaction (d : Time → Draft POSTransaction POSTransaction.id) :
    Proceeds (Checkout.storeTransaction d) := fun _ ↦ granted_ok _

theorem proceeds_finishStart (txn : POSTransaction) (outcome : Attempts) :
    Proceeds (Checkout.finishStart rt txn outcome) := by
  unfold Checkout.finishStart
  split
  · refine proceeds_bind (proceeds_bindText _) fun error ↦ ?_
    refine proceeds_bind (proceeds_saveTransaction _ _) fun _ ↦ proceeds_raise ?_
    exact PyExc.not_refuses "sentry_unavailable" rfl
  · next herror => exact proceeds_raise (granted_validateCart _ herror)
  · split
    · exact proceeds_saveTransaction _ _
    · refine proceeds_bind (proceeds_saveTransaction _ _) fun _ ↦ proceeds_raise ?_
      exact PyExc.not_refuses "validation_failed" rfl

theorem hesitates_startCheckout (lines : List Checkout.CartLineIn) (cashierId : String)
    (customer : Option Checkout.CustomerAttachIn) :
    Hesitates (Checkout.startCheckout rt settings lines cashierId customer) := by
  unfold Checkout.startCheckout
  refine hesitates_bind (peeks_lookupPrices lines [] []) fun found ↦ ?_
  obtain ⟨missing, prices⟩ := found
  dsimp only
  split
  · trivial
  · refine hesitates_bind (peeks_ofExcept _) fun cart ↦ Proceeds.hesitates ?_
    refine proceeds_bind (proceeds_storeTransaction _) fun txn ↦ ?_
    exact proceeds_bind (proceeds_call _) fun outcome ↦ proceeds_finishStart txn outcome

theorem proceeds_finishSend (txn : POSTransaction) (request : CheckoutRequest)
    (outcome : Attempts) : Proceeds (Checkout.finishSend rt settings txn request outcome) := by
  unfold Checkout.finishSend
  split
  · refine proceeds_bind (proceeds_bindText _) fun error ↦ ?_
    refine proceeds_bind (proceeds_enqueue _ _) fun entry ↦ ?_
    refine proceeds_bind (proceeds_commit _) fun _ ↦ ?_
    exact proceeds_bind (proceeds_call _) fun _ ↦ proceeds_pure _
  · next herror => exact proceeds_raise (granted_createPosSo _ herror)
  · refine proceeds_bind (proceeds_attributeTransaction _ _) fun a ↦ ?_
    exact proceeds_bind (proceeds_enqueue _ _) fun entry ↦ proceeds_commit _

theorem proceeds_sendToSentry (txn : POSTransaction) (method : PaymentMethod) :
    Proceeds (Checkout.sendToSentry rt settings txn method) :=
  proceeds_bind proceeds_read fun _ ↦ proceeds_bind (proceeds_call _) fun _ ↦
    proceeds_finishSend _ _ _

theorem peeks_loadForPayment (x : Id) : Peeks (Checkout.loadForPayment x) := by
  unfold Checkout.loadForPayment
  refine peeks_bind (peeks_getTransaction x) fun row ↦ ?_
  cases row with
  | none => trivial
  | some txn =>
      dsimp only
      split
      · trivial
      · split <;> trivial

theorem hesitates_chargeCash (x : Id) (amount : Cents) :
    Hesitates (Checkout.chargeCash rt settings x amount) := by
  unfold Checkout.chargeCash
  refine hesitates_bind (peeks_loadForPayment x) fun txn ↦ ?_
  split
  · trivial
  · refine Proceeds.hesitates (proceeds_bind (proceeds_saveTransaction _ _) fun _ ↦ ?_)
    exact proceeds_sendToSentry _ _

theorem proceeds_finalizeCardCharge (txn : POSTransaction) (dirty : TransactionUpdate)
    (status : WindcaveStatusResponse) :
    Proceeds (Checkout.finalizeCardCharge rt settings txn dirty status) := by
  unfold Checkout.finalizeCardCharge
  dsimp only
  split
  · exact proceeds_bind (proceeds_saveTransaction _ _) fun _ ↦ proceeds_pure _
  · split
    · exact proceeds_bind (proceeds_saveTransaction _ _) fun _ ↦ proceeds_pure _
    · split
      · exact proceeds_raise nofun
      · exact proceeds_bind (proceeds_saveTransaction _ _) fun _ ↦ proceeds_sendToSentry _ _

theorem proceeds_pollLoop (x : Id) (fuel : Nat) (elapsedMs : Int) :
    Proceeds (Checkout.pollLoop settings x fuel elapsedMs) := by
  induction fuel generalizing elapsedMs with
  | zero =>
      unfold Checkout.pollLoop
      split
      · exact fun never _ ↦ (by cases never)
      · exact proceeds_pure _
  | succ fuel ih =>
      unfold Checkout.pollLoop
      split
      · refine proceeds_call_bind fun current htold ↦ ?_
        split
        · exact proceeds_bind (proceeds_call _) fun _ ↦ ih _
        · exact proceeds_raise (granted_of_raises htold _ rfl)
        · split
          · exact proceeds_pure _
          · exact proceeds_bind (proceeds_call _) fun _ ↦ ih _
      · exact proceeds_pure _

theorem proceeds_pollCardUntilComplete (fuel : Nat) (x : Id) :
    Proceeds (Checkout.pollCardUntilComplete rt settings fuel x) := by
  refine proceeds_bind (proceeds_pollLoop x fuel 0) fun finalStatus ↦ ?_
  unfold Checkout.finishPoll
  refine proceeds_bind (proceeds_getTransaction x) fun row ↦ ?_
  split
  · exact proceeds_pure _
  · split
    · exact proceeds_pure _
    · split
      · exact proceeds_bind (proceeds_saveTransaction _ _) fun _ ↦ proceeds_pure _
      · exact proceeds_finalizeCardCharge _ _ _

theorem hesitates_chargeCard (x : Id) : Hesitates (Checkout.chargeCard rt settings x) := by
  unfold Checkout.chargeCard
  refine hesitates_bind (peeks_loadForPayment x) fun txn ↦ ?_
  refine hesitates_bind (peeks_ofExcept _) fun _ ↦ hesitates_call fun initial htold ↦ ?_
  split
  · refine proceeds_bind (proceeds_saveTransaction _ _) fun _ ↦ proceeds_raise ?_
    exact PyExc.not_refuses "windcave_unavailable" rfl
  · exact proceeds_raise (granted_of_raises htold _ rfl)
  · split
    · exact proceeds_bind (proceeds_finalizeCardCharge _ _ _) fun _ ↦ proceeds_pure _
    · exact proceeds_bind (proceeds_saveTransaction _ _) fun _ ↦ proceeds_pure _

theorem hesitates_chargeCardRoute (fuel : Nat) (x : Id) :
    Hesitates (Checkout.chargeCardRoute rt settings fuel x) := by
  unfold Checkout.chargeCardRoute
  refine hesitates_seq (hesitates_chargeCard x) fun under ↦ ?_
  split
  · exact proceeds_bind (proceeds_call _) fun _ ↦ proceeds_pollCardUntilComplete _ _
  · exact proceeds_pure _

theorem hesitates_cancelCheckout (x : Id) : Hesitates (Checkout.cancelCheckout x) := by
  unfold Checkout.cancelCheckout
  refine hesitates_bind (peeks_getTransaction x) fun row ↦ ?_
  split
  · trivial
  · split
    · trivial
    · split
      · refine hesitates_call fun answer htold ↦ ?_
        split
        · exact proceeds_bind (proceeds_saveTransaction _ _) fun _ ↦ proceeds_pure _
        · exact proceeds_bind (proceeds_saveTransaction _ _) fun _ ↦ proceeds_pure _
        · exact proceeds_raise (granted_of_raises htold _ rfl)
      · refine Proceeds.hesitates ?_
        exact proceeds_bind (proceeds_saveTransaction _ _) fun _ ↦ proceeds_pure _

/-! ### Refunds -/

theorem peeks_lookupRefund (x : Id) : Peeks (Refund.lookupRefund settings x) := by
  unfold Refund.lookupRefund
  refine peeks_bind (peeks_getTransaction x) fun row ↦ ?_
  cases row with
  | none => trivial
  | some original =>
      dsimp only
      split
      · trivial
      · split
        · trivial
        · refine peeks_bind peeks_read fun w ↦ ?_
          split
          · trivial
          · refine peeks_bind (peeks_bind peeks_read fun _ ↦ trivial) fun blocker ↦ ?_
            cases blocker <;> trivial

theorem hesitates_startRefund (x : Id) (cashierId : String) :
    Hesitates (Refund.startRefund settings x cashierId) :=
  hesitates_bind (peeks_lookupRefund x) fun _ ↦ (proceeds_storeTransaction _).hesitates

theorem proceeds_finishSend_refund (refund original : POSTransaction) (request : RefundRequest)
    (outcome : Attempts) :
    Proceeds (Refund.finishSend rt settings refund original request outcome) := by
  unfold Refund.finishSend
  split
  · refine proceeds_bind (proceeds_bindText _) fun error ↦ ?_
    refine proceeds_bind (proceeds_enqueue _ _) fun entry ↦ ?_
    refine proceeds_bind (proceeds_commit _) fun _ ↦ ?_
    exact proceeds_bind (proceeds_call _) fun _ ↦ proceeds_pure _
  · next herror => exact proceeds_raise (granted_createPosRefund _ herror)
  · refine proceeds_bind (proceeds_attributeTransaction _ _) fun a ↦ ?_
    exact proceeds_bind (proceeds_enqueue _ _) fun entry ↦ proceeds_commit _

theorem proceeds_sendRefundToSentry (refund : POSTransaction) :
    Proceeds (Refund.sendRefundToSentry rt settings refund) := by
  unfold Refund.sendRefundToSentry
  refine proceeds_bind proceeds_read fun w ↦ ?_
  split
  · exact proceeds_raise nofun
  · exact proceeds_bind (proceeds_call _) fun _ ↦ proceeds_finishSend_refund _ _ _ _

theorem peeks_loadRefundForPayment (x : Id) : Peeks (Refund.loadRefundForPayment x) := by
  unfold Refund.loadRefundForPayment
  refine peeks_bind (peeks_getTransaction x) fun row ↦ ?_
  cases row with
  | none => trivial
  | some refund =>
      dsimp only
      split
      · trivial
      · split <;> trivial

theorem hesitates_chargeCashRefund (x : Id) :
    Hesitates (Refund.chargeCashRefund rt settings x) := by
  unfold Refund.chargeCashRefund
  refine hesitates_bind (peeks_loadRefundForPayment x) fun refund ↦ ?_
  split
  · trivial
  · refine Proceeds.hesitates (proceeds_bind (proceeds_saveTransaction _ _) fun _ ↦ ?_)
    exact proceeds_sendRefundToSentry _

theorem proceeds_finalizeRefundCharge (refund : POSTransaction)
    (status : WindcaveStatusResponse) :
    Proceeds (Refund.finalizeRefundCharge rt settings refund status) := by
  unfold Refund.finalizeRefundCharge
  dsimp only
  split
  · exact proceeds_bind (proceeds_saveTransaction _ _) fun _ ↦ proceeds_pure _
  · split
    · exact proceeds_bind (proceeds_saveTransaction _ _) fun _ ↦ proceeds_pure _
    · split
      · exact proceeds_raise nofun
      · exact proceeds_bind (proceeds_saveTransaction _ _) fun _ ↦ proceeds_sendRefundToSentry _

theorem hesitates_chargeCardRefund (x : Id) :
    Hesitates (Refund.chargeCardRefund rt settings x) := by
  unfold Refund.chargeCardRefund
  refine hesitates_bind (peeks_loadRefundForPayment x) fun refund ↦ ?_
  split
  · trivial
  · refine hesitates_bind peeks_read fun w ↦ ?_
    split
    · trivial
    · refine hesitates_call fun initial htold ↦ ?_
      split
      · refine proceeds_bind (proceeds_saveTransaction _ _) fun _ ↦ proceeds_raise ?_
        exact PyExc.not_refuses "windcave_unavailable" rfl
      · exact proceeds_raise (granted_of_raises htold _ rfl)
      · split
        · exact proceeds_bind (proceeds_finalizeRefundCharge _ _) fun _ ↦ proceeds_pure _
        · exact proceeds_bind (proceeds_saveTransaction _ _) fun _ ↦ proceeds_pure _

theorem proceeds_pollRefundUntilComplete (fuel : Nat) (x : Id) :
    Proceeds (Refund.pollRefundUntilComplete rt settings fuel x) := by
  refine proceeds_bind (proceeds_pollLoop x fuel 0) fun finalStatus ↦ ?_
  unfold Refund.finishPoll
  refine proceeds_bind (proceeds_getTransaction x) fun row ↦ ?_
  split
  · exact proceeds_pure _
  · split
    · exact proceeds_pure _
    · split
      · exact proceeds_bind (proceeds_saveTransaction _ _) fun _ ↦ proceeds_pure _
      · exact proceeds_finalizeRefundCharge _ _

theorem hesitates_chargeCardRefundRoute (fuel : Nat) (x : Id) :
    Hesitates (Refund.chargeCardRefundRoute rt settings fuel x) := by
  unfold Refund.chargeCardRefundRoute
  refine hesitates_seq (hesitates_chargeCardRefund x) fun under ↦ ?_
  split
  · exact proceeds_bind (proceeds_call _) fun _ ↦ proceeds_pollRefundUntilComplete _ _
  · exact proceeds_pure _

theorem hesitates_cancelRefund (x : Id) : Hesitates (Refund.cancelRefund x) := by
  unfold Refund.cancelRefund
  refine hesitates_bind (peeks_getTransaction x) fun row ↦ ?_
  split
  · trivial
  · split
    · trivial
    · split
      · trivial
      · refine Proceeds.hesitates ?_
        exact proceeds_bind (proceeds_saveTransaction _ _) fun _ ↦ proceeds_pure _

/-! ### Tills -/

theorem hesitates_openSession (cashierId terminalId : String) (counts : Denominations) :
    Hesitates (Till.openSession cashierId terminalId counts) := by
  unfold Till.openSession
  refine hesitates_bind (peeks_getOpenSession cashierId) fun session ↦ ?_
  split
  · trivial
  · refine hesitates_bind (peeks_ofTill _) fun float ↦ ?_
    refine hesitates_bind (peeks_bindIntegers _) fun _ w ↦ ?_
    -- the index may refuse the row, and nothing is written then
    split
    · exact .inr (granted_ok _)
    · trivial

theorem proceeds_tryRenderPdf (session : TillSession) : Proceeds (Till.tryRenderPdf session) := by
  unfold Till.tryRenderPdf
  refine proceeds_bind proceeds_read fun w ↦ ?_
  split
  · exact proceeds_pure _
  · refine proceeds_bind (proceeds_call _) fun rendered ↦ ?_
    split
    · exact proceeds_pure _
    · exact proceeds_commit _

theorem hesitates_closeSession (cashierId : String) (counts : Denominations) (renders : Bool) :
    Hesitates (Till.closeSession cashierId counts renders) := by
  unfold Till.closeSession
  refine hesitates_bind (peeks_getOpenSession cashierId) fun session ↦ ?_
  split
  · trivial
  · refine hesitates_bind (peeks_ofTill _) fun count ↦ ?_
    refine hesitates_bind (peeks_bindIntegers _) fun _ ↦ Proceeds.hesitates ?_
    refine proceeds_bind (proceeds_commit _) fun _ ↦ proceeds_bind proceeds_read fun w ↦ ?_
    split
    · split
      · exact proceeds_tryRenderPdf _
      · exact proceeds_raise nofun
    · exact proceeds_pure _

end Programs

/-! ## Operations -/

/-- The operations on sales, refunds and tills. -/
inductive Request.Operates : Request → Prop
  | startCheckout (lines : List Checkout.CartLineIn) (cashierId : String)
      (customer : Option Checkout.CustomerAttachIn) :
      Operates (.startCheckout lines cashierId customer)
  | chargeCash (x : Id) (amount : Cents) : Operates (.chargeCash x amount)
  | chargeCard (x : Id) : Operates (.chargeCard x)
  | cancelCheckout (x : Id) : Operates (.cancelCheckout x)
  | startRefund (x : Id) (cashierId : String) : Operates (.startRefund x cashierId)
  | chargeCashRefund (x : Id) : Operates (.chargeCashRefund x)
  | chargeCardRefund (x : Id) : Operates (.chargeCardRefund x)
  | cancelRefund (x : Id) : Operates (.cancelRefund x)
  | openTill (cashierId : String) (counts : Denominations) : Operates (.openTill cashierId counts)
  | closeTill (cashierId : String) (counts : Denominations) : Operates (.closeTill cashierId counts)

/-- The transaction that an operation is for, and the type that it has to have. -/
def Request.subject : Request → Option (Id × TxnType)
  | .chargeCash x _ | .chargeCard x | .cancelCheckout x | .startRefund x _ => some (x, .sale)
  | .chargeCashRefund x | .chargeCardRefund x | .cancelRefund x => some (x, .refund)
  | _ => none

section Operations

variable {D : Deployment} {i : Request}

theorem hesitates_handle (D : Deployment) (hi : i.Operates) : Hesitates (D.handle i) := by
  cases hi with
  | startCheckout lines cashierId customer =>
      exact hesitates_seq (hesitates_startCheckout lines cashierId customer) fun _ ↦ proceeds_pure _
  | chargeCash x amount => exact hesitates_chargeCash x amount
  | chargeCard x => exact hesitates_chargeCardRoute D.fuel x
  | cancelCheckout x => exact hesitates_cancelCheckout x
  | startRefund x cashierId =>
      exact hesitates_seq (hesitates_startRefund x cashierId) fun _ ↦ proceeds_pure _
  | chargeCashRefund x => exact hesitates_chargeCashRefund x
  | chargeCardRefund x => exact hesitates_chargeCardRefundRoute D.fuel x
  | cancelRefund x => exact hesitates_cancelRefund x
  | openTill cashierId counts =>
      exact hesitates_seq (hesitates_openSession cashierId _ counts) fun _ ↦ proceeds_pure _
  | closeTill cashierId counts => exact hesitates_closeSession cashierId counts true

/-! ### Operations on the other type -/

variable {w : World} {x : Id} {t : POSTransaction}

theorem stretch_loadForPayment_refund (hrow : w.db.transaction x = some t)
    (htype : t.txnType ≠ .sale) :
    (Checkout.loadForPayment x).stretch World.send w =
      (w, .over (.error (.checkout (.invalidState t.status)))) := by
  refine (App.stretch_getTransaction x _).trans ?_
  rw [hrow]
  dsimp only
  rw [if_pos htype]
  rfl

theorem stretch_loadRefundForPayment_sale (hrow : w.db.transaction x = some t)
    (htype : t.txnType ≠ .refund) :
    (Refund.loadRefundForPayment x).stretch World.send w =
      (w, .over (.error (.checkout .transactionNotFound))) := by
  refine (App.stretch_getTransaction x _).trans ?_
  rw [hrow]
  dsimp only
  rw [if_pos htype]
  rfl

theorem stretch_lookupRefund_refund {settings : Settings} (hrow : w.db.transaction x = some t)
    (htype : t.txnType ≠ .sale) :
    (Refund.lookupRefund settings x).stretch World.send w =
      (w, .over (.error (.checkout (.notACompletedSale t.status)))) := by
  refine (App.stretch_getTransaction x _).trans ?_
  rw [hrow]
  dsimp only
  rw [if_pos htype]
  rfl

theorem stretch_cancelRefund_sale (hrow : w.db.transaction x = some t)
    (htype : t.txnType ≠ .refund) :
    (Refund.cancelRefund x).stretch World.send w =
      (w, .over (.error (.checkout .transactionNotFound))) := by
  refine (App.stretch_getTransaction x _).trans ?_
  rw [hrow]
  dsimp only
  rw [if_pos htype]
  rfl

/-- `cancel_checkout` looks at the status only. -/
theorem stretch_cancelCheckout (hrow : w.db.transaction x = some t)
    (hstatus : ¬ t.status.Cancellable) :
    (Checkout.cancelCheckout x).stretch World.send w =
      (w, .over (.error (.checkout (.invalidState t.status)))) := by
  refine (App.stretch_getTransaction x _).trans ?_
  rw [hrow]
  dsimp only
  have hneither : t.status ≠ .awaitingPayment ∧ t.status ≠ .paymentInFlight := by
    constructor <;> intro h <;> rw [h] at hstatus
    · exact hstatus .awaitingPayment
    · exact hstatus .paymentInFlight
  rw [if_pos hneither]
  rfl

/-- **An operation on a transaction of the other type is refused at once.** -/
theorem stretch_handle_misapplied (D : Deployment) (hw : w.RefundsStand) {type : TxnType}
    (hi : i.subject = some (x, type)) (hrow : w.db.transaction x = some t)
    (htype : t.txnType ≠ type) :
    ∃ e, PyExc.Refuses e ∧ (D.handle i).stretch World.send w = (w, .over (.error e)) := by
  have hinvalid : (CheckoutError.invalidState t.status).code ∈ CheckoutError.refusals := by
    change "invalid_state" ∈ CheckoutError.refusals
    decide
  have hnotFound : CheckoutError.transactionNotFound.code ∈ CheckoutError.refusals := by decide
  have hnotComplete : (CheckoutError.notACompletedSale t.status).code ∈ CheckoutError.refusals := by
    change "not_a_completed_sale" ∈ CheckoutError.refusals
    decide
  cases i with
  | chargeCash y amount =>
      cases hi
      exact ⟨_, .checkout hinvalid,
        Prog.stretch_bind_error (stretch_loadForPayment_refund hrow htype)⟩
  | chargeCard y =>
      cases hi
      exact ⟨_, .checkout hinvalid, Prog.stretch_bind_error
        (Prog.stretch_bind_error (stretch_loadForPayment_refund hrow htype))⟩
  | cancelCheckout y =>
      cases hi
      have hrefund : t.txnType = .refund := by
        cases hkind : t.txnType with
        | sale => exact absurd hkind htype
        | refund => rfl
      exact ⟨_, .checkout hinvalid, stretch_cancelCheckout hrow (hw x t hrow hrefund)⟩
  | startRefund y cashierId =>
      cases hi
      exact ⟨_, .checkout hnotComplete, Prog.stretch_bind_error
        (Prog.stretch_bind_error (stretch_lookupRefund_refund hrow htype))⟩
  | chargeCashRefund y =>
      cases hi
      exact ⟨_, .checkout hnotFound,
        Prog.stretch_bind_error (stretch_loadRefundForPayment_sale hrow htype)⟩
  | chargeCardRefund y =>
      cases hi
      exact ⟨_, .checkout hnotFound, Prog.stretch_bind_error
        (Prog.stretch_bind_error (stretch_loadRefundForPayment_sale hrow htype))⟩
  | cancelRefund y =>
      cases hi
      exact ⟨_, .checkout hnotFound, stretch_cancelRefund_sale hrow htype⟩
  | _ => cases hi

/-- **A refused request changes nothing.**  Whatever the others did between its turns, and from
whatever state it ran alone, an operation that is refused has left the state as it found it and
has called nobody; and in every state that is reached, an operation on a transaction of the other
type is refused. -/
theorem refused_changes_nothing (D : Deployment) {c : Crew World Call Answer PyExc Request}
    (hw : w.RefundsStand) (hrun : Crew.Run (D.system .maintained) .free ⟨w, []⟩ c)
    (hi : i.Operates) :
    (∀ (moves : List (World × World)) (calls : List Call) (e : PyExc),
      (D.handle i).Turns World.send Call.Told moves calls (.raise e) → e.Refuses →
        calls = [] ∧ ∀ m ∈ moves, m.2 = m.1) ∧
    (∀ answer : (q : Call) → Option (Answer q), (∀ q a, answer q = some a → q.Told a) →
      ∀ (w' : World) (e : PyExc),
        (D.handle i).exec World.send answer c.state = (w', some (.error e)) → e.Refuses →
          w' = c.state) ∧
    ∀ (x : Id) (type : TxnType) (t : POSTransaction), i.subject = some (x, type) →
      c.state.db.transaction x = some t → t.txnType ≠ type →
        ∃ e, PyExc.Refuses e ∧
          (D.handle i).stretch World.send c.state = (c.state, .over (.error e)) := by
  have hhesitates := hesitates_handle D hi
  have hlate {e : PyExc} (he : e.Refuses) : ¬ Granted (.error e : Except PyExc Unit) :=
    fun hgranted ↦ hgranted e rfl he
  refine ⟨fun _ _ _ hturns he ↦ hhesitates.turns (hlate he) hturns, ?_, ?_⟩
  · intro answer hanswer w' e hexec he
    exact hhesitates.exec hanswer (hlate he) hexec
  · intro x type t hsubject hrow htype
    exact stretch_handle_misapplied D (refundsStand_run hw hrun) hsubject hrow htype

/-- A refund that is pending. -/
def World.refunding : World :=
  .sample { POSTransaction.sample .refundPending with txnType := .refund }

/-- `cancel_checkout` on a refund, and `charge_card_refund` of a refund that is not by card. -/
theorem refused_changes_nothing_refund :
    (∃ e, PyExc.Refuses e ∧ (Deployment.sample.handle (.cancelCheckout 0)).stretch World.send
      World.refunding = (World.refunding, .over (.error e))) ∧
    ∃ w' e, PyExc.Refuses e ∧
      (Deployment.sample.handle (.chargeCardRefund 0)).exec World.send
        (Call.posted (fun _ ↦ .error "no element found") fun _ ↦ .timeout "timed out")
        World.refunding = (w', some (.error e)) ∧ w' = World.refunding := by
  have hstand : World.refunding.RefundsStand := by
    intro x t ht _ hstatus
    obtain rfl := List.mem_singleton.mp (Table.mem_of_get? ht)
    cases hstatus
  obtain ⟨-, -, hmisapplied⟩ := refused_changes_nothing .sample hstand .refl (.cancelCheckout 0)
  obtain ⟨-, halone, -⟩ := refused_changes_nothing .sample hstand .refl (.chargeCardRefund 0)
  refine ⟨hmisapplied 0 .sale _ rfl rfl (by decide), ?_⟩
  obtain ⟨w', e, hexec, he⟩ : ∃ w' e, (Deployment.sample.handle (.chargeCardRefund 0)).exec
      World.send (Call.posted (fun _ ↦ .error "no element found") fun _ ↦ .timeout "timed out")
        World.refunding = (w', some (.error e)) ∧ PyExc.Refuses e :=
    ⟨_, .checkout (.tenderMismatch .card), rfl, .checkout (by decide)⟩
  exact ⟨w', e, he, hexec, halone _ Call.told_posted w' e hexec he⟩

end Operations

end HightowerPos
