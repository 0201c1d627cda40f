import HightowerPos.Async.Threads
import HightowerPos.Sale.Stored

/-!
# What a handler may do

Every access of every handler, whatever the other threads do between two of them: `Access` has
one case for each statement that the code issues.  What is known of a row that a handler has
read is that it was there in a state that the handler has read (`Scope.reads`).
-/

namespace HightowerPos

open Async

/-- The statuses in which `cancel_checkout` takes a transaction. -/
inductive Status.Cancellable : Status → Prop
  | awaitingPayment : Cancellable .awaitingPayment
  | paymentInFlight : Cancellable .paymentInFlight

/-- What is known of a handler: of the states that it reads, of the lines that it is asked to
sell and the sales that it is asked to refund, and whether it drains the outbox, opens and
closes tills or brings a sale to its payment. -/
structure Scope where
  reads : World → Prop
  cart : List Checkout.CartLineIn → Prop
  sale : Id → Prop
  drains : Prop
  tills : Prop := True
  pays : Prop := True

/-- An update makes no transaction one that `cancel_checkout` takes. -/
def TransactionUpdate.Spares (u : TransactionUpdate) : Prop :=
  ∀ t, (u.set t).status.Cancellable → t.status.Cancellable

/-- One access of a handler. -/
inductive Access (settings : Settings) (S : Scope) (w : World) : World → Prop
  | read : Access settings S w w
  | sent (q : Call) : Access settings S w (World.send q w)
  | saleStored {prices : List (String × Cents)} {lines : List Checkout.CartLineIn}
      {cart : List RichLine} {cashierId : String} {customer : Checkout.CustomerAttachIn}
      (hlines : S.cart lines)
      (hfound : ∀ sku price, prices.lookup sku = some price →
        ∃ w₀, S.reads w₀ ∧ Sale.priceOf w₀.db sku = some price)
      (hcart : List.Forall₂ (Sale.LineOf settings fun sku ↦ prices.lookup sku) lines cart) :
      Access settings S w
        (w.addTransaction (Checkout.newSale settings cart cashierId customer w.now))
  | refundStored {w₀ : World} {original : POSTransaction} {cashierId : String}
      (hsale : S.sale original.id) (hreads : S.reads w₀)
      (hrow : w₀.db.transaction original.id = some original)
      (htype : original.txnType = .sale) (hstatus : original.status = .complete) :
      Access settings S w (w.addTransaction (Refund.newRefund original cashierId w.now))
  | updated {x : Id} {u : TransactionUpdate} (hu : ∀ t, (u.set t).origin = t.origin)
      (hpays : S.pays ∨ u.Spares) : Access settings S w (w.updateTransaction x u)
  | notSent {x : Id} {u : TransactionUpdate} (hu : ∀ t, (u.set t).origin = t.origin)
      (hspares : u.Spares) {txn : POSTransaction} {completedAt now : Time} :
      Access settings S w ((w.updateTransaction x u).addOutboxEntry
        (FabricOutbox.newEntry settings txn completedAt now))
  | saleCompleted {txn held : POSTransaction} {soId : String} {a : Option Till.Attribution}
      {completedAt now : Time} :
      Access settings S w (Checkout.commitComplete txn soId a
        (FabricOutbox.newEntry settings held completedAt now) w)
  | refundCompleted {refund original held : POSTransaction} {soId : String}
      {a : Option Till.Attribution} {completedAt now : Time} :
      Access settings S w (Refund.commitComplete refund original soId a
        (FabricOutbox.newEntry settings held completedAt now) w)
  | refundRetried {x y : Id} {u : TransactionUpdate} (hu : ∀ t, (u.set t).origin = t.origin)
      (hspares : u.Spares) :
      Access settings S w ((w.updateTransaction x u).updateTransaction y (Refund.linked x))
  | tillOpened (h : S.tills) {d : Draft TillSession TillSession.id} :
      Access settings S w (w.addSession d)
  | tillUpdated (h : S.tills) {x : Id} {u : TillUpdate} : Access settings S w (w.updateSession x u)
  | requeued {x : Id} : Access settings S w (w.updateOutboxEntry x (FabricOutbox.requeued w.now))
  | claimed (h : S.drains) {ids : List Id} : Access settings S w (FabricOutbox.claimAll ids w)
  | resolved (h : S.drains) {x : Id} {u : OutboxUpdate} :
      Access settings S w (w.updateOutboxEntry x u)

/-- The program makes such accesses only. -/
def Treads {α : Type} (settings : Settings) (S : Scope) (p : App α) : Prop :=
  p.Guarantees World.send S.reads (Access settings S) fun _ ↦ True

/-! ## Rules -/

section Rules

variable {α β : Type} {settings : Settings} {S : Scope}

theorem treads_bind {p : App α} {f : α → App β} (hp : Treads settings S p)
    (hf : ∀ a, Treads settings S (f a)) : Treads settings S (p >>= f) := guarantees_seq hp hf

theorem treads_pure (a : α) : Treads settings S (.pure a : App α) := trivial

theorem treads_raise (e : PyExc) : Treads settings S (.raise e : App α) := trivial

theorem treads_read : Treads settings S (Prog.read : App World) := fun _ _ ↦ ⟨.read, trivial⟩

theorem treads_commit {f : World → World} (hf : ∀ w, Access settings S w (f w)) :
    Treads settings S (App.commit f) := fun w _ ↦ ⟨hf w, trivial⟩

theorem treads_call (q : Call) : Treads settings S (App.call q) :=
  fun _ _ ↦ ⟨.sent q, fun _ ↦ trivial⟩

theorem treads_getTransaction (id : Id) : Treads settings S (App.getTransaction id) :=
  treads_bind treads_read fun _ ↦ trivial

theorem treads_saveTransaction {txn : POSTransaction} {u : TransactionUpdate}
    (hu : ∀ t, (u.set t).origin = t.origin)
    (hspares : u.Spares := by intro t h; first | exact h | cases h) :
    Treads settings S (App.saveTransaction txn u) := fun _ _ ↦ ⟨.updated hu (.inr hspares), trivial⟩

/-- A sale is brought to its payment. -/
theorem treads_savePayment (h : S.pays) {txn : POSTransaction} {u : TransactionUpdate}
    (hu : ∀ t, (u.set t).origin = t.origin) : Treads settings S (App.saveTransaction txn u) :=
  fun _ _ ↦ ⟨.updated hu (.inl h), trivial⟩

theorem treads_bindText (s : PyStr) : Treads settings S (App.bindText s) := by
  unfold App.bindText
  split <;> trivial

theorem treads_ofExcept (r : Except PyExc α) : Treads settings S (App.ofExcept r) := by
  cases r <;> trivial

theorem treads_bindIntegers (ns : List Int) : Treads settings S (App.bindIntegers ns) := by
  unfold App.bindIntegers
  split <;> trivial

theorem treads_ofTill (r : Except TillError α) : Treads settings S (Till.ofTill r) := by
  cases r <;> trivial

theorem treads_getOpenSession (cashierId : String) :
    Treads settings S (Till.getOpenSession cashierId) := treads_bind treads_read fun _ ↦ trivial

theorem treads_attributeTransaction (txn : POSTransaction) (isRefund : Bool) :
    Treads settings S (Till.attributeTransaction txn isRefund) :=
  treads_bind (treads_getOpenSession _) fun _ ↦ trivial

/-- What a program that is entered with `P` returns. -/
theorem treads_bind_of {p : App α} {f : α → App β} {P : α → Prop}
    (hp : p.Guarantees World.send S.reads (Access settings S) fun r ↦ ∀ a, r = .ok a → P a)
    (hf : ∀ a, P a → Treads settings S (f a)) : Treads settings S (p >>= f) := by
  refine guarantees_bind (hp.mono fun r hr ↦ ?_)
  cases r with
  | ok a => exact hf a (hr a rfl)
  | error e => trivial

end Rules

/-! ## Starting a sale -/

section Starting

variable {rt : Runtime} {settings : Settings} {S : Scope}

/-- The prices were there in states that were read. -/
def Scope.Prices (S : Scope) (prices : List (String × Cents)) : Prop :=
  ∀ sku price, prices.lookup sku = some price →
    ∃ w₀, S.reads w₀ ∧ Sale.priceOf w₀.db sku = some price

theorem Scope.Prices.append {prices : List (String × Cents)} {sku : String} {price : Cents}
    (h : S.Prices prices) {w : World} (hw : S.reads w) (hsku : Sale.priceOf w.db sku = some price) :
    S.Prices (prices ++ [(sku, price)]) := by
  intro sku' price' hlookup
  rcases Sale.lookup_appended hlookup with hfound | ⟨rfl, rfl⟩
  · exact h sku' price' hfound
  · exact ⟨w, hw, hsku⟩

/-- What the first loop has found when it ends. -/
structure Looked (S : Scope) (lines : List Checkout.CartLineIn) (missing : List String)
    (prices : List (String × Cents)) (out : List String × List (String × Cents)) : Prop where
  found : S.Prices out.2
  kept : ∀ sku, (prices.lookup sku).isSome → (out.2.lookup sku).isSome
  missing : ∀ sku ∈ missing, sku ∈ out.1
  lines : ∀ line ∈ lines, line.sku ∈ out.1 ∨ (out.2.lookup line.sku).isSome

theorem guarantees_getPriceCents {α : Type} {sku : String} {f : Option Cents → App α}
    {P : Except PyExc α → Prop}
    (h : ∀ w, S.reads w →
      (f (Sale.priceOf w.db sku)).Guarantees World.send S.reads (Access settings S) P) :
    (Checkout.getPriceCents sku >>= f).Guarantees World.send S.reads (Access settings S) P :=
  fun w hw ↦ ⟨.read, h w hw⟩

theorem guarantees_lookupPrices (lines : List Checkout.CartLineIn) (missing : List String)
    {prices : List (String × Cents)} (h : S.Prices prices) :
    (Checkout.lookupPrices lines missing prices).Guarantees World.send S.reads (Access settings S)
      fun r ↦ ∀ found, r = .ok found → Looked S lines missing prices found := by
  induction lines generalizing missing prices with
  | nil =>
      rintro found hfound
      obtain rfl := Except.ok.inj hfound
      exact ⟨h, fun _ hs ↦ hs, fun _ hm ↦ hm, nofun⟩
  | cons line lines ih =>
      unfold Checkout.lookupPrices
      split
      · next hknown =>
          refine (ih missing h).mono fun r hr found hfound ↦ ?_
          obtain ⟨hprices, hkept, hmissing, hlines⟩ := hr found hfound
          refine ⟨hprices, hkept, hmissing, fun l hl ↦ ?_⟩
          rcases List.mem_cons.mp hl with rfl | hl
          · exact .inr (hkept _ hknown)
          · exact hlines l hl
      · refine guarantees_getPriceCents fun w hw ↦ ?_
        cases hprice : Sale.priceOf w.db line.sku with
        | none =>
            refine (ih _ h).mono fun r hr found hfound ↦ ?_
            obtain ⟨hprices, hkept, hmissing, hlines⟩ := hr found hfound
            have hmem : line.sku ∈ found.1 := by
              refine hmissing _ ?_
              split
              · assumption
              · exact List.mem_append_right _ (.head _)
            refine ⟨hprices, hkept, fun sku hsku ↦ hmissing sku ?_, fun l hl ↦ ?_⟩
            · split
              · exact hsku
              · exact List.mem_append_left _ hsku
            · rcases List.mem_cons.mp hl with rfl | hl
              · exact .inl hmem
              · exact hlines l hl
        | some price =>
            refine (ih missing (h.append hw hprice)).mono fun r hr found hfound ↦ ?_
            obtain ⟨hprices, hkept, hmissing, hlines⟩ := hr found hfound
            refine ⟨hprices, fun sku hsku ↦ hkept sku ?_, hmissing, fun l hl ↦ ?_⟩
            · rw [List.lookup_append]
              simp [hsku]
            · rcases List.mem_cons.mp hl with rfl | hl
              · refine .inr (hkept _ ?_)
                rw [List.lookup_append, List.lookup_cons_self]
                simp
              · exact hlines l hl

theorem treads_finishStart (h : S.pays) (txn : POSTransaction) (outcome : Attempts) :
    Treads settings S (Checkout.finishStart rt txn outcome) := by
  unfold Checkout.finishStart
  split
  · refine treads_bind (treads_bindText _) fun error ↦ ?_
    exact treads_bind (treads_saveTransaction fun _ ↦ rfl) fun _ ↦ treads_raise _
  · exact treads_raise _
  · split
    · exact treads_savePayment h fun _ ↦ rfl
    · exact treads_bind (treads_saveTransaction fun _ ↦ rfl) fun _ ↦ treads_raise _

theorem treads_startCheckout {lines : List Checkout.CartLineIn} (hlines : S.cart lines)
    (hpays : S.pays) (cashierId : String) (customer : Option Checkout.CustomerAttachIn) :
    Treads settings S (Checkout.startCheckout rt settings lines cashierId customer) := by
  unfold Checkout.startCheckout
  refine treads_bind_of (guarantees_lookupPrices lines [] fun _ _ h ↦ by cases h) fun found h ↦ ?_
  obtain ⟨missing, prices⟩ := found
  dsimp only
  split
  · exact treads_raise _
  · next hmissing =>
      cases hcart : lines.mapM (Checkout.richLine settings prices) with
      | error e => exact treads_raise e
      | ok cart =>
          have hpriced : ∀ line ∈ lines, (prices.lookup line.sku).isSome := by
            intro line hline
            refine (h.lines line hline).resolve_left fun hmem ↦ ?_
            rw [not_not.mp hmissing] at hmem
            cases hmem
          refine fun w _ ↦ ⟨.saleStored hlines h.found (Sale.lineOf_richLines hpriced hcart), ?_⟩
          change Treads settings S (Prog.pure _ >>= fun txn ↦ _)
          rw [Prog.pure_bind]
          exact treads_bind (treads_call _) fun outcome ↦ treads_finishStart hpays _ _

end Starting

/-! ## Sales -/

section Sales

variable {rt : Runtime} {settings : Settings} {S : Scope}

theorem treads_finishSend (txn : POSTransaction) (request : CheckoutRequest)
    (outcome : Attempts) :
    Treads settings S (Checkout.finishSend rt settings txn request outcome) := by
  unfold Checkout.finishSend
  split
  · refine treads_bind (treads_bindText _) fun error ↦ ?_
    -- the status and the entry are one commit
    intro w _
    refine ⟨.read, fun w' _ ↦ ⟨.notSent (fun _ ↦ rfl) (fun t h ↦ (by cases h)), ?_⟩⟩
    exact fun w'' _ ↦ ⟨.sent _, fun _ ↦ trivial⟩
  · exact treads_raise _
  · refine treads_bind (treads_attributeTransaction _ _) fun a ↦ ?_
    intro w _
    exact ⟨.read, fun w' _ ↦ ⟨.saleCompleted, trivial⟩⟩

theorem treads_sendToSentry (txn : POSTransaction) (method : PaymentMethod) :
    Treads settings S (Checkout.sendToSentry rt settings txn method) :=
  treads_bind treads_read fun _ ↦ treads_bind (treads_call _) fun _ ↦ treads_finishSend _ _ _

theorem treads_loadForPayment (txnId : Id) : Treads settings S (Checkout.loadForPayment txnId) := by
  unfold Checkout.loadForPayment
  refine treads_bind (treads_getTransaction _) fun row ↦ ?_
  cases row with
  | none => exact treads_raise _
  | some txn =>
      dsimp only
      split
      · exact treads_raise _
      · split
        · exact treads_raise _
        · exact treads_pure _

theorem treads_chargeCash (txnId : Id) (amount : Cents) :
    Treads settings S (Checkout.chargeCash rt settings txnId amount) := by
  unfold Checkout.chargeCash
  refine treads_bind (treads_loadForPayment _) fun txn ↦ ?_
  split
  · exact treads_raise _
  · exact treads_bind (treads_saveTransaction fun _ ↦ rfl) fun _ ↦ treads_sendToSentry _ _

theorem treads_finalizeCardCharge (txn : POSTransaction) {dirty : TransactionUpdate}
    (hdirty : ∀ t, (dirty.set t).origin = t.origin) (status : WindcaveStatusResponse) :
    Treads settings S (Checkout.finalizeCardCharge rt settings txn dirty status) := by
  unfold Checkout.finalizeCardCharge
  dsimp only
  split
  · exact treads_bind (treads_saveTransaction hdirty) fun _ ↦ treads_pure _
  · split
    · exact treads_bind (treads_saveTransaction hdirty) fun _ ↦ treads_pure _
    · split
      · exact treads_raise _
      · exact treads_bind (treads_saveTransaction hdirty) fun _ ↦ treads_sendToSentry _ _

theorem treads_pollLoop (txnId : Id) (fuel : Nat) (elapsedMs : Int) :
    Treads settings S (Checkout.pollLoop settings txnId fuel elapsedMs) := by
  induction fuel generalizing elapsedMs with
  | zero =>
      unfold Checkout.pollLoop
      split
      · exact treads_bind (treads_call _) fun never ↦ (by cases never)
      · exact treads_pure _
  | succ fuel ih =>
      unfold Checkout.pollLoop
      split
      · refine treads_bind (treads_call _) fun current ↦ ?_
        split
        · exact treads_bind (treads_call _) fun _ ↦ ih _
        · exact treads_raise _
        · split
          · exact treads_pure _
          · exact treads_bind (treads_call _) fun _ ↦ ih _
      · exact treads_pure _

theorem treads_pollCardUntilComplete (fuel : Nat) (txnId : Id) :
    Treads settings S (Checkout.pollCardUntilComplete rt settings fuel txnId) := by
  refine treads_bind (treads_pollLoop _ _ _) fun final ↦ ?_
  unfold Checkout.finishPoll
  refine treads_bind (treads_getTransaction _) fun row ↦ ?_
  split
  · exact treads_pure _
  · split
    · exact treads_pure _
    · split
      · exact treads_bind (treads_saveTransaction fun _ ↦ rfl) fun _ ↦ treads_pure _
      · exact treads_finalizeCardCharge _ (fun _ ↦ rfl) _

theorem treads_chargeCard (h : S.pays) (txnId : Id) :
    Treads settings S (Checkout.chargeCard rt settings txnId) := by
  unfold Checkout.chargeCard
  refine treads_bind (treads_loadForPayment _) fun txn ↦ ?_
  refine treads_bind (treads_ofExcept _) fun _ ↦ ?_
  refine treads_bind (treads_call _) fun initial ↦ ?_
  split
  · exact treads_bind (treads_saveTransaction fun _ ↦ rfl) fun _ ↦ treads_raise _
  · exact treads_raise _
  · split
    · exact treads_bind (treads_finalizeCardCharge _ (fun _ ↦ rfl) _) fun _ ↦ treads_pure _
    · exact treads_bind (treads_savePayment h fun _ ↦ rfl) fun _ ↦ treads_pure _

theorem treads_chargeCardRoute (h : S.pays) (fuel : Nat) (txnId : Id) :
    Treads settings S (Checkout.chargeCardRoute rt settings fuel txnId) := by
  refine treads_bind (treads_chargeCard h _) fun underWay ↦ ?_
  split
  · exact treads_bind (treads_call _) fun _ ↦ treads_pollCardUntilComplete _ _
  · exact treads_pure _

theorem treads_cancelCheckout (txnId : Id) : Treads settings S (Checkout.cancelCheckout txnId) := by
  unfold Checkout.cancelCheckout
  refine treads_bind (treads_getTransaction _) fun row ↦ ?_
  split
  · exact treads_raise _
  · split
    · exact treads_raise _
    · split
      · refine treads_bind (treads_call _) fun answer ↦ ?_
        split
        · exact treads_bind (treads_saveTransaction fun _ ↦ rfl) fun _ ↦ treads_pure _
        · exact treads_bind (treads_saveTransaction fun _ ↦ rfl) fun _ ↦ treads_pure _
        · exact treads_raise _
      · exact treads_bind (treads_saveTransaction fun _ ↦ rfl) fun _ ↦ treads_pure _

end Sales

/-! ## Refunds -/

section Refunds

variable {rt : Runtime} {settings : Settings} {S : Scope}

/-- The sale that a refund is started from was read. -/
structure Scope.Original (S : Scope) (x : Id) (original : POSTransaction) : Prop where
  id : original.id = x
  row : ∃ w₀, S.reads w₀ ∧ w₀.db.transaction x = some original
  txnType : original.txnType = .sale
  status : original.status = .complete

theorem guarantees_refused {α : Type} {P : α → Prop} (e : PyExc) :
    (Prog.raise e : App α).Guarantees World.send S.reads (Access settings S)
      fun r ↦ ∀ a, r = .ok a → P a := by
  intro a h
  cases h

theorem guarantees_getTransaction {α : Type} {x : Id} {f : Option POSTransaction → App α}
    {P : Except PyExc α → Prop}
    (h : ∀ w, S.reads w →
      (f (w.db.transaction x)).Guarantees World.send S.reads (Access settings S) P) :
    (App.getTransaction x >>= f).Guarantees World.send S.reads (Access settings S) P :=
  fun w hw ↦ ⟨.read, h w hw⟩

theorem guarantees_existingBlockingRefund {α : Type} {x : Id} {f : Option POSTransaction → App α}
    {P : Except PyExc α → Prop}
    (h : ∀ blocker, (f blocker).Guarantees World.send S.reads (Access settings S) P) :
    (Refund.existingBlockingRefund x >>= f).Guarantees World.send S.reads (Access settings S) P :=
  fun _ _ ↦ ⟨.read, h _⟩

theorem guarantees_lookupRefund (originalId : Id) :
    (Refund.lookupRefund settings originalId).Guarantees World.send S.reads (Access settings S)
      fun r ↦ ∀ original, r = .ok original → S.Original originalId original := by
  unfold Refund.lookupRefund
  refine guarantees_getTransaction fun w hw ↦ ?_
  cases hrow : w.db.transaction originalId with
  | none => exact guarantees_refused _
  | some original =>
      obtain rfl : original.id = originalId := Table.key_of_get? hrow
      dsimp only
      split
      · exact guarantees_refused _
      · next htype =>
          split
          · exact guarantees_refused _
          · next hstatus =>
              refine fun w₁ _ ↦ ⟨.read, ?_⟩
              dsimp only [Prog.bind]
              split
              · exact guarantees_refused _
              · refine guarantees_existingBlockingRefund fun blocker ↦ ?_
                cases blocker with
                | some blocker => exact guarantees_refused _
                | none =>
                    rintro original' heq
                    obtain rfl := Except.ok.inj heq
                    exact ⟨rfl, ⟨w, hw, hrow⟩, not_not.mp htype, not_not.mp hstatus⟩

theorem treads_lookupRefund (originalId : Id) :
    Treads settings S (Refund.lookupRefund settings originalId) :=
  (guarantees_lookupRefund originalId).mono fun _ _ ↦ trivial

theorem treads_startRefund {originalId : Id} (hsale : S.sale originalId) (cashierId : String) :
    Treads settings S (Refund.startRefund settings originalId cashierId) := by
  refine treads_bind_of (guarantees_lookupRefund originalId) fun original h ↦ ?_
  obtain ⟨rfl, ⟨w₀, hreads, hrow⟩, htype, hstatus⟩ := h
  exact fun w _ ↦ ⟨.refundStored hsale hreads hrow htype hstatus, trivial⟩

theorem treads_finishSendRefund (refund original : POSTransaction) (request : RefundRequest)
    (outcome : Attempts) :
    Treads settings S (Refund.finishSend rt settings refund original request outcome) := by
  unfold Refund.finishSend
  split
  · refine treads_bind (treads_bindText _) fun error ↦ ?_
    intro w _
    refine ⟨.read, fun w' _ ↦ ⟨.notSent (fun _ ↦ rfl) (fun t h ↦ (by cases h)), ?_⟩⟩
    exact fun w'' _ ↦ ⟨.sent _, fun _ ↦ trivial⟩
  · exact treads_raise _
  · refine treads_bind (treads_attributeTransaction _ _) fun a ↦ ?_
    intro w _
    exact ⟨.read, fun w' _ ↦ ⟨.refundCompleted, trivial⟩⟩

theorem treads_sendRefundToSentry (refund : POSTransaction) :
    Treads settings S (Refund.sendRefundToSentry rt settings refund) := by
  refine treads_bind treads_read fun w ↦ ?_
  split
  · exact treads_raise _
  · exact treads_bind (treads_call _) fun _ ↦ treads_finishSendRefund _ _ _ _

theorem treads_loadRefundForPayment (refundId : Id) :
    Treads settings S (Refund.loadRefundForPayment refundId) := by
  unfold Refund.loadRefundForPayment
  refine treads_bind (treads_getTransaction _) fun row ↦ ?_
  split
  · exact treads_raise _
  · split
    · exact treads_raise _
    · split
      · exact treads_raise _
      · exact treads_pure _

theorem treads_chargeCashRefund (refundId : Id) :
    Treads settings S (Refund.chargeCashRefund rt settings refundId) := by
  unfold Refund.chargeCashRefund
  refine treads_bind (treads_loadRefundForPayment _) fun refund ↦ ?_
  split
  · exact treads_raise _
  · exact treads_bind (treads_saveTransaction fun _ ↦ rfl) fun _ ↦ treads_sendRefundToSentry _

theorem treads_finalizeRefundCharge (refund : POSTransaction) (status : WindcaveStatusResponse) :
    Treads settings S (Refund.finalizeRefundCharge rt settings refund status) := by
  unfold Refund.finalizeRefundCharge
  dsimp only
  split
  · exact treads_bind (treads_saveTransaction fun _ ↦ rfl) fun _ ↦ treads_pure _
  · split
    · exact treads_bind (treads_saveTransaction fun _ ↦ rfl) fun _ ↦ treads_pure _
    · split
      · exact treads_raise _
      · exact treads_bind (treads_saveTransaction fun _ ↦ rfl) fun _ ↦ treads_sendRefundToSentry _

theorem treads_pollRefundUntilComplete (fuel : Nat) (refundId : Id) :
    Treads settings S (Refund.pollRefundUntilComplete rt settings fuel refundId) := by
  refine treads_bind (treads_pollLoop _ _ _) fun final ↦ ?_
  unfold Refund.finishPoll
  refine treads_bind (treads_getTransaction _) fun row ↦ ?_
  split
  · exact treads_pure _
  · split
    · exact treads_pure _
    · split
      · exact treads_bind (treads_saveTransaction fun _ ↦ rfl) fun _ ↦ treads_pure _
      · exact treads_finalizeRefundCharge _ _

theorem treads_chargeCardRefund (refundId : Id) :
    Treads settings S (Refund.chargeCardRefund rt settings refundId) := by
  unfold Refund.chargeCardRefund
  refine treads_bind (treads_loadRefundForPayment _) fun refund ↦ ?_
  split
  · exact treads_raise _
  · refine treads_bind treads_read fun w ↦ ?_
    split
    · exact treads_raise _
    · refine treads_bind (treads_call _) fun initial ↦ ?_
      split
      · exact treads_bind (treads_saveTransaction fun _ ↦ rfl) fun _ ↦ treads_raise _
      · exact treads_raise _
      · split
        · exact treads_bind (treads_finalizeRefundCharge _ _) fun _ ↦ treads_pure _
        · exact treads_bind (treads_saveTransaction fun _ ↦ rfl) fun _ ↦ treads_pure _

theorem treads_chargeCardRefundRoute (fuel : Nat) (refundId : Id) :
    Treads settings S (Refund.chargeCardRefundRoute rt settings fuel refundId) := by
  refine treads_bind (treads_chargeCardRefund _) fun underWay ↦ ?_
  split
  · exact treads_bind (treads_call _) fun _ ↦ treads_pollRefundUntilComplete _ _
  · exact treads_pure _

theorem treads_cancelRefund (refundId : Id) : Treads settings S (Refund.cancelRefund refundId) := by
  unfold Refund.cancelRefund
  refine treads_bind (treads_getTransaction _) fun row ↦ ?_
  split
  · exact treads_raise _
  · split
    · exact treads_raise _
    · split
      · exact treads_raise _
      · exact treads_bind (treads_saveTransaction fun _ ↦ rfl) fun _ ↦ treads_pure _

end Refunds

/-! ## Reconciliation -/

section Reconciliation

variable {rt : Runtime} {settings : Settings} {S : Scope}

theorem treads_retryOneSale (txn : POSTransaction) :
    Treads settings S (Reconciliation.retryOneSale rt txn) := by
  refine treads_bind treads_read fun w ↦ treads_bind (treads_call _) fun outcome ↦ ?_
  unfold Reconciliation.finishRetrySale
  split
  · refine treads_bind (treads_bindText _) fun error ↦ ?_
    exact treads_bind (treads_saveTransaction fun _ ↦ rfl) fun _ ↦ treads_pure _
  · exact treads_raise _
  · exact treads_bind (treads_saveTransaction fun _ ↦ rfl) fun _ ↦ treads_pure _

theorem treads_retryOneRefund (refund : POSTransaction) :
    Treads settings S (Reconciliation.retryOneRefund rt refund) := by
  refine treads_bind treads_read fun w ↦ ?_
  split
  · exact treads_pure _
  · refine treads_bind (treads_call _) fun outcome ↦ ?_
    unfold Reconciliation.finishRetryRefund
    split
    · refine treads_bind (treads_bindText _) fun error ↦ ?_
      exact treads_bind (treads_saveTransaction fun _ ↦ rfl) fun _ ↦ treads_pure _
    · exact treads_raise _
    · refine treads_bind (treads_commit fun _ ↦ ?_) fun _ ↦ treads_pure _
      exact .refundRetried (fun _ ↦ rfl) fun t h ↦ by cases h

theorem treads_retrySentry (txnId : Id) :
    Treads settings S (Reconciliation.retrySentry rt txnId) := by
  unfold Reconciliation.retrySentry
  refine treads_bind (treads_getTransaction _) fun row ↦ ?_
  split
  · exact treads_raise _
  · split
    · split
      · exact treads_raise _
      · exact treads_bind (treads_retryOneSale _) fun _ ↦ treads_pure _
    · split
      · exact treads_raise _
      · exact treads_bind (treads_retryOneRefund _) fun _ ↦ treads_pure _

theorem treads_retryAll {retryOne : POSTransaction → App Bool}
    (h : ∀ txn, Treads settings S (retryOne txn))
    (txns : List POSTransaction) (report : Reconciliation.RetryReport) :
    Treads settings S (Reconciliation.retryAll retryOne txns report) := by
  induction txns generalizing report with
  | nil => exact treads_pure _
  | cons txn txns ih =>
      unfold Reconciliation.retryAll
      refine treads_bind (h txn) fun sent ↦ ?_
      split
      · exact ih _
      · exact ih _

theorem treads_rowsIn (type : TxnType) (status : Status) :
    Treads settings S (Reconciliation.rowsIn type status) :=
  treads_bind treads_read fun _ ↦ treads_pure _

end Reconciliation

/-! ## The till -/

section Till

variable {settings : Settings} {S : Scope}

theorem treads_openSession (h : S.tills) (cashierId terminalId : String) (counts : Denominations) :
    Treads settings S (Till.openSession cashierId terminalId counts) := by
  unfold Till.openSession
  refine treads_bind (treads_getOpenSession _) fun existing ↦ ?_
  split
  · exact treads_raise _
  · refine treads_bind (treads_ofTill _) fun openingFloat ↦ ?_
    refine treads_bind (treads_bindIntegers _) fun _ ↦ ?_
    intro w _
    by_cases hsome : (w.db.openSession cashierId).isSome = true
    · simp only [hsome, if_true]
    · simp only [hsome, if_false, Bool.false_eq_true]
      exact ⟨.tillOpened h, trivial⟩

theorem treads_tryRenderPdf (h : S.tills) (session : TillSession) :
    Treads settings S (Till.tryRenderPdf session) := by
  unfold Till.tryRenderPdf
  refine treads_bind treads_read fun w ↦ ?_
  split
  · exact treads_pure _
  · refine treads_bind (treads_call _) fun rendered ↦ ?_
    split
    · exact treads_pure _
    · exact treads_commit fun _ ↦ .tillUpdated h

theorem treads_closeSession (h : S.tills) (cashierId : String) (counts : Denominations)
    (renders : Bool) : Treads settings S (Till.closeSession cashierId counts renders) := by
  unfold Till.closeSession
  refine treads_bind (treads_getOpenSession _) fun session ↦ ?_
  split
  · exact treads_raise _
  · refine treads_bind (treads_ofTill _) fun closingCount ↦ ?_
    refine treads_bind (treads_bindIntegers _) fun _ ↦ ?_
    refine treads_bind (treads_commit fun _ ↦ .tillUpdated h) fun _ ↦ ?_
    refine treads_bind treads_read fun w ↦ ?_
    split
    · split
      · exact treads_tryRenderPdf h _
      · exact treads_raise _
    · exact treads_pure _

end Till

/-! ## The outbox -/

section Outbox

variable {rt : Runtime} {settings : Settings} {S : Scope}

theorem treads_retryFabricOutboxEntry (id : Id) :
    Treads settings S (FabricOutbox.retryFabricOutboxEntry id) := by
  unfold FabricOutbox.retryFabricOutboxEntry
  refine treads_bind (treads_bind treads_read fun _ ↦ treads_pure _) fun entry ↦ ?_
  split
  · exact treads_raise _
  · split
    · exact treads_commit fun _ ↦ .requeued
    · exact treads_raise _

theorem treads_getEntry (id : Id) : Treads settings S (FabricOutbox.getEntry id) :=
  treads_bind treads_read fun _ ↦ treads_pure _

theorem treads_markFailed (h : S.drains) (id : Id) (error : String) :
    Treads settings S (FabricOutbox.markFailed id error) := by
  unfold FabricOutbox.markFailed
  refine treads_bind (treads_getEntry id) fun entry ↦ ?_
  cases entry with
  | none => exact treads_pure _
  | some entry => exact treads_bind (treads_commit fun _ ↦ .resolved h) fun _ ↦ treads_pure _

theorem treads_markDelivered (h : S.drains) (id : Id) (soId : Json) :
    Treads settings S (FabricOutbox.markDelivered rt id soId) := by
  unfold FabricOutbox.markDelivered
  refine treads_bind (treads_getEntry id) fun entry ↦ ?_
  cases entry with
  | none => exact treads_pure _
  | some entry =>
      exact treads_bind (treads_ofExcept _) fun _ ↦ treads_commit fun _ ↦ .resolved h

theorem treads_drainEntries (h : S.drains) (ids : List Id) (res : FabricOutbox.DrainResult) :
    Treads settings S (FabricOutbox.drainEntries rt ids res) := by
  induction ids generalizing res with
  | nil => exact treads_pure _
  | cons id ids ih =>
      unfold FabricOutbox.drainEntries
      refine treads_bind (treads_getEntry id) fun entry ↦ ?_
      cases entry with
      | none => exact ih _
      | some entry =>
          dsimp only
          split
          · refine treads_bind (treads_call _) fun exchange ↦ ?_
            split
            · refine treads_bind (treads_markFailed h _ _) fun status ↦ ?_
              split
              · exact ih _
              · exact ih _
            · exact treads_raise _
            · exact treads_bind (treads_markDelivered h _ _) fun _ ↦ ih _
          · exact ih _

theorem treads_drainOnce (h : S.drains) (batchSize : Nat) :
    Treads settings S (FabricOutbox.drainOnce rt batchSize) := by
  unfold FabricOutbox.drainOnce FabricOutbox.claimDue
  refine treads_bind (treads_bind treads_read fun w ↦ ?_) fun ids ↦ treads_drainEntries h _ _
  exact treads_bind (treads_commit fun _ ↦ .claimed h) fun _ ↦ treads_pure _

theorem treads_runLoop (h : S.drains) (passes : Nat) :
    Treads settings S (FabricOutbox.runLoop rt settings passes) := by
  induction passes with
  | zero => exact treads_pure _
  | succ passes ih =>
      unfold FabricOutbox.runLoop
      refine treads_bind ?_ fun _ ↦ treads_bind (treads_call _) fun _ ↦ ih
      refine guarantees_catching (fun _ ↦ .read) ?_ fun _ ↦ trivial
      exact treads_bind (treads_drainOnce h _) fun _ ↦ treads_pure _

end Outbox

/-- **Every handler makes such accesses only.** -/
theorem treads_handle (D : Deployment) {S : Scope} {i : Request}
    (hcart : ∀ lines cashierId customer, i = .startCheckout lines cashierId customer → S.cart lines)
    (hsale : ∀ x cashierId, i = .startRefund x cashierId → S.sale x)
    (hdrains : i = .drainOnce ∨ i = .runLoop → S.drains)
    (htills : ∀ cashierId counts, i = .openTill cashierId counts ∨ i = .closeTill cashierId counts →
      S.tills)
    (hpays : (∃ lines cashierId customer, i = .startCheckout lines cashierId customer) ∨
      (∃ x, i = .chargeCard x) → S.pays) : Treads D.settings S (D.handle i) := by
  cases i with
  | startCheckout lines cashierId customer =>
      exact treads_bind (treads_startCheckout (hcart _ _ _ rfl) (hpays (.inl ⟨_, _, _, rfl⟩)) _ _)
        fun _ ↦ treads_pure _
  | chargeCash txnId amount => exact treads_chargeCash _ _
  | chargeCard txnId => exact treads_chargeCardRoute (hpays (.inr ⟨_, rfl⟩)) _ _
  | pollCardUntilComplete txnId => exact treads_pollCardUntilComplete _ _
  | cancelCheckout txnId => exact treads_cancelCheckout _
  | lookupRefund originalId => exact treads_bind (treads_lookupRefund _) fun _ ↦ treads_pure _
  | startRefund originalId cashierId =>
      exact treads_bind (treads_startRefund (hsale _ _ rfl) _) fun _ ↦ treads_pure _
  | chargeCardRefund refundId => exact treads_chargeCardRefundRoute _ _
  | chargeCashRefund refundId => exact treads_chargeCashRefund _
  | pollRefundUntilComplete refundId => exact treads_pollRefundUntilComplete _ _
  | cancelRefund refundId => exact treads_cancelRefund _
  | retrySentry txnId => exact treads_retrySentry _
  | retryFailedSales =>
      refine treads_bind (treads_bind (treads_rowsIn _ _) fun rows ↦ ?_) fun _ ↦ treads_pure _
      exact treads_retryAll treads_retryOneSale _ _
  | retryFailedRefunds =>
      refine treads_bind (treads_bind (treads_rowsIn _ _) fun rows ↦ ?_) fun _ ↦ treads_pure _
      exact treads_retryAll treads_retryOneRefund _ _
  | openTill cashierId counts =>
      exact treads_bind (treads_openSession (htills _ _ (.inl rfl)) _ _ _) fun _ ↦ treads_pure _
  | closeTill cashierId counts => exact treads_closeSession (htills _ _ (.inr rfl)) _ _ _
  | currentTill cashierId =>
      refine treads_bind (treads_bind (treads_getOpenSession _) fun _ ↦ ?_) fun _ ↦ treads_pure _
      exact treads_pure _
  | drainOnce => exact treads_bind (treads_drainOnce (hdrains (.inl rfl)) _) fun _ ↦ treads_pure _
  | runLoop => exact treads_runLoop (hdrains (.inr rfl)) _
  | retryFabricOutboxEntry id => exact treads_retryFabricOutboxEntry _

end HightowerPos
