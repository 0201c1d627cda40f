import HightowerPos.Async.Rely
import HightowerPos.Sale.Arithmetic

/-!
# No refund is ever taken for a sale

`cancel_checkout` looks at the status of a transaction and not at its type.  It never takes a
refund all the same: no thread, whatever runs beside it, brings a refund to a status in which
`cancel_checkout` takes it.  `start_checkout` and `charge_card` assign such statuses, to rows of
which they know that they are sales: rows keep their origin (`World.Stays`).
-/

namespace HightowerPos

open Async

namespace World

/-- `cancel_checkout` takes no refund. -/
def RefundsStand (w : World) : Prop :=
  ∀ x t, w.db.transaction x = some t → t.txnType = .refund → ¬ t.status.Cancellable

/-- Rows stay, and no refund becomes one that `cancel_checkout` takes. -/
structure Spares (w w' : World) : Prop where
  stays : w.Stays w'
  refund : ∀ x t', w'.db.transaction x = some t' → t'.txnType = .refund → t'.status.Cancellable →
    ∃ t, w.db.transaction x = some t ∧ t.txnType = .refund ∧ t.status.Cancellable

/-- The transaction is a sale. -/
def Sells (w : World) (x : Id) : Prop := ∃ t, w.db.transaction x = some t ∧ t.txnType = .sale

variable {w w' : World} {x : Id} {u : TransactionUpdate}

theorem Spares.keeps (h : w.Spares w') (hw : w.RefundsStand) : w'.RefundsStand := by
  intro x t' ht' htype hstatus
  obtain ⟨t, ht, htype, hstatus⟩ := h.refund x t' ht' htype hstatus
  exact hw x t ht htype hstatus

theorem Sells.stays (hx : w.Sells x) (h : w.Stays w') : w'.Sells x := by
  obtain ⟨t, ht, htype⟩ := hx
  obtain ⟨t', ht', horigin⟩ := h x t ht
  exact ⟨t', ht', (POSTransaction.eq_of_origin horigin (·.txnType)).trans htype⟩

theorem Spares.trans {w'' : World} (h : w.Spares w') (h' : w'.Spares w'') : w.Spares w'' where
  stays := Stays.trans _ _ _ h.stays h'.stays
  refund x t' ht' htype hstatus := by
    obtain ⟨t, ht, htype, hstatus⟩ := h'.refund x t' ht' htype hstatus
    exact h.refund x t ht htype hstatus

theorem spares_of_same (h : w'.db.posTransactions = w.db.posTransactions) : w.Spares w' where
  stays := (sameRows_of_same h).stays
  refund x t ht htype hstatus := by
    refine ⟨t, ?_, htype, hstatus⟩
    unfold Db.transaction at ht ⊢
    rw [← h]
    exact ht

/-- A new row is in no such status. -/
theorem spares_of_add {d : Draft POSTransaction POSTransaction.id}
    (h : w'.db.posTransactions = w.db.posTransactions.add d)
    (hd : ∀ x, ¬ (d.build x).status.Cancellable) : w.Spares w' where
  stays := stays_of_add h
  refund x t ht htype hstatus := by
    unfold Db.transaction at ht
    rw [h] at ht
    rcases Table.of_get?_add ht with ⟨-, rfl⟩ | ⟨-, ht⟩
    · exact absurd hstatus (hd _)
    · exact ⟨t, ht, htype, hstatus⟩

/-- An update that makes no transaction one that `cancel_checkout` takes. -/
theorem Updated.spares (h : w.Updated x u w') (hu : ∀ t, (u.set t).origin = t.origin)
    (hspares : u.Spares) : w.Spares w' where
  stays := (h.sameRows hu).stays
  refund y t' ht' htype hstatus := by
    by_cases hy : y = x
    · subst hy
      rw [h.row] at ht'
      obtain ⟨t, ht, rfl⟩ := Option.map_eq_some_iff.mp ht'
      refine ⟨t, ht, ?_, hspares t hstatus⟩
      exact (POSTransaction.eq_of_origin (hu t) (·.txnType)).symm.trans htype
    · exact ⟨t', (h.others y hy).symm.trans ht', htype, hstatus⟩

/-- A sale may be brought to any status. -/
theorem Updated.spares_sale (h : w.Updated x u w') (hu : ∀ t, (u.set t).origin = t.origin)
    (hx : w.Sells x) : w.Spares w' where
  stays := (h.sameRows hu).stays
  refund y t' ht' htype hstatus := by
    by_cases hy : y = x
    · subst hy
      obtain ⟨t, ht, hsale⟩ := hx.stays (h.sameRows hu).stays
      obtain rfl := Option.some.inj (ht.symm.trans ht')
      cases hsale.symm.trans htype
    · exact ⟨t', (h.others y hy).symm.trans ht', htype, hstatus⟩

theorem spares_send (q : Call) (w : World) : w.Spares (World.send q w) := by
  cases q <;> exact spares_of_same rfl

end World

/-! ## Accesses -/

/-- What is known of a handler that brings no sale to its payment. -/
def unpaying : Scope where
  reads _ := True
  cart _ := True
  sale _ := True
  drains := True
  pays := False

section Accesses

variable {settings : Settings} {w w' : World}

theorem spares_of_access (h : Access settings unpaying w w') : w.Spares w' := by
  cases h with
  | read => exact World.spares_of_same rfl
  | sent q => exact World.spares_send q w
  | saleStored => exact World.spares_of_add rfl fun x h ↦ by cases h
  | refundStored => exact World.spares_of_add rfl fun x h ↦ by cases h
  | updated hu hpays => exact (w.updated_updateTransaction _ _).spares hu (hpays.resolve_left id)
  | notSent hu hspares =>
      exact ((w.updated_updateTransaction _ _).addOutboxEntry _).spares hu hspares
  | @saleCompleted txn held soId a =>
      have hfirst := Till.updated_commitTally
        (w.updated_updateTransaction txn.id (Checkout.completion soId a)) a
      refine (hfirst.addOutboxEntry _).spares (by cases a <;> exact fun _ ↦ rfl) fun t h ↦ ?_
      rw [Checkout.completion_status] at h
      cases h
  | @refundCompleted refund original held soId a =>
      have hfirst : w.Spares (w.updateTransaction refund.id (Refund.completion soId a)) := by
        refine (w.updated_updateTransaction _ _).spares (by cases a <;> exact fun _ ↦ rfl) ?_
        intro t h
        cases a <;> cases h
      refine hfirst.trans ?_
      exact ((Till.updated_commitTally (World.updated_updateTransaction _ _ _) a).addOutboxEntry
        _).spares (u := Refund.linked refund.id) (fun _ ↦ rfl) fun _ h ↦ h
  | @refundRetried x y u hu hspares =>
      refine ((w.updated_updateTransaction x u).spares hu hspares).trans ?_
      exact (World.updated_updateTransaction _ y _).spares (fun _ ↦ rfl) fun _ h ↦ h
  | tillOpened | tillUpdated | requeued => exact World.spares_of_same rfl
  | resolved => exact World.spares_of_same rfl
  | @claimed _ ids =>
      obtain ⟨table, hclaimed⟩ := FabricOutbox.claimAll_eq ids w
      rw [hclaimed]
      exact World.spares_of_same rfl

end Accesses

/-! ## Handlers -/

/-- The thread brings no refund to such a status, so long as the others leave the rows in place. -/
abbrev Sparing {α : Type} (p : App α) (post : Except PyExc α → World → Prop) (w : World) : Prop :=
  p.Relies World.send World.Stays World.Spares post w

section Handlers

variable {α β : Type} {rt : Runtime} {settings : Settings} {w : World}

theorem sparing_of_treads (settings : Settings) {p : App α} (h : Treads settings unpaying p) :
    Sparing p (fun _ _ ↦ True) w :=
  (h.weaken (fun _ _ ↦ trivial) fun _ _ ↦ spares_of_access).relies w

/-- A sequence, where the second part is entered with `A`. -/
theorem sparing_bind {p : App α} {f : α → App β} {A : α → World → Prop}
    (hp : Sparing p (fun r w ↦ ∀ a, r = .ok a → A a w) w)
    (hf : ∀ a w, A a w → Sparing (f a) (fun _ _ ↦ True) w) :
    Sparing (p >>= f) (fun _ _ ↦ True) w := by
  refine relies_bind World.Stays.refl (hp.mono fun r w hr ↦ ?_)
  cases r with
  | ok a => exact hf a w (hr a rfl)
  | error e => trivial

/-- A sequence of two. -/
theorem sparing_seq {p : App α} {f : α → App β} (hp : Sparing p (fun _ _ ↦ True) w)
    (hf : ∀ a w, Sparing (f a) (fun _ _ ↦ True) w) : Sparing (p >>= f) (fun _ _ ↦ True) w :=
  sparing_bind (A := fun _ _ ↦ True) (hp.mono fun _ _ _ _ _ ↦ trivial) fun a w _ ↦ hf a w

/-- What is known of a row is known where the answer to a call arrives. -/
theorem sparing_call {q : Call} {f : Answer q → App β} {x : Id} (hx : w.Sells x)
    (hf : ∀ a w, w.Sells x → Sparing (f a) (fun _ _ ↦ True) w) :
    Sparing (App.call q >>= f) (fun _ _ ↦ True) w := by
  intro w₁ h₁
  have hsend := World.spares_send q w₁
  exact ⟨hsend, fun a ↦ hf a _ ((hx.stays h₁).stays hsend.stays)⟩

/-- A sale is saved in any status. -/
theorem sparing_saveTransaction {txn : POSTransaction} {u : TransactionUpdate}
    (hx : w.Sells txn.id) (hu : ∀ t, (u.set t).origin = t.origin) :
    Sparing (App.saveTransaction txn u) (fun _ _ ↦ True) w := by
  intro w₁ h₁
  refine ⟨(w₁.updated_updateTransaction _ _).spares_sale hu (hx.stays h₁), ?_⟩
  exact fun _ _ ↦ trivial

/-! ### Starting a sale -/

theorem sparing_storeTransaction {d : Time → Draft POSTransaction POSTransaction.id}
    (hstatus : ∀ now x, ¬ ((d now).build x).status.Cancellable)
    (htype : ∀ now x, ((d now).build x).txnType = .sale) (w : World) :
    Sparing (Checkout.storeTransaction d) (fun r w ↦ ∀ txn, r = .ok txn → w.Sells txn.id) w := by
  intro w₁ _
  refine ⟨World.spares_of_add rfl (hstatus _), fun w₂ h₂ txn htxn ↦ ?_⟩
  obtain rfl := Except.ok.inj htxn
  have hadded : (w₁.addTransaction (d w₁.now)).Sells w₁.db.posTransactions.fresh := by
    refine ⟨_, Table.get?_add.trans (if_pos rfl), htype _ _⟩
  have hid : ((d w₁.now).build w₁.db.posTransactions.fresh).id = w₁.db.posTransactions.fresh :=
    (d w₁.now).keyed _
  rw [hid]
  exact hadded.stays h₂

theorem sparing_finishStart (settings : Settings) {txn : POSTransaction} (hx : w.Sells txn.id)
    (outcome : Attempts) : Sparing (Checkout.finishStart rt txn outcome) (fun _ _ ↦ True) w := by
  unfold Checkout.finishStart
  split
  · have htreads (exc : SentryClientError) : Treads settings unpaying (do
        let error ← App.bindText (.ofString "sentry_unavailable: " ++ exc.message)
        let _ ← App.saveTransaction txn (Checkout.validationFailed error)
        .raise (.checkout .sentryUnavailable) : App POSTransaction) := by
      refine treads_bind (treads_bindText _) fun error ↦ ?_
      exact treads_bind (treads_saveTransaction fun _ ↦ rfl) fun _ ↦ treads_raise _
    exact sparing_of_treads settings (htreads _)
  · exact fun _ _ ↦ trivial
  · split
    · exact sparing_saveTransaction hx fun _ ↦ rfl
    · refine sparing_seq ?_ fun _ _ _ _ ↦ trivial
      exact sparing_of_treads settings (treads_saveTransaction fun _ ↦ rfl)

theorem sparing_startCheckout (lines : List Checkout.CartLineIn) (cashierId : String)
    (customer : Option Checkout.CustomerAttachIn) :
    Sparing (Checkout.startCheckout rt settings lines cashierId customer) (fun _ _ ↦ True) w := by
  unfold Checkout.startCheckout
  refine sparing_seq ?_ fun found w ↦ ?_
  · refine sparing_of_treads settings ?_
    exact (guarantees_lookupPrices lines [] fun _ _ h ↦ by cases h).mono fun _ _ ↦ trivial
  · obtain ⟨missing, prices⟩ := found
    dsimp only
    split
    · exact fun _ _ ↦ trivial
    · refine sparing_seq (sparing_of_treads settings (treads_ofExcept _)) ?_
      intro cart w
      refine sparing_bind (sparing_storeTransaction ?_ ?_ w) fun txn w hx ↦ ?_
      · exact fun now x h ↦ by cases h
      · exact fun _ _ ↦ rfl
      · exact sparing_call hx fun outcome w hx ↦ sparing_finishStart settings hx outcome

/-! ### Charging a card -/

theorem sparing_getTransaction {β : Type} {f : Option POSTransaction → App β}
    {post : Except PyExc β → World → Prop} {x : Id}
    (h : ∀ w, Sparing (f (w.db.transaction x)) post w) :
    Sparing (App.getTransaction x >>= f) post w := fun w₁ _ ↦ ⟨World.spares_of_same rfl, h w₁⟩

theorem sparing_loadForPayment (txnId : Id) :
    Sparing (Checkout.loadForPayment txnId) (fun r w ↦ ∀ txn, r = .ok txn → w.Sells txn.id) w := by
  refine sparing_getTransaction fun w₁ ↦ ?_
  cases hrow : w₁.db.transaction txnId with
  | none => exact fun _ _ txn h ↦ by cases h
  | some txn =>
      dsimp only
      split
      · exact fun _ _ txn h ↦ by cases h
      · next htype =>
          split
          · exact fun _ _ txn h ↦ by cases h
          · intro w₂ h₂ txn' htxn
            obtain rfl := Except.ok.inj htxn
            obtain rfl : txn.id = txnId := Table.key_of_get? hrow
            exact World.Sells.stays ⟨txn, hrow, not_not.mp htype⟩ h₂

/-- What is known of a row is known after a check that only raises. -/
theorem sparing_ofExcept (r : Except PyExc α) {x : Id} (hx : w.Sells x) :
    Sparing (App.ofExcept r) (fun r w ↦ ∀ a, r = .ok a → w.Sells x) w := by
  cases r with
  | ok a => exact fun _ h _ _ ↦ hx.stays h
  | error e => exact fun _ h _ _ ↦ hx.stays h

theorem sparing_chargeCard (txnId : Id) :
    Sparing (Checkout.chargeCard rt settings txnId) (fun _ _ ↦ True) w := by
  unfold Checkout.chargeCard
  refine sparing_bind (sparing_loadForPayment txnId) fun txn w hx ↦ ?_
  refine sparing_bind (sparing_ofExcept _ hx) fun _ w hx ↦ ?_
  refine sparing_call hx fun initial w hx ↦ ?_
  split
  · refine sparing_seq ?_ fun _ _ _ _ ↦ trivial
    exact sparing_of_treads settings (treads_saveTransaction fun _ ↦ rfl)
  · exact fun _ _ ↦ trivial
  · split
    · refine sparing_seq ?_ fun _ _ _ _ ↦ trivial
      exact sparing_of_treads settings (treads_finalizeCardCharge _ (fun _ ↦ rfl) _)
    · exact sparing_seq (sparing_saveTransaction hx fun _ ↦ rfl) fun _ _ _ _ ↦ trivial

theorem sparing_chargeCardRoute (fuel : Nat) (txnId : Id) :
    Sparing (Checkout.chargeCardRoute rt settings fuel txnId) (fun _ _ ↦ True) w := by
  unfold Checkout.chargeCardRoute
  refine sparing_seq (sparing_chargeCard txnId) fun under w ↦ ?_
  split
  · refine sparing_of_treads settings (treads_bind (treads_call _) fun _ ↦ ?_)
    exact treads_pollCardUntilComplete _ _
  · exact fun _ _ ↦ trivial

/-- **No handler brings a refund to such a status.** -/
theorem sparing_handle (D : Deployment) (i : Request) (w : World) :
    Sparing (D.handle i) (fun _ _ ↦ True) w := by
  by_cases hpays : (∃ lines cashierId customer, i = .startCheckout lines cashierId customer) ∨
      ∃ x, i = .chargeCard x
  · rcases hpays with ⟨lines, cashierId, customer, rfl⟩ | ⟨x, rfl⟩
    · exact sparing_seq (sparing_startCheckout lines cashierId customer) fun _ _ _ _ ↦ trivial
    · exact sparing_chargeCardRoute D.fuel x
  · exact sparing_of_treads D.settings (treads_handle D (fun _ _ _ _ ↦ trivial)
      (fun _ _ _ ↦ trivial) (fun _ ↦ trivial) (fun _ _ _ ↦ trivial) fun h ↦ hpays h)

end Handlers

/-! ## Runs -/

/-- Time passes, or the tables that other services write are replaced. -/
inductive World.Maintains : World → World → Prop
  | drift {w w' : World} (h : Drift w w') : Maintains w w'
  | tables {w : World} (posPrices : Table POSPrice POSPrice.sku)
      (posUsers : Table POSUser POSUser.username) :
      Maintains w { w with db := { w.db with posPrices, posUsers } }

/-- Anything may be answered, and prices and users may be replaced at any time. -/
def Environment.maintained : Environment where
  reply _ _ _ := True
  drift := World.Maintains

section Runs

variable {D : Deployment} {w : World} {c : Crew World Call Answer PyExc Request}

theorem World.Maintains.spares {w w' : World} (h : w.Maintains w') : w.Spares w' := by
  cases h with
  | drift h => exact spares_of_same (congrArg Db.posTransactions h.db)
  | tables => exact spares_of_same rfl

theorem sparing_rules (D : Deployment) :
    Crew.Rules (D.system .maintained) World.Stays World.Spares where
  refl := World.Stays.refl
  trans := World.Stays.trans
  move _ _ h := h.stays
  drift _ _ h := (World.Maintains.spares h).stays
  start := sparing_handle D

/-- **No refund is ever one that `cancel_checkout` takes**, whatever runs beside it. -/
theorem refundsStand_run (hw : w.RefundsStand)
    (hrun : Crew.Run (D.system .maintained) .free ⟨w, []⟩ c) : c.state.RefundsStand := by
  refine Crew.Reliant.invariant (sparing_rules D) (fun _ _ h hw ↦ h.keeps hw) ?_ hw hrun
  intro _ _ hd hw
  exact (World.Maintains.spares hd).keeps hw

end Runs

end HightowerPos
