import HightowerPos.Transactions.Turn
import HightowerPos.Drawer.Ledger

/-!
# Refunds and their sales

A refund is of a `COMPLETE` sale, a sale has one refund at most that blocks others, and the
link of a sale is its `COMPLETE` refund.  That a sale has one blocking refund is looked up
when a refund starts, and nothing but the graph of the statuses keeps it afterwards.
-/

namespace HightowerPos

open Async Relation

/-- The refund `t` is of the sale `p`, which is completed. -/
def RefundOf (db : Db) (t : POSTransaction) : Prop :=
  ∃ p sale, t.parentTransactionId = some p ∧ db.transaction p = some sale ∧
    sale.txnType = .sale ∧ sale.status = .complete ∧ t.paymentMethod = sale.paymentMethod

/-- Refunds, sales and what links them. -/
structure Links (db : Db) : Prop where
  /-- A status is one of the type. -/
  kind : ∀ {x t}, db.transaction x = some t → ∀ k, t.status.kind = some k → t.txnType = k
  /-- A sale is not a refund of anything. -/
  orphan : ∀ {x t}, db.transaction x = some t → t.txnType = .sale →
    t.parentTransactionId = none
  parent : ∀ {x t}, db.transaction x = some t → t.txnType = .refund → RefundOf db t
  /-- One refund blocks others. -/
  sole : ∀ {r r' t t' p}, db.transaction r = some t → db.transaction r' = some t' →
    t.parentTransactionId = some p → t'.parentTransactionId = some p →
    t.status ∈ Refund.refundBlockingStates → t'.status ∈ Refund.refundBlockingStates → r = r'
  /-- The link of a sale is the refund that is completed. -/
  link : ∀ {x sale}, db.transaction x = some sale → sale.txnType = .sale → ∀ r,
    sale.refundTransactionId = some r ↔ ∃ t, db.transaction r = some t ∧
      t.status = .complete ∧ t.parentTransactionId = some x

theorem Links.empty {db : Db} (h : db.posTransactions = .empty) : Links db where
  kind ht := by simp [Db.transaction, h, Table.get?, Table.empty] at ht
  orphan ht := by simp [Db.transaction, h, Table.get?, Table.empty] at ht
  parent ht := by simp [Db.transaction, h, Table.get?, Table.empty] at ht
  sole ht := by simp [Db.transaction, h, Table.get?, Table.empty] at ht
  link ht := by simp [Db.transaction, h, Table.get?, Table.empty] at ht

variable {db db' : Db}

theorem Links.same (h : Links db) (hrows : db'.posTransactions = db.posTransactions) :
    Links db' := by
  have hsame : db'.transaction = db.transaction := funext fun x ↦ by
    unfold Db.transaction
    rw [hrows]
  obtain ⟨hkind, horphan, hparent, hsole, hlink⟩ := h
  refine ⟨?_, ?_, ?_, ?_, ?_⟩ <;> unfold RefundOf at * <;> rw [hsame] <;> assumption

/-- What is refunded is a sale. -/
theorem Links.refund_of_parent (h : Links db) {x p : Id} {t : POSTransaction}
    (ht : db.transaction x = some t) (hp : t.parentTransactionId = some p) :
    t.txnType = .refund := by
  cases htype : t.txnType with
  | refund => rfl
  | sale => exact nomatch hp.symm.trans (h.orphan ht htype)

/-! ## Rows that follow -/

/-- What a turn makes of a row, its link apart. -/
structure Follows (t t' : POSTransaction) : Prop where
  origin : t'.origin = t.origin
  status : t'.status = t.status ∨ t'.status ∈ t.status.leads
  method : t.txnType = .refund ∨ t.status = .complete → t'.paymentMethod = t.paymentMethod

namespace Follows

variable {t t' : POSTransaction}

theorem refl (t : POSTransaction) : Follows t t := ⟨rfl, .inl rfl, fun _ ↦ rfl⟩

theorem linked (t : POSTransaction) (r : Id) (now : Time) :
    Follows t (((Refund.linked r).touch now).set t) := ⟨rfl, .inl rfl, fun _ ↦ rfl⟩

/-- A row that has advanced. -/
theorem advanced {u : TransactionUpdate} (hkind : ∀ k, t.status.kind = some k → t.txnType = k)
    (h : Advanced t (u.set t)) (now : Time) : Follows t ((u.touch now).set t) := by
  refine ⟨h.origin, .inr h.status, fun hm ↦ h.method ?_⟩
  obtain ⟨k, hk⟩ := Option.ne_none_iff_exists'.mp (Status.kind_ne_none_of_leads h.status)
  rcases hm with htype | hs
  · rw [hk, ← hkind k hk, htype]
  · rw [hs] at hk
    cases hk

theorem txnType (h : Follows t t') : t'.txnType = t.txnType :=
  POSTransaction.eq_of_origin h.origin (·.txnType)

theorem parent (h : Follows t t') : t'.parentTransactionId = t.parentTransactionId :=
  POSTransaction.eq_of_origin h.origin (·.parentTransactionId)

/-- What is complete stays complete. -/
theorem complete (h : Follows t t') (hs : t.status = .complete) : t'.status = .complete := by
  rcases h.status with h | h
  · exact h.trans hs
  · rw [hs] at h
    cases h

/-- A refund that blocks others has done so before. -/
theorem blocking (h : Follows t t') (hkind : ∀ k, t.status.kind = some k → t.txnType = k)
    (htype : t.txnType = .refund) (hs : t'.status ∈ Refund.refundBlockingStates) :
    t.status ∈ Refund.refundBlockingStates := by
  rcases h.status with h | h
  · rwa [h] at hs
  · obtain ⟨k, hk⟩ := Option.ne_none_iff_exists'.mp (Status.kind_ne_none_of_leads h)
    refine Status.blocking_of_leads h hs ?_
    rw [hk, ← hkind k hk, htype]

end Follows

/-- Every row follows, and none is added. -/
def RowsFollow (db db' : Db) : Prop :=
  ∀ x, Option.Rel Follows (db.transaction x) (db'.transaction x)

namespace RowsFollow

theorem back (h : RowsFollow db db') {x : Id} {t' : POSTransaction}
    (ht' : db'.transaction x = some t') : ∃ t, db.transaction x = some t ∧ Follows t t' := by
  have hx := h x
  rw [ht'] at hx
  generalize db.transaction x = o at hx
  cases hx with
  | some hf => exact ⟨_, rfl, hf⟩

theorem forth (h : RowsFollow db db') {x : Id} {t : POSTransaction}
    (ht : db.transaction x = some t) : ∃ t', db'.transaction x = some t' ∧ Follows t t' := by
  have hx := h x
  rw [ht] at hx
  generalize db'.transaction x = o at hx
  cases hx with
  | some hf => exact ⟨_, rfl, hf⟩

/-- Rows that are the same. -/
theorem refl_row (o : Option POSTransaction) : Option.Rel Follows o o := by
  cases o with
  | none => exact .none
  | some t => exact .some (.refl t)

/-- One row that follows, in a table that is otherwise the same. -/
theorem modify {t : POSTransaction} {u : TransactionUpdate} (hrow : db.transaction t.id = some t)
    (h : Follows t (u.set t)) (hrows : db'.posTransactions = db.posTransactions.modify t.id u) :
    RowsFollow db db' := by
  intro x
  unfold Db.transaction at hrow ⊢
  rw [hrows, Table.get?_modify]
  by_cases hx : x = t.id
  · rw [if_pos hx, hx, hrow]
    exact .some h
  · rw [if_neg hx]
    exact refl_row _

end RowsFollow

theorem RefundOf.follows {t t' : POSTransaction} (h : RefundOf db t) (hrows : RowsFollow db db')
    (ht : Follows t t') (htype : t.txnType = .refund) : RefundOf db' t' := by
  obtain ⟨p, sale, hp, hsale, hst, hs, hm⟩ := h
  obtain ⟨sale', hsale', hf⟩ := hrows.forth hsale
  refine ⟨p, sale', ht.parent.trans hp, hsale', hf.txnType.trans hst, hf.complete hs, ?_⟩
  rw [ht.method (.inl htype), hm, hf.method (.inr hs)]

/-- Rows that follow keep everything but the links. -/
theorem Links.follows (h : Links db) (hrows : RowsFollow db db')
    (hlink : ∀ {x sale}, db'.transaction x = some sale → sale.txnType = .sale → ∀ r,
      sale.refundTransactionId = some r ↔ ∃ t, db'.transaction r = some t ∧
        t.status = .complete ∧ t.parentTransactionId = some x) : Links db' where
  kind {x t'} ht' k hk := by
    obtain ⟨t, ht, hf⟩ := hrows.back ht'
    rw [hf.txnType]
    refine h.kind ht k ?_
    rcases hf.status with hs | hs
    · rwa [hs] at hk
    · rw [Status.kind_of_leads hs (by rw [hk]; nofun), hk]
  orphan {x t'} ht' htype := by
    obtain ⟨t, ht, hf⟩ := hrows.back ht'
    exact hf.parent.trans (h.orphan ht (hf.txnType.symm.trans htype))
  parent {x t'} ht' htype := by
    obtain ⟨t, ht, hf⟩ := hrows.back ht'
    have htype' := hf.txnType.symm.trans htype
    exact (h.parent ht htype').follows hrows hf htype'
  sole {r r' t₁ t₂ p} h₁ h₂ hp₁ hp₂ hb₁ hb₂ := by
    obtain ⟨t, ht, hf⟩ := hrows.back h₁
    obtain ⟨t', ht', hf'⟩ := hrows.back h₂
    have hp := hf.parent.symm.trans hp₁
    have hp' := hf'.parent.symm.trans hp₂
    exact h.sole ht ht' hp hp'
      (hf.blocking (h.kind ht) (h.refund_of_parent ht hp) hb₁)
      (hf'.blocking (h.kind ht') (h.refund_of_parent ht' hp') hb₂)
  link := hlink

/-! ## Turns keep the links -/

/-- A new sale, or a refund of a completed sale without a blocking refund. -/
theorem Links.add (h : Links db) {d : Draft POSTransaction POSTransaction.id}
    (hrows : db'.posTransactions = db.posTransactions.add d)
    (hkind : ∀ i k, (d.build i).status.kind = some k → (d.build i).txnType = k)
    (horphan : ∀ i, (d.build i).txnType = .sale → (d.build i).parentTransactionId = none)
    (hparent : ∀ i, (d.build i).txnType = .refund → RefundOf db (d.build i))
    (hfree : ∀ i p r t, (d.build i).parentTransactionId = some p → db.transaction r = some t →
      t.parentTransactionId = some p → t.status ∉ Refund.refundBlockingStates)
    (hopen : ∀ i, (d.build i).status ≠ .complete)
    (hlink : ∀ i, (d.build i).refundTransactionId = none) : Links db' := by
  have hnew {x : Id} {t : POSTransaction} (ht : db'.transaction x = some t) :
      (x = db.posTransactions.fresh ∧ t = d.build db.posTransactions.fresh) ∨
        db.transaction x = some t := by
    unfold Db.transaction at ht
    rw [hrows] at ht
    exact (Table.of_get?_add ht).imp id And.right
  have hold {x : Id} {t : POSTransaction} (ht : db.transaction x = some t) :
      db'.transaction x = some t := by
    unfold Db.transaction
    rw [hrows]
    exact Table.get?_add_of_some ht
  have hkeep {t : POSTransaction} (ht : RefundOf db t) : RefundOf db' t := by
    obtain ⟨p, sale, hp, hsale, hst⟩ := ht
    exact ⟨p, sale, hp, hold hsale, hst⟩
  -- nothing refers to the fresh row
  have hfresh {x : Id} {t : POSTransaction} (ht : db.transaction x = some t) :
      t.parentTransactionId ≠ some db.posTransactions.fresh := fun hp ↦ by
    obtain ⟨p, sale, hp', hsale, -⟩ := h.parent ht (h.refund_of_parent ht hp)
    obtain rfl := Option.some.inj (hp.symm.trans hp')
    exact nomatch hsale.symm.trans (Table.get?_fresh db.posTransactions)
  refine ⟨fun {x t} ht k hk ↦ ?_, fun {x t} ht htype ↦ ?_, fun {x t} ht htype ↦ ?_,
    fun {r r' t t' p} h₁ h₂ hp₁ hp₂ hb₁ hb₂ ↦ ?_, fun {x sale} ht htype r ↦ ?_⟩
  · rcases hnew ht with ⟨-, rfl⟩ | ht
    · exact hkind _ k hk
    · exact h.kind ht k hk
  · rcases hnew ht with ⟨-, rfl⟩ | ht
    · exact horphan _ htype
    · exact h.orphan ht htype
  · rcases hnew ht with ⟨-, rfl⟩ | ht
    · exact hkeep (hparent _ htype)
    · exact hkeep (h.parent ht htype)
  · rcases hnew h₁ with ⟨rfl, rfl⟩ | h₁ <;> rcases hnew h₂ with ⟨rfl, rfl⟩ | h₂
    · rfl
    · exact absurd hb₂ (hfree _ _ _ _ hp₁ h₂ hp₂)
    · exact absurd hb₁ (hfree _ _ _ _ hp₂ h₁ hp₁)
    · exact h.sole h₁ h₂ hp₁ hp₂ hb₁ hb₂
  · rcases hnew ht with ⟨rfl, rfl⟩ | ht
    · refine ⟨fun hr ↦ (nomatch hr.symm.trans (hlink _)), fun ⟨t, ht', hs, hp⟩ ↦ ?_⟩
      rcases hnew ht' with ⟨-, rfl⟩ | ht'
      · exact absurd hs (hopen _)
      · exact absurd hp (hfresh ht')
    · rw [h.link ht htype r]
      refine ⟨fun ⟨t, ht', hs⟩ ↦ ⟨t, hold ht', hs⟩, fun ⟨t, ht', hs⟩ ↦ ?_⟩
      rcases hnew ht' with ⟨-, rfl⟩ | ht'
      · exact absurd hs.1 (hopen _)
      · exact ⟨t, ht', hs⟩

/-- A row that advances without completing a refund. -/
theorem Links.advance (h : Links db) {t : POSTransaction} {u : TransactionUpdate} {now : Time}
    (hrow : db.transaction t.id = some t) (hu : Advanced t (u.set t))
    (hsale : (u.set t).status = .complete → t.txnType = .sale)
    (hrows : db'.posTransactions = db.posTransactions.modify t.id (u.touch now)) : Links db' := by
  have hf : RowsFollow db db' := .modify hrow (.advanced (h.kind hrow) hu now) hrows
  have hnew {x : Id} {t' : POSTransaction} (ht' : db'.transaction x = some t') :
      (x = t.id ∧ t' = (u.touch now).set t) ∨ db.transaction x = some t' := by
    unfold Db.transaction at ht' hrow
    rw [hrows] at ht'
    rcases Table.of_get?_modify ht' with ⟨rfl, t₀, ht₀, rfl⟩ | ⟨-, ht⟩
    · obtain rfl := Option.some.inj (ht₀.symm.trans hrow)
      exact .inl ⟨rfl, rfl⟩
    · exact .inr ht
  refine h.follows hf fun {x sale'} hs' htype r ↦ ?_
  obtain ⟨sale, hs, hsf⟩ := hf.back hs'
  have hlink : sale'.refundTransactionId = sale.refundTransactionId := by
    rcases hnew hs' with ⟨rfl, rfl⟩ | hs'
    · obtain rfl := Option.some.inj (hs.symm.trans hrow)
      exact hu.link
    · obtain rfl := Option.some.inj (hs.symm.trans hs')
      rfl
  rw [hlink, h.link hs (hsf.txnType.symm.trans htype) r]
  refine ⟨fun ⟨t₁, h₁, hc, hp⟩ ↦ ?_, fun ⟨t₁, h₁, hc, hp⟩ ↦ ?_⟩
  · obtain ⟨t₂, h₂, hf₂⟩ := hf.forth h₁
    exact ⟨t₂, h₂, hf₂.complete hc, hf₂.parent.trans hp⟩
  · rcases hnew h₁ with ⟨rfl, rfl⟩ | h₁
    · -- the row that has advanced is of a sale
      obtain ⟨t₀, h₀, hf₀⟩ := hf.back h₁
      obtain rfl := Option.some.inj (h₀.symm.trans hrow)
      exact nomatch (hf₀.parent.symm.trans hp).symm.trans (h.orphan hrow (hsale hc))
    · exact ⟨t₁, h₁, hc, hp⟩

/-- The refund `t` of `original` is completed, and linked. -/
structure Settles (db db' : Db) (t t' original original' : POSTransaction) : Prop where
  refund : t.txnType = .refund
  parent : t.parentTransactionId = some original.id
  sale : original.txnType = .sale
  complete : original.status = .complete
  row : db.transaction t.id = some t
  row' : db'.transaction t.id = some t'
  link : db.transaction original.id = some original
  link' : db'.transaction original.id = some original'
  others : ∀ {x}, x ≠ t.id → x ≠ original.id → db'.transaction x = db.transaction x

theorem Links.settles (h : Links db) {t original : POSTransaction} {u v : TransactionUpdate}
    (hrow : db.transaction t.id = some t) (hkind : t.status.kind = some .refund)
    (horig : t.parentTransactionId.bind db.transaction = some original)
    (hrows : db'.posTransactions = (db.posTransactions.modify t.id u).modify original.id v) :
    Settles db db' t (u.set t) original (v.set original) := by
  have htype := h.kind hrow _ hkind
  obtain ⟨p, sale, hp, hsale, hst, hss, -⟩ := h.parent hrow htype
  rw [hp, Option.bind_some, hsale] at horig
  obtain rfl := Option.some.inj horig
  obtain rfl : sale.id = p := Table.key_of_get? hsale
  have hne : sale.id ≠ t.id := fun hid ↦ by
    rw [hid, hrow] at hsale
    obtain rfl := Option.some.inj hsale
    exact nomatch hst.symm.trans htype
  refine ⟨htype, hp, hst, hss, hrow, ?_, hsale, ?_, fun {x} hx hx' ↦ ?_⟩
  · unfold Db.transaction at hrow ⊢
    rw [hrows, Table.get?_modify_ne hne.symm, Table.get?_modify_self, hrow, Option.map_some]
  · unfold Db.transaction at hsale ⊢
    rw [hrows, Table.get?_modify_self, Table.get?_modify_ne hne, hsale, Option.map_some]
  · unfold Db.transaction
    rw [hrows, Table.get?_modify_ne hx', Table.get?_modify_ne hx]

/-- A refund that is completed, and the link of its sale. -/
theorem Links.refunded (h : Links db) {t original : POSTransaction} {u : TransactionUpdate}
    {now : Time} (hrow : db.transaction t.id = some t) (hu : Advanced t (u.set t))
    (hdone : (u.set t).status = .complete) (hkind : t.status.kind = some .refund)
    (horig : t.parentTransactionId.bind db.transaction = some original)
    (hrows : db'.posTransactions = (db.posTransactions.modify t.id (u.touch now)).modify
      original.id ((Refund.linked t.id).touch now)) : Links db' := by
  have hsettles := h.settles hrow hkind horig hrows
  obtain ⟨htype, hp, hst, hss, -, hrow', hsale, hsale', hothers⟩ := hsettles
  have hf : RowsFollow db db' := fun x ↦ by
    by_cases hx : x = t.id
    · rw [hx, hrow, hrow']
      exact .some (.advanced (h.kind hrow) hu now)
    · by_cases hx' : x = original.id
      · rw [hx', hsale, hsale']
        exact .some (.linked original t.id now)
      · rw [hothers hx hx']
        exact RowsFollow.refl_row _
  have hblocking : t.status ∈ Refund.refundBlockingStates :=
    Status.blocking_of_leads hu.status (by rw [hdone]; decide) hkind
  refine h.follows hf fun {x sale'} hs' htype' r ↦ ?_
  by_cases hx : x = original.id
  · -- the sale of this refund: no other refund blocks it
    subst hx
    obtain rfl := Option.some.inj (hs'.symm.trans hsale')
    refine ⟨fun hr ↦ ?_, fun ⟨t₁, h₁, hc, hp₁⟩ ↦ ?_⟩
    · obtain rfl : t.id = r := Option.some.inj hr
      have hparent := POSTransaction.eq_of_origin hu.origin (·.parentTransactionId)
      exact ⟨_, hrow', hdone, hparent.trans hp⟩
    · obtain ⟨t₀, h₀, hf₀⟩ := hf.back h₁
      have hp₀ := hf₀.parent.symm.trans hp₁
      have hb₀ : t₀.status ∈ Refund.refundBlockingStates :=
        hf₀.blocking (h.kind h₀) (h.refund_of_parent h₀ hp₀) (by rw [hc]; decide)
      exact congrArg some (h.sole hrow h₀ hp hp₀ hblocking hb₀)
  · obtain ⟨sale₀, hs₀, hsf⟩ := hf.back hs'
    have hxt : x ≠ t.id := by
      rintro rfl
      obtain rfl := Option.some.inj (hs₀.symm.trans hrow)
      exact nomatch (hsf.txnType.symm.trans htype').symm.trans htype
    rw [hothers hxt hx] at hs'
    rw [h.link hs' htype' r]
    refine ⟨fun ⟨t₁, h₁, hc, hp₁⟩ ↦ ?_, fun ⟨t₁, h₁, hc, hp₁⟩ ↦ ?_⟩
    · obtain ⟨t₂, h₂, hf₂⟩ := hf.forth h₁
      exact ⟨t₂, h₂, hf₂.complete hc, hf₂.parent.trans hp₁⟩
    · by_cases hr : r = t.id
      · subst hr
        obtain rfl := Option.some.inj (h₁.symm.trans hrow')
        have hpt : t.parentTransactionId = some x :=
          (POSTransaction.eq_of_origin hu.origin (·.parentTransactionId)).symm.trans hp₁
        exact absurd (Option.some.inj (hpt.symm.trans hp)) hx
      · by_cases hr' : r = original.id
        · subst hr'
          obtain rfl := Option.some.inj (h₁.symm.trans hsale')
          exact ⟨original, hsale, hss, hp₁⟩
        · rw [hothers hr hr'] at h₁
          exact ⟨t₁, h₁, hc, hp₁⟩

variable {settings : Settings} {said : Replies} {w w' : World}

/-- A completed row is of a sale, unless a refund was completed. -/
theorem Advances.sale_of_complete {t : POSTransaction} {u : TransactionUpdate}
    {held : Option POSTransaction} (hu : Advances said t u held)
    (hkind : ∀ k, t.status.kind = some k → t.txnType = k) (hs : (u.set t).status = .complete) :
    t.txnType = .sale := by
  cases hu with
  | moved hu =>
      cases hu with
      | retried hst => exact hkind _ (by rw [hst]; rfl)
      | retryFailed hst =>
          have hs' : t.status = .complete := hs
          rcases hst with hst | hst <;> exact nomatch hst.symm.trans hs'
      | cardFailed _ hv | cardTaken _ _ _ hv => rcases hv with rfl | rfl <;> cases hs
      | _ => cases hs
  | saleDone hst => exact hkind _ (by rw [hst]; rfl)
  | _ => cases hs

theorem Completes.kind {t : POSTransaction} {u : TransactionUpdate}
    {held : Option POSTransaction} (hu : Completes said t u held) :
    t.status.kind = some .refund := by
  cases hu with
  | done hs | retried hs => rw [hs]; rfl

/-- **A turn keeps the links.** -/
theorem Turn.links (h : Turn settings said w w') (hl : Links w.db) : Links w'.db := by
  cases h with
  | idle hrows => exact hl.same hrows
  | sale hrows =>
      exact hl.add hrows (fun _ _ hk ↦ Option.some.inj hk) (fun _ _ ↦ rfl)
        (fun _ (hs : TxnType.sale = .refund) ↦ (nomatch hs))
        (fun _ p _ _ (hp : none = some p) ↦ (nomatch hp))
        (fun _ (hs : Status.pendingValidation = .complete) ↦ (nomatch hs)) fun _ ↦ rfl
  | @refund original cashierId hrow htype hstatus hfree hrows =>
      refine hl.add hrows (fun _ _ hk ↦ Option.some.inj hk)
        (fun _ (hs : TxnType.refund = .sale) ↦ (nomatch hs)) (fun _ _ ↦ ?_)
        (fun _ p r t hp ht hpt ↦ ?_)
        (fun _ (hs : Status.refundPending = .complete) ↦ (nomatch hs))
        fun _ ↦ rfl
      · exact ⟨original.id, original, rfl, hrow, htype, hstatus, rfl⟩
      · obtain rfl : original.id = p := Option.some.inj hp
        exact hfree r t ht hpt
  | row hrow hu hrows =>
      exact hl.advance hrow hu.advanced (hu.sale_of_complete (hl.kind hrow)) hrows
  | refunded hrow hu horig hrows =>
      exact hl.refunded hrow hu.advanced hu.status hu.kind horig hrows

/-! ## Rows from one turn to the next -/

/-- What a turn makes of a row. -/
inductive Becomes (said : Replies) (t : POSTransaction) : POSTransaction → Prop
  | same : Becomes said t t
  | advances {u : TransactionUpdate} {held : Option POSTransaction} {now : Time}
      (hu : Advances said t u held) : Becomes said t ((u.touch now).set t)
  | completes {u : TransactionUpdate} {held : Option POSTransaction} {now : Time}
      (hu : Completes said t u held) : Becomes said t ((u.touch now).set t)
  | linked {r : Id} {now : Time} (hs : t.status = .complete) :
      Becomes said t (((Refund.linked r).touch now).set t)

theorem Becomes.follows {t t' : POSTransaction} (h : Becomes said t t')
    (hkind : ∀ k, t.status.kind = some k → t.txnType = k) : Follows t t' := by
  cases h with
  | same => exact .refl t
  | advances hu => exact .advanced hkind hu.advanced _
  | completes hu => exact .advanced hkind hu.advanced _
  | linked => exact .linked t _ _

/-- A row is there after a turn, as the turn has left it. -/
theorem Turn.becomes (h : Turn settings said w w') (hl : Links w.db) {x : Id}
    {t : POSTransaction} (ht : w.db.transaction x = some t) :
    ∃ t', w'.db.transaction x = some t' ∧ Becomes said t t' := by
  cases h with
  | idle hrows =>
      unfold Db.transaction at ht ⊢
      exact ⟨t, hrows ▸ ht, .same⟩
  | sale hrows | refund _ _ _ _ hrows =>
      unfold Db.transaction at ht ⊢
      exact ⟨t, hrows ▸ Table.get?_add_of_some ht, .same⟩
  | @row t₀ u held hrow hu hrows =>
      unfold Db.transaction at ht hrow ⊢
      rw [hrows, Table.get?_modify]
      by_cases hx : x = t₀.id
      · subst hx
        obtain rfl := Option.some.inj (ht.symm.trans hrow)
        exact ⟨_, by rw [if_pos rfl, ht, Option.map_some], .advances hu⟩
      · exact ⟨t, by rw [if_neg hx, ht], .same⟩
  | @refunded t₀ original u held hrow hu horig hrows =>
      have hsettles := hl.settles hrow hu.kind horig hrows
      by_cases hx : x = t₀.id
      · subst hx
        obtain rfl := Option.some.inj (ht.symm.trans hrow)
        exact ⟨_, hsettles.row', .completes hu⟩
      · by_cases hx' : x = original.id
        · subst hx'
          obtain rfl := Option.some.inj (ht.symm.trans hsettles.link)
          exact ⟨_, hsettles.link', .linked hsettles.complete⟩
        · exact ⟨t, (hsettles.others hx hx').trans ht, .same⟩

/-- A row that was not there is a new sale, or a new refund of a completed sale. -/
inductive Born (settings : Settings) (w : World) (x : Id) : POSTransaction → Prop
  | sale {cart : List RichLine} {cashierId : String} {customer : Checkout.CustomerAttachIn} :
      Born settings w x ((Checkout.newSale settings cart cashierId customer w.now).build x)
  | refund {original : POSTransaction} {cashierId : String}
      (hrow : w.db.transaction original.id = some original) (htype : original.txnType = .sale)
      (hs : original.status = .complete) :
      Born settings w x ((Refund.newRefund original cashierId w.now).build x)

theorem Turn.born (h : Turn settings said w w') (hl : Links w.db) {x : Id} {t' : POSTransaction}
    (hnone : w.db.transaction x = none) (ht' : w'.db.transaction x = some t') :
    Born settings w x t' := by
  cases h with
  | idle hrows =>
      unfold Db.transaction at hnone ht'
      rw [hrows, hnone] at ht'
      cases ht'
  | sale hrows =>
      unfold Db.transaction at hnone ht'
      rw [hrows] at ht'
      rcases Table.of_get?_add ht' with ⟨rfl, rfl⟩ | ⟨-, ht⟩
      · exact .sale
      · exact nomatch hnone.symm.trans ht
  | refund hrow htype hs _ hrows =>
      unfold Db.transaction at hnone ht'
      rw [hrows] at ht'
      rcases Table.of_get?_add ht' with ⟨rfl, rfl⟩ | ⟨-, ht⟩
      · exact .refund hrow htype hs
      · exact nomatch hnone.symm.trans ht
  | @row t₀ u held hrow hu hrows =>
      unfold Db.transaction at hnone ht'
      rw [hrows] at ht'
      rcases Table.of_get?_modify ht' with ⟨rfl, t, ht, -⟩ | ⟨-, ht⟩ <;>
        exact nomatch hnone.symm.trans ht
  | @refunded t₀ original u held hrow hu horig hrows =>
      have hsettles := hl.settles hrow hu.kind horig hrows
      have hx : x ≠ t₀.id := by
        rintro rfl
        exact nomatch hnone.symm.trans hrow
      have hx' : x ≠ original.id := by
        rintro rfl
        exact nomatch hnone.symm.trans hsettles.link
      rw [hsettles.others hx hx', hnone] at ht'
      cases ht'

/-! ## Serial runs -/

/-- What every turn keeps, a serial run keeps, with the links. -/
theorem Deployment.keeps (D : Deployment) {said : Replies} {P : World → Prop}
    (hP : ∀ {w w'}, Links w.db → P w → Turn D.settings said w w' → P w') {w w' : World}
    (h : D.Reaches said w w') (hl : Links w.db) (hw : P w) : Links w'.db ∧ P w' := by
  have hturns := Deployment.turns h
  clear h
  induction hturns with
  | refl => exact ⟨hl, hw⟩
  | tail _ ht ih => exact ⟨ht.links ih.1, hP ih.1 ih.2 ht⟩

/-- Refund rows and links. -/
structure RefundLinks (db : Db) : Prop where
  /-- A refund is of a `COMPLETE` sale. -/
  parent : ∀ {r t}, db.transaction r = some t → t.txnType = .refund →
    ∃ s sale, t.parentTransactionId = some s ∧ db.transaction s = some sale ∧
      sale.txnType = .sale ∧ sale.status = .complete
  /-- A sale has one refund at most in `REFUND_BLOCKING_STATES`. -/
  sole : ∀ {s r r' t t'}, db.transaction r = some t → db.transaction r' = some t' →
    t.parentTransactionId = some s → t'.parentTransactionId = some s →
    t.status ∈ Refund.refundBlockingStates → t'.status ∈ Refund.refundBlockingStates → r = r'
  /-- The link of a sale is its `COMPLETE` refund. -/
  link : ∀ {s sale}, db.transaction s = some sale → sale.txnType = .sale → ∀ r,
    sale.refundTransactionId = some r ↔ ∃ t, db.transaction r = some t ∧
      t.txnType = .refund ∧ t.status = .complete ∧ t.parentTransactionId = some s

theorem Links.refundLinks (h : Links db) : RefundLinks db where
  parent ht htype := by
    obtain ⟨s, sale, hp, hsale, hst, hs, -⟩ := h.parent ht htype
    exact ⟨s, sale, hp, hsale, hst, hs⟩
  sole := h.sole
  link hs htype r := by
    rw [h.link hs htype r]
    refine ⟨fun ⟨t, ht, hc, hp⟩ ↦ ⟨t, ht, h.refund_of_parent ht hp, hc, hp⟩, ?_⟩
    exact fun ⟨t, ht, _, hc, hp⟩ ↦ ⟨t, ht, hc, hp⟩

/-- A row in a status that nothing follows stays in it. -/
theorem status_stays (D : Deployment) {s : Status} (hs : s.leads = []) {x : Id}
    (h : D.Reaches said w w') (hl : Links w.db) {t : POSTransaction}
    (ht : w.db.transaction x = some t) (hst : t.status = s) :
    ∃ t', w'.db.transaction x = some t' ∧ t'.status = s := by
  refine (D.keeps (P := fun w ↦ ∃ t, w.db.transaction x = some t ∧ t.status = s)
    (fun hl ⟨t, ht, hst⟩ hturn ↦ ?_) h hl ⟨t, ht, hst⟩).2
  obtain ⟨t', ht', hb⟩ := hturn.becomes hl ht
  refine ⟨t', ht', ?_⟩
  rcases (hb.follows (hl.kind ht)).status with h | h
  · exact h.trans hst
  · rw [hst, hs] at h
    cases h

/-- **Refunds and their sales in a serial run**: the links hold in every state, and a refund
that failed or was cancelled stays so. -/
theorem refund_links (D : Deployment) {w : World} (ht : w.db.posTransactions = .empty)
    {c : Config World Call Answer PyExc} (h : D.SerialRun (.idle w) c) :
    RefundLinks c.state.db ∧ ∀ c', D.SerialRun c c' → ∀ r t,
      c.state.db.transaction r = some t → t.txnType = .refund →
      t.status = .refundPaymentFailed ∨ t.status = .cancelled →
      ∃ t', c'.state.db.transaction r = some t' ∧ t'.status = t.status := by
  have hl : Links c.state.db := (D.keeps (P := fun _ ↦ True) (fun _ _ _ ↦ trivial)
    (D.moves_of_run h .refl).1 (.empty ht) trivial).1
  refine ⟨hl.refundLinks, fun c' h' r t hrow _ hs ↦ ?_⟩
  refine status_stays D ?_ (D.moves_of_run h h').2 hl hrow rfl
  rcases hs with hs | hs <;> rw [hs] <;> rfl

/-- A mug is sold for cash; a first refund of it is cancelled, a second one is paid out. -/
def returned : List (Move World Call Answer Request) :=
  [.start (.startCheckout [Drawer.mug] "alice" none), .resume 0 Drawer.obliging,
    .start (.chargeCash 0 2000), .resume 0 Drawer.obliging,
    .start (.startRefund 0 "alice"), .start (.cancelRefund 1),
    .start (.startRefund 0 "alice"), .start (.chargeCashRefund 2), .resume 0 Drawer.obliging]

theorem refund_links_returned : RefundLinks ((Config.idle Drawer.newRegister).playAll
    (Deployment.sample.system .any) returned).state.db :=
  (refund_links Deployment.sample (w := Drawer.newRegister) rfl
    (Deployment.sample.run_of_playsAll (by decide +kernel))).1

example : (((Config.idle Drawer.newRegister).playAll (Deployment.sample.system .any)
    returned).state.db.transaction 0).map (·.refundTransactionId) = some (some 2) := by
  decide +kernel

end HightowerPos
