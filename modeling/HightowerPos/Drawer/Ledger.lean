import HightowerPos.Drawer.Books

/-!
# The till ledger

Every commit of a serial run is made of postings, so the books of the till sessions are
right in every state of it, and a stamp is never changed.
-/

namespace HightowerPos.Drawer

open Async Relation

/-! ## Commits are postings -/

section Postings

variable {settings : Settings} {said : Replies} {w w' : World}

theorem Fixed.touch {t : POSTransaction} {u : TransactionUpdate} (h : Fixed t (u.set t))
    (now : Time) : Fixed t ((u.touch now).set t) := ⟨h.txnType, h.parent, h.total, h.cashier⟩

/-- Cash was taken for a sale, and Sentry has not answered yet. -/
def CashTaken (t : POSTransaction) : Prop :=
  t.status = .paymentSuccess ∧ t.paymentMethod = some .cash

instance (t : POSTransaction) : Decidable (CashTaken t) := inferInstanceAs (Decidable (_ ∧ _))

/-- What the moves of a transaction have in common. -/
structure Moved (t t' : POSTransaction) : Prop where
  hopen : t.status ≠ .complete
  fixed : Fixed t t'
  stamp : t'.tillSessionId = t.tillSessionId
  paidOut : PaidOut t'.status → t.txnType = .refund ∨ PaidOut t.status
  notTaken : ¬ CashTaken t'

/-- A move to a status in which nothing is taken or paid out. -/
theorem Moved.settled {t t' : POSTransaction} (s : Status) (hs : t'.status = s)
    (hnot : ¬ PaidOut s ∧ s ≠ .paymentSuccess) (hopen : t.status ≠ .complete)
    (hfixed : Fixed t t') (hstamp : t'.tillSessionId = t.tillSessionId) : Moved t t' :=
  ⟨hopen, hfixed, hstamp, fun hp ↦ absurd (hs ▸ hp) hnot.1,
    fun ht ↦ hnot.2 (hs.symm.trans ht.1)⟩

theorem moved_of_moves {t : POSTransaction} {u : TransactionUpdate} (h : Moves said t u) :
    Moved t (u.set t) := by
  have hopen {s s' : Status} (hs : t.status = s ∨ t.status = s')
      (hne : s ≠ .complete ∧ s' ≠ .complete) : t.status ≠ .complete := by
    rcases hs with hs | hs <;> rw [hs]
    exacts [hne.1, hne.2]
  cases h with
  | validated hs =>
      exact .settled .awaitingPayment rfl (by decide) (by simp [hs]) ⟨rfl, rfl, rfl, rfl⟩ rfl
  | validationFailed hs =>
      exact .settled .validationFailed rfl (by decide) (by simp [hs]) ⟨rfl, rfl, rfl, rfl⟩ rfl
  | cardUnavailable hs =>
      exact .settled .paymentFailed rfl (by decide) (by simp [hs]) ⟨rfl, rfl, rfl, rfl⟩ rfl
  | cardInFlight hs =>
      exact .settled .paymentInFlight rfl (by decide) (by simp [hs]) ⟨rfl, rfl, rfl, rfl⟩ rfl
  | cardFailed hs hv =>
      rcases hv with rfl | rfl <;>
        exact .settled .paymentFailed rfl (by decide) (hopen hs (by decide))
          ⟨rfl, rfl, rfl, rfl⟩ rfl
  | cardTaken hs hsaid hst hv =>
      have hnot : ¬ PaidOut .paymentSuccess := by decide
      rcases hv with rfl | rfl <;>
        exact ⟨hopen hs (by decide), ⟨rfl, rfl, rfl, rfl⟩, rfl, fun hp ↦ absurd hp hnot,
          fun h ↦ by cases h.2⟩
  | timedOut hs =>
      exact .settled .paymentFailed rfl (by decide) (by simp [hs]) ⟨rfl, rfl, rfl, rfl⟩ rfl
  | cancelled hs | refundCancelled hs =>
      exact .settled .cancelled rfl (by decide) (hopen hs (by decide)) ⟨rfl, rfl, rfl, rfl⟩ rfl
  | refundUnavailable hs | refundTimedOut hs =>
      exact .settled .refundPaymentFailed rfl (by decide) (by simp [hs]) ⟨rfl, rfl, rfl, rfl⟩ rfl
  | refundInFlight hs ht hm =>
      exact ⟨by simp [hs], ⟨rfl, rfl, rfl, rfl⟩, rfl, fun _ ↦ .inl ht, fun h ↦ by cases h.1⟩
  | refundFailed hs =>
      exact .settled .refundPaymentFailed rfl (by decide) (hopen hs (by decide))
        ⟨rfl, rfl, rfl, rfl⟩ rfl
  | cardRefunded hs hsaid hst =>
      refine ⟨hopen (hs.imp_left And.left) (by decide), ⟨rfl, rfl, rfl, rfl⟩, rfl, fun _ ↦ ?_,
        fun h ↦ by cases h.1⟩
      exact hs.imp (fun h ↦ h.2.1) .inl
  | cashRefunded hs ht hm =>
      exact ⟨by simp [hs], ⟨rfl, rfl, rfl, rfl⟩, rfl, fun _ ↦ .inl ht, fun h ↦ by cases h.1⟩
  | retried hs hsaid =>
      exact .settled .complete rfl (by decide) (by simp [hs]) ⟨rfl, rfl, rfl, rfl⟩ rfl
  | retryFailed hs =>
      refine ⟨hopen hs (by decide), ⟨rfl, rfl, rfl, rfl⟩, rfl, .inr, fun h ↦ ?_⟩
      have hst : t.status = .paymentSuccess := h.1
      rcases hs with hs | hs <;> simp [hs] at hst

/-- A move of a transaction is a posting. -/
theorem Moved.posting {t : POSTransaction} {u : TransactionUpdate} (h : Moved t (u.set t))
    (hb : Books w.db) (hrow : w.db.transaction t.id = some t) :
    Posting w.db (w.updateTransaction t.id u).db := by
  refine .change (u := u.touch w.now) hrow (h.fixed.touch _) h.stamp
    (fun hs ↦ absurd hs h.hopen) fun hp ↦ ?_
  exact (h.paidOut hp).elim id (hb.paidOut hrow)

/-- A transaction that Sentry has accepted is posted to the OPEN session of its cashier, if
there is one. -/
theorem posting_attributed (isRefund : Bool) {t : POSTransaction} {v : TransactionUpdate}
    (hrow : w.db.transaction t.id = some t) (hopen : t.status ≠ .complete)
    (hfixed : Fixed t (v.set t)) (hdone : (v.set t).status = .complete)
    (hstamp : (v.set t).tillSessionId = t.tillSessionId)
    (hkind : (v.set t).paymentMethod = some .cash → (isRefund = true ↔ t.txnType = .refund))
    {u : Option Till.Attribution → TransactionUpdate} (hnone : u none = v)
    (hsome : ∀ a, u (some a) = v.andThen a.stamp) :
    Posting w.db (Till.commitTally (w.attribution (v.set t) isRefund)
      (w.updateTransaction t.id (u (w.attribution (v.set t) isRefund)))).db := by
  have hcashier : (v.set t).cashierId = t.cashierId := hfixed.cashier
  have hnotOut : ¬ PaidOut (v.set t).status := by
    rw [hdone]
    rintro (h | h | h) <;> cases h
  unfold World.attribution
  rw [hcashier]
  cases hs : w.db.openSession t.cashierId with
  | none =>
      rw [Option.map_none, hnone]
      exact .change (u := v.touch w.now) hrow (hfixed.touch _) hstamp (fun hs ↦ absurd hs hopen)
        fun hp ↦ absurd hp hnotOut
  | some s =>
      obtain ⟨hsession, hsc, hopen'⟩ := Db.openSession_spec hs
      rw [Option.map_some, hsome]
      have hset := hfixed.touch w.now
      refine .post (s := s)
        (u := TransactionUpdate.touch (v.andThen (Till.Attribution.stamp _)) w.now) hrow hopen
        hsession hopen' hsc ⟨hset.txnType, hset.parent, hset.total, hset.cashier⟩ rfl hdone
        (fun C ↦ ?_) ?_
      · have htally := C.tally ⟨s, v.set t, isRefund⟩ fun hm ↦ by
          rw [hfixed.txnType]
          exact hkind hm
        rw [htally]
        refine congrArg _ (C.weight_eq ⟨?_, ?_, ?_, ?_⟩ ?_) <;> rfl
      · obtain ⟨hc, hst, -⟩ := Till.Attribution.tally_set ⟨s, v.set t, isRefund⟩ s
        exact ⟨hc, hst⟩

/-- A link is a posting. -/
theorem posting_linked (now : Time) {db : Db} {original : POSTransaction} {r : Id}
    (hrow : db.transaction original.id = some original) (hs : original.status = .complete) :
    Posting db { db with
      posTransactions := db.posTransactions.modify original.id ((Refund.linked r).touch now) } := by
  refine .change hrow ⟨rfl, rfl, rfl, rfl⟩ rfl (fun _ ↦ ⟨hs, rfl⟩) fun hp ↦ ?_
  have hp' : PaidOut original.status := hp
  rw [hs] at hp'
  rcases hp' with hp' | hp' | hp' <;> cases hp'

/-- The sale that a refund that is paid out refunds. -/
theorem Books.original {db : Db} (h : Books db) {t original : POSTransaction}
    (hrow : db.transaction t.id = some t) (hpaid : PaidOut t.status)
    (horig : t.parentTransactionId.bind db.transaction = some original) :
    db.transaction original.id = some original ∧ original.status = .complete ∧
      original.id ≠ t.id := by
  obtain ⟨p, original', hp, ho, hs, -⟩ := h.refunds hrow (h.paidOut hrow hpaid)
  rw [hp, Option.bind_some, ho] at horig
  obtain rfl := Option.some.inj horig
  have horow : db.transaction original'.id = some original' := by rwa [Table.key_of_get? ho]
  refine ⟨horow, hs, fun hid ↦ ?_⟩
  rw [hid, hrow] at horow
  obtain rfl := Option.some.inj horow
  rw [hs] at hpaid
  rcases hpaid with hp | hp | hp <;> cases hp

/-- **A commit is made of postings.** -/
theorem postings_of_commit (h : Commit settings said w w') (hb : Books w.db) :
    ReflTransGen Posting w.db w'.db := by
  cases h with
  | sale =>
      refine .single (.add (fun _ ↦ rfl) (fun _ hp ↦ ?_) nofun)
      rcases hp with hp | hp | hp <;> cases hp
  | refund hrow htype hstatus hfree =>
      refine .single (.add (fun _ ↦ rfl) (fun _ hp ↦ ?_) fun _ _ ↦
        ⟨_, _, rfl, hrow, hstatus, rfl⟩)
      rcases hp with hp | hp | hp <;> cases hp
  | moved hrow hu => exact .single ((moved_of_moves hu).posting hb hrow)
  | @saleNotSent t error hrow hs =>
      have hmoved : Moved t ((Checkout.inventoryUpdateFailed error).set t) :=
        .settled .inventoryUpdateFailed rfl (by decide) (by simp [hs]) ⟨rfl, rfl, rfl, rfl⟩ rfl
      exact (ReflTransGen.single (hmoved.posting hb hrow)).tail .outbox
  | @saleDone t soId hrow hs hm =>
      refine (ReflTransGen.single (posting_attributed false (v := Checkout.complete soId)
        hrow (by simp [hs]) ⟨rfl, rfl, rfl, rfl⟩ rfl rfl (fun hc ↦ ?_)
        (u := Checkout.completion soId) rfl fun _ ↦ rfl)).tail .outbox
      cases (hm.symm.trans hc : some PaymentMethod.card = some PaymentMethod.cash)
  | @refundNotSent t error hrow hs =>
      have hmoved : Moved t ((Refund.inventoryUpdateFailed error).set t) :=
        ⟨by simp [hs], ⟨rfl, rfl, rfl, rfl⟩, rfl, fun _ ↦ .inr (.inr (.inl hs)),
          fun h ↦ by cases h.1⟩
      exact (ReflTransGen.single (hmoved.posting hb hrow)).tail .outbox
  | @refundDone t original soId hrow hs horig =>
      have htype : t.txnType = .refund := hb.paidOut hrow (.inr (.inl hs))
      obtain ⟨horow, hos, hne⟩ := hb.original hrow (.inr (.inl hs)) horig
      have hposted := posting_attributed true (v := Refund.complete soId) hrow
        (by simp [hs]) ⟨rfl, rfl, rfl, rfl⟩ rfl rfl (fun _ ↦ ⟨fun _ ↦ htype, fun _ ↦ rfl⟩)
        (u := Refund.completion soId) rfl fun _ ↦ rfl
      generalize hheld : (Refund.complete soId).set t = held at hposted
      have horow' := ((Till.updated_commitTally (w.updated_updateTransaction t.id
        (Refund.completion soId (w.attribution held true))) (w.attribution held true)).others _
        hne).trans horow
      refine (((ReflTransGen.single hposted).tail
        (posting_linked w.now (r := t.id) horow' hos)).tail
        (@Posting.outbox _ (w.refundDone settings t original soId).db.fabricOutbox)).trans ?_
      unfold World.refundDone Refund.commitComplete
      simp only [hheld]
      have hid : held.id = t.id := by rw [← hheld]; rfl
      rw [hid]
      cases w.attribution held true <;> exact .refl
  | @refundRetried t original soId hrow hs hsaid horig =>
      obtain ⟨horow, hos, hne⟩ := hb.original hrow (.inr (.inr hs)) horig
      have hmoved : Moved t ((Reconciliation.retried soId t.retryCount).set t) :=
        .settled .complete rfl (by decide) (by simp [hs]) ⟨rfl, rfl, rfl, rfl⟩ rfl
      have horow' := ((w.updated_updateTransaction t.id
        (Reconciliation.retried soId t.retryCount)).others _ hne).trans horow
      exact (ReflTransGen.single (hmoved.posting hb hrow)).tail (posting_linked _ horow' hos)
  | opened hnone =>
      refine .single (.opened (fun _ ↦ rfl) (fun C k ↦ C.fresh _ _ _ _ _ _)
        fun {x s} k hs ho hc ↦ ?_)
      have := List.find?_eq_none.mp hnone s (Table.mem_of_get? hs)
      simp only [decide_eq_true_eq] at this
      exact this ⟨hc, ho⟩
  | closed hrow hs =>
      refine .single (.amended (fun C s ↦ C.closing _ _ _ _ _) (fun _ ↦ rfl)
        (fun _ (h : TillStatus.closed = .open) ↦ nomatch h) fun s' hs' _ _ ↦ ?_)
      obtain rfl := Option.some.inj (hs'.symm.trans hrow)
      rfl
  | rendered =>
      exact .single (.amended (fun C s ↦ C.withPdfPath _ _) (fun _ ↦ rfl) (fun _ h ↦ h)
        fun _ _ hc ↦ hc)
  | @posted q => cases q <;> exact .refl
  | outbox => exact .single .outbox

/-- Taking cash is a posting. -/
theorem posting_taken (amount : Cents) {t : POSTransaction}
    (hrow : w.db.transaction t.id = some t) (hs : t.status = .awaitingPayment) :
    Posting w.db (w.updateTransaction t.id (Checkout.cashTaken t.totalCents amount)).db := by
  refine .change hrow ⟨rfl, rfl, rfl, rfl⟩ rfl (fun hc ↦ ?_) fun hp ↦ ?_
  · rw [hs] at hc
    cases hc
  · rcases hp with hp | hp | hp <;> cases hp

theorem postings_of_cashCommit (h : CashCommit settings w w') :
    ReflTransGen Posting w.db w'.db := by
  cases h with
  | taken hrow hs => exact .single (posting_taken _ hrow hs)
  | @saleDone t soId hrow hs ht hm =>
      have hkind : ((Checkout.complete soId).set t).paymentMethod = some .cash →
          (false = true ↔ t.txnType = .refund) := fun _ ↦ by simp [ht]
      exact (ReflTransGen.single (posting_attributed false (v := Checkout.complete soId) hrow
        (by simp [hs]) ⟨rfl, rfl, rfl, rfl⟩ rfl rfl hkind (u := Checkout.completion soId) rfl
        fun _ ↦ rfl)).tail .outbox

end Postings

/-! ## Serial runs -/

/-- A stamp is never changed. -/
theorem Posting.stamp {db db' : Db} (hp : Posting db db') (h : Books db) {x y : Id}
    {t : POSTransaction} (ht : db.transaction x = some t) (hy : t.tillSessionId = some y) :
    ∃ t', db'.transaction x = some t' ∧ t'.tillSessionId = some y := by
  have hs := (h.stamped ht hy).1
  cases hp with
  | opened | amended | outbox => exact ⟨t, ht, hy⟩
  | add => exact ⟨t, Table.get?_add_of_some ht, hy⟩
  | @change t₀ u hrow _ hstamp =>
      by_cases hx : x = t₀.id
      · subst hx
        obtain rfl := Option.some.inj (ht.symm.trans hrow)
        exact ⟨_, Table.get?_modify_self.trans (congrArg _ ht), hstamp.trans hy⟩
      · exact ⟨t, (Table.get?_modify_ne hx).trans ht, hy⟩
  | @post t₀ s u v hrow hopen =>
      have hx : x ≠ t₀.id := by
        rintro rfl
        obtain rfl := Option.some.inj (ht.symm.trans hrow)
        exact hopen hs
      exact ⟨t, (Table.get?_modify_ne hx).trans ht, hy⟩

/-- What postings do to the books and to a stamp. -/
theorem postings_keep {db db' : Db} (hp : ReflTransGen Posting db db') (h : Books db) :
    Books db' ∧ ∀ {x y : Id} {t : POSTransaction}, db.transaction x = some t →
      t.tillSessionId = some y → ∃ t', db'.transaction x = some t' ∧ t'.tillSessionId = some y := by
  induction hp with
  | refl => exact ⟨h, fun ht hy ↦ ⟨_, ht, hy⟩⟩
  | tail _ hp ih =>
      refine ⟨hp.books ih.1, fun ht hy ↦ ?_⟩
      obtain ⟨t', ht', hy'⟩ := ih.2 ht hy
      exact hp.stamp ih.1 ht' hy'

/-- The moves of a serial run are made of postings. -/
theorem postings_of_moves {D : Deployment} {said : Replies} {w w' : World}
    (h : D.Reaches said w w')
    (hb : Books w.db) : ReflTransGen Posting w.db w'.db := by
  induction h with
  | refl => exact .refl
  | tail _ hm ih =>
      refine ih.trans ?_
      have hb' := (postings_keep ih hb).1
      rcases hm with (hc | hc) | hd
      · exact postings_of_commit hc hb'
      · exact postings_of_cashCommit hc
      · rw [hd.db]

/-- The till ledger. -/
structure Ledger (db : Db) : Prop where
  /-- A cashier has one OPEN session at most. -/
  oneOpen : ∀ cashierId, (db.tillSessions.select fun s ↦
    s.cashierId = cashierId ∧ s.status = .open).length ≤ 1
  transactionCount : ∀ s ∈ db.tillSessions.rows, s.transactionCount =
    (db.posTransactions.select fun t ↦ t.tillSessionId = some s.id).length
  cashTransactionCount : ∀ s ∈ db.tillSessions.rows, s.cashTransactionCount =
    (db.posTransactions.select fun t ↦
      t.tillSessionId = some s.id ∧ t.paymentMethod = some .cash).length
  cashSalesCents : ∀ s ∈ db.tillSessions.rows, s.cashSalesCents =
    ((db.posTransactions.select fun t ↦ t.tillSessionId = some s.id ∧
      t.paymentMethod = some .cash ∧ t.txnType = .sale).map (·.totalCents)).sum
  cashier : ∀ t ∈ db.posTransactions.rows, ∀ y, t.tillSessionId = some y →
    ∃ s, db.session y = some s ∧ s.cashierId = t.cashierId

/-- The books say what the ledger says. -/
theorem Books.ledger {db : Db} (h : Books db) : Ledger db where
  oneOpen cashierId := by
    have hmem : ∀ s ∈ db.tillSessions.select fun s ↦ s.cashierId = cashierId ∧ s.status = .open,
        db.session s.id = some s ∧ s.cashierId = cashierId ∧ s.status = .open := by
      intro s hs
      obtain ⟨hrow, hp⟩ := List.mem_filter.mp hs
      exact ⟨Table.get?_of_mem hrow, of_decide_eq_true hp⟩
    unfold Table.select at hmem ⊢
    have hnd := db.tillSessions.nodup.sublist ((List.filter_sublist
      (p := fun s ↦ s.cashierId = cashierId ∧ s.status = .open)).map TillSession.id)
    rcases hl : db.tillSessions.rows.filter _ with _ | ⟨s, _ | ⟨s', l⟩⟩
    · exact Nat.zero_le _
    · exact Nat.le_refl _
    · rw [hl] at hmem hnd
      obtain ⟨h₁, hc₁, ho₁⟩ := hmem s (by simp)
      obtain ⟨h₂, hc₂, ho₂⟩ := hmem s' (by simp)
      have := h.oneOpen h₁ h₂ ho₁ ho₂ (hc₁.trans hc₂.symm)
      simp [this] at hnd
  transactionCount s hs := by
    have hrow : db.session s.id = some s := Table.get?_of_mem hs
    have := Table.tally_indicator POSTransaction.tillSessionId db.posTransactions s.id
      fun _ ↦ True
    simp only [if_true, and_true] at this
    exact (h.counted .transactions hrow).trans this
  cashTransactionCount s hs := (h.counted .cashTransactions (Table.get?_of_mem hs)).trans
    (Table.tally_indicator ..)
  cashSalesCents s hs := (h.counted .cashSales (Table.get?_of_mem hs)).trans
    (Table.tally_filter ..)
  cashier t ht y hy := (h.stamped (Table.get?_of_mem ht) hy).2

/-- **The till ledger holds in every state of a serial run**, and a stamp stays. -/
theorem till_ledger (D : Deployment) {w : World} (ht : w.db.posTransactions = .empty)
    (hs : w.db.tillSessions = .empty) {c : Config World Call Answer PyExc}
    (h : D.SerialRun (.idle w) c) :
    Ledger c.state.db ∧ ∀ c', D.SerialRun c c' → ∀ x t y,
      c.state.db.transaction x = some t → t.tillSessionId = some y →
      ∃ t', c'.state.db.transaction x = some t' ∧ t'.tillSessionId = some y := by
  have hempty : Books w.db := .empty ht hs
  have hbooks : Books c.state.db :=
    (postings_keep (postings_of_moves (D.moves_of_run h .refl).1 hempty) hempty).1
  refine ⟨hbooks.ledger, fun c' h' x t y htx hy ↦ ?_⟩
  exact (postings_keep (postings_of_moves (D.moves_of_run h h').2 hbooks) hbooks).2 htx hy

/-! ## A day at the till -/

/-- A register before its first sale. -/
def newRegister : World where
  db :=
    { posTransactions := .empty
      tillSessions := .empty
      fabricOutbox := .empty
      posPrices := .single ⟨"mug", 1000, 0⟩
      posUsers := .empty }
  now := 0

/-- Sentry finds the cart valid and takes orders and refunds; Windcave approves the card. -/
def obliging : (q : Call) → Option (Answer q)
  | .sentryValidateCart _ => some (.ok (.object [(.ofString "valid", .bool true)]))
  | .sentryCreatePosSo _ => some (.ok (.order "SO-1"))
  | .sentryCreatePosRefund _ =>
      some (.ok (.object [(.ofString "refund_so_id", .str (.ofString "RO-1"))]))
  | .windcaveCharge _ _ =>
      some (.ok { complete := true, result := some { approved := true } })
  | _ => none

/-- A mug. -/
def mug : Checkout.CartLineIn := ⟨"mug", "Mug", "store", "A-1-1", 1, true⟩

/-- Alice opens her till, sells one mug for cash and one on card, and closes. -/
def day : List (Move World Call Answer Request) :=
  [.start (.openTill "alice" [("hundred", 1)]),
    .start (.startCheckout [mug] "alice" none), .resume 0 obliging,
    .start (.chargeCash 0 2000), .resume 0 obliging,
    .start (.startCheckout [mug] "alice" none), .resume 0 obliging,
    .start (.chargeCard 1), .resume 0 obliging, .resume 0 obliging,
    .start (.closeTill "alice" [("hundred", 1)])]

theorem till_ledger_day :
    Ledger ((Config.idle newRegister).playAll (Deployment.sample.system .any) day).state.db :=
  (till_ledger Deployment.sample (w := newRegister) rfl rfl
    (Deployment.sample.run_of_playsAll (by decide +kernel))).1

example : (((Config.idle newRegister).playAll (Deployment.sample.system .any) day).state.db.session
    0).map (fun s ↦ (s.transactionCount, s.cashTransactionCount, s.cashSalesCents)) =
      some (2, 1, 1081) := by
  decide +kernel

end HightowerPos.Drawer
