import HightowerPos.Commit
import HightowerPos.Data.Tally

/-!
# The books of the till sessions

A session keeps running counters of the transactions that are stamped with it.  `Books`
says that the counters are right; `Posting` is an abstract model of the drawer, in which a
transaction is changed before it is stamped, stamped and counted in one step, or left
alone.  The postings keep the books, and every commit of a serial run is made of postings.
-/

namespace HightowerPos.Drawer

/-! ## Counters -/

/-- Columns of a transaction that are never assigned. -/
structure Fixed (t t' : POSTransaction) : Prop where
  txnType : t'.txnType = t.txnType
  parent : t'.parentTransactionId = t.parentTransactionId
  total : t'.totalCents = t.totalCents
  cashier : t'.cashierId = t.cashierId

/-- A counter of a session, and what a transaction that is stamped with the session adds
to it. -/
structure Counter where
  column : TillSession → Int
  weight : POSTransaction → Int
  fresh : ∀ c l f o now k, column ((Till.newSession c l f o now).build k) = 0
  closing : ∀ s s' count counts now, column ((Till.closing s' count counts now).set s) = column s
  withPdfPath : ∀ s path, column ((Till.withPdfPath path).set s) = column s
  /-- What is counted does not depend on the other columns. -/
  weight_eq : ∀ {t t'}, Fixed t t' → t'.paymentMethod = t.paymentMethod → weight t' = weight t
  /-- `attribute_transaction` adds what the transaction weighs. -/
  tally : ∀ a : Till.Attribution,
    (a.txn.paymentMethod = some .cash → (a.isRefund = true ↔ a.txn.txnType = .refund)) →
    column (a.tally.set a.session) = column a.session + weight a.txn

namespace Counter

/-- `transaction_count`. -/
def transactions : Counter where
  column := (·.transactionCount)
  weight _ := 1
  fresh _ _ _ _ _ _ := rfl
  closing _ _ _ _ _ := rfl
  withPdfPath _ _ := rfl
  weight_eq _ _ := rfl
  tally a _ := by
    simp only [Till.Attribution.tally]
    split
    · split <;> rfl
    · rfl

/-- `cash_transaction_count`. -/
def cashTransactions : Counter where
  column := (·.cashTransactionCount)
  weight t := if t.paymentMethod = some .cash then 1 else 0
  fresh _ _ _ _ _ _ := rfl
  closing _ _ _ _ _ := rfl
  withPdfPath _ _ := rfl
  weight_eq _ hm := by rw [hm]
  tally a _ := by
    simp only [Till.Attribution.tally]
    split
    · split <;> rfl
    · exact (Int.add_zero _).symm

/-- `cash_sales_cents`. -/
def cashSales : Counter where
  column := (·.cashSalesCents)
  weight t := if t.paymentMethod = some .cash ∧ t.txnType = .sale then t.totalCents else 0
  fresh _ _ _ _ _ _ := rfl
  closing _ _ _ _ _ := rfl
  withPdfPath _ _ := rfl
  weight_eq h hm := by rw [hm, h.txnType, h.total]
  tally a ha := by
    simp only [Till.Attribution.tally]
    by_cases hm : a.txn.paymentMethod = some .cash
    · cases ht : a.txn.txnType <;> simp [hm, ha hm, ht]
    · simp [hm]

/-- `cash_refunds_cents`. -/
def cashRefunds : Counter where
  column := (·.cashRefundsCents)
  weight t := if t.paymentMethod = some .cash ∧ t.txnType = .refund then t.totalCents else 0
  fresh _ _ _ _ _ _ := rfl
  closing _ _ _ _ _ := rfl
  withPdfPath _ _ := rfl
  weight_eq h hm := by rw [hm, h.txnType, h.total]
  tally a ha := by
    simp only [Till.Attribution.tally]
    by_cases hm : a.txn.paymentMethod = some .cash
    · cases ht : a.txn.txnType <;> simp [hm, ha hm, ht]
    · simp [hm]

end Counter

/-! ## Books -/

/-- Statuses of a refund whose money is on its way out, or out. -/
def PaidOut (s : Status) : Prop :=
  s = .refundPaymentInFlight ∨ s = .refundPaymentSuccess ∨ s = .refundInventoryUpdateFailed

instance (s : Status) : Decidable (PaidOut s) := inferInstanceAs (Decidable (_ ∨ _ ∨ _))

/-- The refund of a completed sale, with the amounts negated. -/
def RefundsSale (db : Db) (t : POSTransaction) : Prop :=
  ∃ p original, t.parentTransactionId = some p ∧ db.transaction p = some original ∧
    original.status = .complete ∧ t.totalCents = -original.totalCents

/-- The counters of the sessions are right. -/
structure Books (db : Db) : Prop where
  /-- A cashier has one OPEN session at most. -/
  oneOpen : ∀ {x y s s'}, db.session x = some s → db.session y = some s' → s.status = .open →
    s'.status = .open → s.cashierId = s'.cashierId → x = y
  /-- Every counter counts the transactions that are stamped with the session. -/
  counted : ∀ (C : Counter) {x s}, db.session x = some s →
    C.column s = db.posTransactions.tally (·.tillSessionId) C.weight x
  /-- The expected closing of a CLOSED session is that of its counters. -/
  closed : ∀ {x s}, db.session x = some s → s.status = .closed →
    s.expectedClosingCents = some (Till.expectedClosing s)
  /-- A stamped transaction is COMPLETE, and of the cashier of its session. -/
  stamped : ∀ {x t y}, db.transaction x = some t → t.tillSessionId = some y →
    t.status = .complete ∧ ∃ s, db.session y = some s ∧ s.cashierId = t.cashierId
  /-- What is paid out is a refund, -/
  paidOut : ∀ {x t}, db.transaction x = some t → PaidOut t.status → t.txnType = .refund
  /-- of a completed sale. -/
  refunds : ∀ {x t}, db.transaction x = some t → t.txnType = .refund → RefundsSale db t

/-- Books without transactions and sessions. -/
theorem Books.empty {db : Db} (ht : db.posTransactions = .empty) (hs : db.tillSessions = .empty) :
    Books db where
  oneOpen h := by simp [Db.session, hs, Table.get?, Table.empty] at h
  counted _ _ _ h := by simp [Db.session, hs, Table.get?, Table.empty] at h
  closed h := by simp [Db.session, hs, Table.get?, Table.empty] at h
  stamped h := by simp [Db.transaction, ht, Table.get?, Table.empty] at h
  paidOut h := by simp [Db.transaction, ht, Table.get?, Table.empty] at h
  refunds h := by simp [Db.transaction, ht, Table.get?, Table.empty] at h

/-- What happens to the drawer. -/
inductive Posting : Db → Db → Prop
  | /-- A transaction arrives. -/
    add {db : Db} {d : Draft POSTransaction POSTransaction.id}
      (hstamp : ∀ k, (d.build k).tillSessionId = none)
      (hpaid : ∀ k, ¬ PaidOut (d.build k).status)
      (hrefund : ∀ k, (d.build k).txnType = .refund → RefundsSale db (d.build k)) :
      Posting db { db with posTransactions := db.posTransactions.add d }
  | /-- A transaction changes, and keeps its stamp. -/
    change {db : Db} {t : POSTransaction} {u : TransactionUpdate}
      (hrow : db.transaction t.id = some t) (hfixed : Fixed t (u.set t))
      (hstamp : (u.set t).tillSessionId = t.tillSessionId)
      (hdone : t.status = .complete →
        (u.set t).status = .complete ∧ (u.set t).paymentMethod = t.paymentMethod)
      (hpaid : PaidOut (u.set t).status → t.txnType = .refund) :
      Posting db { db with posTransactions := db.posTransactions.modify t.id u }
  | /-- A transaction is stamped and counted. -/
    post {db : Db} {t : POSTransaction} {s : TillSession} {u : TransactionUpdate} {v : TillUpdate}
      (hrow : db.transaction t.id = some t) (hopen : t.status ≠ .complete)
      (hsession : db.session s.id = some s) (hs : s.status = .open)
      (hcashier : s.cashierId = t.cashierId) (hfixed : Fixed t (u.set t))
      (hstamp : (u.set t).tillSessionId = some s.id) (hdone : (u.set t).status = .complete)
      (hcount : ∀ C : Counter, C.column (v.set s) = C.column s + C.weight (u.set t))
      (hsame : (v.set s).cashierId = s.cashierId ∧ (v.set s).status = s.status) :
      Posting db { db with
        posTransactions := db.posTransactions.modify t.id u
        tillSessions := db.tillSessions.modify s.id v }
  | /-- A session is opened. -/
    opened {db : Db} {d : Draft TillSession TillSession.id}
      (hopen : ∀ k, (d.build k).status = .open)
      (hzero : ∀ (C : Counter) k, C.column (d.build k) = 0)
      (hnone : ∀ {x s} k, db.session x = some s → s.status = .open →
        s.cashierId ≠ (d.build k).cashierId) :
      Posting db { db with tillSessions := db.tillSessions.add d }
  | /-- A session changes, and keeps its counters. -/
    amended {db : Db} {x : Id} {v : TillUpdate}
      (hcount : ∀ (C : Counter) s, C.column (v.set s) = C.column s)
      (hcashier : ∀ s, (v.set s).cashierId = s.cashierId)
      (hopen : ∀ s, (v.set s).status = .open → s.status = .open)
      (hclosed : ∀ s, db.session x = some s →
        (s.status = .closed → s.expectedClosingCents = some (Till.expectedClosing s)) →
        (v.set s).status = .closed →
        (v.set s).expectedClosingCents = some (Till.expectedClosing (v.set s))) :
      Posting db { db with tillSessions := db.tillSessions.modify x v }
  | /-- The outbox changes. -/
    outbox {db : Db} {table : Table FabricOutboxEntry FabricOutboxEntry.id} :
      Posting db { db with fabricOutbox := table }

/-! ## Postings keep the books -/

theorem Fixed.refl (t : POSTransaction) : Fixed t t := ⟨rfl, rfl, rfl, rfl⟩

/-- Completed transactions are still there, with their totals. -/
def KeepsCompleted (db db' : Db) : Prop :=
  ∀ p o, db.transaction p = some o → o.status = .complete →
    ∃ o', db'.transaction p = some o' ∧ o'.status = .complete ∧ o'.totalCents = o.totalCents

theorem RefundsSale.mono {db db' : Db} {t t' : POSTransaction} (h : RefundsSale db t)
    (hfixed : Fixed t t') (hkeeps : KeepsCompleted db db') : RefundsSale db' t' := by
  obtain ⟨p, original, hp, hrow, hs, htotal⟩ := h
  obtain ⟨original', hrow', hs', htotal'⟩ := hkeeps p original hrow hs
  refine ⟨p, original', hfixed.parent.trans hp, hrow', hs', ?_⟩
  rw [hfixed.total, htotal, htotal']

/-- A change of one row keeps the completed ones, when that row stays completed. -/
theorem keepsCompleted_modify {db db' : Db} {t : POSTransaction} {u : TransactionUpdate}
    (hdb : db'.posTransactions = db.posTransactions.modify t.id u)
    (hrow : db.transaction t.id = some t) (htotal : (u.set t).totalCents = t.totalCents)
    (hdone : t.status = .complete → (u.set t).status = .complete) : KeepsCompleted db db' := by
  intro p o ho hs
  unfold Db.transaction at ho hrow ⊢
  rw [hdb, Table.get?_modify]
  by_cases hp : p = t.id
  · subst hp
    obtain rfl := Option.some.inj (ho.symm.trans hrow)
    exact ⟨_, by rw [if_pos rfl, hrow, Option.map_some], hdone hs, htotal⟩
  · exact ⟨o, by rw [if_neg hp, ho], hs, rfl⟩

/-- The books after a change of one row. -/
theorem Books.change {db : Db} (h : Books db) (db' : Db) {t : POSTransaction}
    {u : TransactionUpdate} (hdb : db'.posTransactions = db.posTransactions.modify t.id u)
    (hrow : db.transaction t.id = some t) (hfixed : Fixed t (u.set t))
    (hdone : t.status = .complete → (u.set t).status = .complete)
    (hpaid : PaidOut (u.set t).status → t.txnType = .refund) {x : Id} {t' : POSTransaction}
    (ht' : db'.transaction x = some t') :
    (PaidOut t'.status → t'.txnType = .refund) ∧
      (t'.txnType = .refund → RefundsSale db' t') := by
  have hkeeps := keepsCompleted_modify hdb hrow hfixed.total hdone
  unfold Db.transaction at ht' hrow
  rw [hdb] at ht'
  rcases Table.of_get?_modify ht' with ⟨-, t₀, ht₀, rfl⟩ | ⟨-, ht₀⟩
  · obtain rfl := Option.some.inj (ht₀.symm.trans hrow)
    rw [hfixed.txnType]
    exact ⟨hpaid, fun htype ↦ (h.refunds ht₀ htype).mono hfixed hkeeps⟩
  · exact ⟨h.paidOut ht₀, fun htype ↦ (h.refunds ht₀ htype).mono (.refl _) hkeeps⟩

/-- **Postings keep the books.** -/
theorem Posting.books {db db' : Db} (hp : Posting db db') (h : Books db) : Books db' := by
  cases hp with
  | outbox => exact ⟨h.oneOpen, h.counted, h.closed, h.stamped, h.paidOut, h.refunds⟩
  | @add d hstamp hpaid hrefund =>
      have hkeeps : KeepsCompleted db { db with posTransactions := db.posTransactions.add d } :=
        fun p o ho hs ↦ ⟨o, Table.get?_add_of_some ho, hs, rfl⟩
      refine ⟨h.oneOpen, fun C x s hs ↦ ?_, h.closed, fun {x t y} ht hy ↦ ?_,
        fun {x t} ht hs ↦ ?_, fun {x t} ht htype ↦ ?_⟩
      · rw [h.counted C hs]
        exact (Table.tally_add hstamp).symm
      · rcases Table.of_get?_add ht with ⟨-, rfl⟩ | ⟨-, ht⟩
        · rw [hstamp] at hy
          cases hy
        · exact h.stamped ht hy
      · rcases Table.of_get?_add ht with ⟨-, rfl⟩ | ⟨-, ht⟩
        · exact absurd hs (hpaid _)
        · exact h.paidOut ht hs
      · rcases Table.of_get?_add ht with ⟨-, rfl⟩ | ⟨-, ht⟩
        · exact (hrefund _ htype).mono (.refl _) hkeeps
        · exact (h.refunds ht htype).mono (.refl _) hkeeps
  | @change t u hrow hfixed hstamp hdone hpaid =>
      have hrows := @Books.change db h
        { db with posTransactions := db.posTransactions.modify t.id u } t u rfl hrow hfixed
        (fun hs ↦ (hdone hs).1) hpaid
      refine ⟨h.oneOpen, fun C x s hs ↦ ?_, h.closed, fun {x t' y} ht hy ↦ ?_,
        fun ht ↦ (hrows ht).1, fun ht ↦ (hrows ht).2⟩
      · rw [h.counted C hs]
        refine (Table.tally_modify fun v hv ↦ ?_).symm
        obtain rfl := Option.some.inj (hv.symm.trans hrow)
        refine ⟨hstamp, fun hne ↦ ?_⟩
        obtain ⟨y, hy⟩ := Option.ne_none_iff_exists'.mp hne
        exact C.weight_eq hfixed (hdone (h.stamped hrow hy).1).2
      · rcases Table.of_get?_modify ht with ⟨-, t₀, ht₀, rfl⟩ | ⟨-, ht₀⟩
        · obtain rfl := Option.some.inj (ht₀.symm.trans hrow)
          rw [hstamp] at hy
          obtain ⟨hs, s, hsession, hcashier⟩ := h.stamped hrow hy
          exact ⟨(hdone hs).1, s, hsession, hcashier.trans hfixed.cashier.symm⟩
        · exact h.stamped ht₀ hy
  | @post t s u v hrow hopen hsession hs hcashier hfixed hstamp hdone hcount hsame =>
      have hrows := @Books.change db h
        { db with
          posTransactions := db.posTransactions.modify t.id u
          tillSessions := db.tillSessions.modify s.id v } t u rfl hrow hfixed (fun _ ↦ hdone)
        fun hp ↦ by rw [hdone] at hp; rcases hp with hp | hp | hp <;> cases hp
      have hnone : t.tillSessionId = none := by
        cases hy : t.tillSessionId with
        | none => rfl
        | some y => exact absurd (h.stamped hrow hy).1 hopen
      -- a session is as it was, the one that is posted to apart
      have hsessions {x : Id} {s' : TillSession}
          (hs' : (db.tillSessions.modify s.id v).get? x = some s') :
          ∃ s₀, db.session x = some s₀ ∧ s'.cashierId = s₀.cashierId ∧ s'.status = s₀.status ∧
            (s'.status = .open ∨ s' = s₀) := by
        rcases Table.of_get?_modify hs' with ⟨rfl, s₀, hs₀, rfl⟩ | ⟨-, hs₀⟩
        · obtain rfl := Option.some.inj (hs₀.symm.trans hsession)
          exact ⟨_, hs₀, hsame.1, hsame.2, .inl (hsame.2.trans hs)⟩
        · exact ⟨s', hs₀, rfl, rfl, .inr rfl⟩
      have hstill {y : Id} {s₀ : TillSession} (hs₀ : db.session y = some s₀) :
          ∃ s', (db.tillSessions.modify s.id v).get? y = some s' ∧
            s'.cashierId = s₀.cashierId := by
        by_cases hy : y = s.id
        · subst hy
          obtain rfl := Option.some.inj (hs₀.symm.trans hsession)
          exact ⟨_, Table.get?_modify_self.trans (congrArg _ hs₀), hsame.1⟩
        · exact ⟨s₀, (Table.get?_modify_ne hy).trans hs₀, rfl⟩
      refine ⟨fun {x y s₁ s₂} h₁ h₂ ho₁ ho₂ hc ↦ ?_, fun C x s' hs' ↦ ?_, fun {x s'} hs' hc ↦ ?_,
        fun {x t' y} ht hy ↦ ?_, fun ht ↦ (hrows ht).1, fun ht ↦ (hrows ht).2⟩
      · obtain ⟨s₁', h₁', hc₁, hs₁, -⟩ := hsessions h₁
        obtain ⟨s₂', h₂', hc₂, hs₂, -⟩ := hsessions h₂
        exact h.oneOpen h₁' h₂' (hs₁ ▸ ho₁) (hs₂ ▸ ho₂) (hc₁.symm.trans (hc.trans hc₂))
      · have htally := Table.tally_own POSTransaction.tillSessionId (g := C.weight)
          (s := x) (u := u) hrow hnone hstamp
        refine Eq.trans ?_ htally.symm
        rcases Table.of_get?_modify hs' with ⟨rfl, s₀, hs₀, rfl⟩ | ⟨hne, hs₀⟩
        · obtain rfl := Option.some.inj (hs₀.symm.trans hsession)
          rw [hcount, if_pos rfl, h.counted C hsession]
        · rw [if_neg hne, Int.add_zero, h.counted C hs₀]
      · obtain ⟨s₀, hs₀, -, -, ho | rfl⟩ := hsessions hs'
        · rw [hc] at ho
          cases ho
        · exact h.closed hs₀ hc
      · rcases Table.of_get?_modify ht with ⟨-, t₀, ht₀, rfl⟩ | ⟨-, ht₀⟩
        · obtain rfl := Option.some.inj (ht₀.symm.trans hrow)
          obtain rfl := Option.some.inj (hstamp.symm.trans hy)
          obtain ⟨s', hs', hc'⟩ := hstill hsession
          exact ⟨hdone, s', hs', hc'.trans (hcashier.trans hfixed.cashier.symm)⟩
        · obtain ⟨hs, s₀, hs₀, hc₀⟩ := h.stamped ht₀ hy
          obtain ⟨s', hs', hc'⟩ := hstill hs₀
          exact ⟨hs, s', hs', hc'.trans hc₀⟩
  | @opened d hopen hzero hnone =>
      refine ⟨fun {x y s s'} h₁ h₂ ho₁ ho₂ hc ↦ ?_, fun C x s hs ↦ ?_, fun {x s} hs hc ↦ ?_,
        fun {x t y} ht hy ↦ ?_, h.paidOut, h.refunds⟩
      · rcases Table.of_get?_add h₁ with ⟨rfl, rfl⟩ | ⟨-, h₁'⟩ <;>
          rcases Table.of_get?_add h₂ with ⟨rfl, rfl⟩ | ⟨-, h₂'⟩
        · rfl
        · exact absurd hc.symm (hnone _ h₂' ho₂)
        · exact absurd hc (hnone _ h₁' ho₁)
        · exact h.oneOpen h₁' h₂' ho₁ ho₂ hc
      · rcases Table.of_get?_add hs with ⟨rfl, rfl⟩ | ⟨-, hs⟩
        · -- no transaction is stamped with a session that was not there
          rw [hzero]
          refine (Table.tally_eq_zero fun t ht hy ↦ ?_).symm
          obtain ⟨-, s₀, hs₀, -⟩ := h.stamped (Table.get?_of_mem ht) hy
          exact absurd (hs₀.symm.trans (Table.get?_fresh _)) nofun
        · exact h.counted C hs
      · rcases Table.of_get?_add hs with ⟨rfl, rfl⟩ | ⟨-, hs⟩
        · rw [hopen] at hc
          cases hc
        · exact h.closed hs hc
      · obtain ⟨hs, s, hsession, hc⟩ := h.stamped ht hy
        exact ⟨hs, s, Table.get?_add_of_some hsession, hc⟩
  | @amended x v hcount hcashier hopen hclosed =>
      refine ⟨fun {y z s s'} h₁ h₂ ho₁ ho₂ hc ↦ ?_, fun C y s hs ↦ ?_, fun {y s} hs hc ↦ ?_,
        fun {y t z} ht hz ↦ ?_, h.paidOut, h.refunds⟩
      · have hwas {y : Id} {s : TillSession} (hs : (db.tillSessions.modify x v).get? y = some s)
            (ho : s.status = .open) :
            ∃ s₀, db.session y = some s₀ ∧ s₀.status = .open ∧ s.cashierId = s₀.cashierId := by
          rcases Table.of_get?_modify hs with ⟨rfl, s₀, hs₀, rfl⟩ | ⟨-, hs₀⟩
          · exact ⟨s₀, hs₀, hopen _ ho, hcashier _⟩
          · exact ⟨s, hs₀, ho, rfl⟩
        obtain ⟨s₁, h₁', ho₁', hc₁⟩ := hwas h₁ ho₁
        obtain ⟨s₂, h₂', ho₂', hc₂⟩ := hwas h₂ ho₂
        exact h.oneOpen h₁' h₂' ho₁' ho₂' (hc₁.symm.trans (hc.trans hc₂))
      · rcases Table.of_get?_modify hs with ⟨rfl, s₀, hs₀, rfl⟩ | ⟨-, hs₀⟩
        · exact (hcount C s₀).trans (h.counted C hs₀)
        · exact h.counted C hs₀
      · rcases Table.of_get?_modify hs with ⟨rfl, s₀, hs₀, rfl⟩ | ⟨-, hs₀⟩
        · exact hclosed s₀ hs₀ (h.closed hs₀) hc
        · exact h.closed hs₀ hc
      · obtain ⟨hs, s, hsession, hc⟩ := h.stamped ht hz
        refine ⟨hs, ?_⟩
        by_cases hzx : z = x
        · subst hzx
          exact ⟨_, Table.get?_modify_self.trans (congrArg _ hsession), (hcashier s).trans hc⟩
        · exact ⟨s, (Table.get?_modify_ne hzx).trans hsession, hc⟩

end HightowerPos.Drawer
