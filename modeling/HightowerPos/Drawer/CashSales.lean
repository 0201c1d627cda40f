import HightowerPos.Drawer.Ledger

/-!
# Cash sales and the drawer

The cash of a sale is taken in one commit of `charge_cash` and counted in another, after
Sentry has accepted the order.  A sale whose order Sentry does not accept at once is never
counted: `retry_one_sale` moves it to COMPLETE without a stamp.

The journal says which session was open for the cashier when the cash was taken.  In serial
runs in which Sentry accepts those orders, every session has counted each cash sale of it
exactly once, whenever no handler is under way.
-/

namespace HightowerPos.Drawer

open Async Relation

/-! ## Cash that was taken -/

/-- The commits that took cash while a session was open for the cashier. -/
def tenders (w : World) : List JournalEntry :=
  w.journal.filter fun e ↦ CashTaken e.row ∧ e.openTill.isSome

/-- Those while session `x` was open. -/
def recorded (w : World) (x : Id) : List JournalEntry :=
  (tenders w).filter fun e ↦ e.openTill = some x

/-- An update writes the row it leaves to the journal. -/
theorem journal_updateTransaction {w : World} {x : Id} {u : TransactionUpdate}
    {t : POSTransaction} (hrow : w.db.transaction x = some t) :
    (w.updateTransaction x u).journal = w.journal ++ [⟨(u.touch w.now).set t,
      (w.db.openSession ((u.touch w.now).set t).cashierId).map (·.id)⟩] := by
  have hget : (w.db.posTransactions.modify x (u.touch w.now)).get? x =
      some ((u.touch w.now).set t) := Table.get?_modify_self.trans (congrArg _ hrow)
  simp only [World.updateTransaction, hget, Option.map_some, Option.toList_some]

/-- An update that takes no cash. -/
theorem tenders_updateTransaction {w : World} {x : Id} {u : TransactionUpdate}
    {t : POSTransaction} (hrow : w.db.transaction x = some t) (hnot : ¬ CashTaken (u.set t)) :
    tenders (w.updateTransaction x u) = tenders w := by
  have hnot' : ¬ CashTaken ((u.touch w.now).set t) := hnot
  unfold tenders
  rw [journal_updateTransaction hrow, List.filter_append]
  simp [hnot']

/-- Counting takes no cash. -/
theorem tenders_commitTally (a : Option Till.Attribution) (w : World) :
    tenders (Till.commitTally a w) = tenders w := by
  cases a <;> rfl

/-! ## Writes that take no cash -/

/-- The sessions count the same cash sales; new ones have none. -/
def SameSales (db db' : Db) : Prop :=
  ∀ x s', db'.session x = some s' → (db.session x = none ∧ s'.cashSalesCents = 0) ∨
    ∃ s, db.session x = some s ∧ s'.cashSalesCents = s.cashSalesCents

theorem SameSales.of_sessions {db db' : Db} (h : db'.tillSessions = db.tillSessions) :
    SameSales db db' := by
  intro x s' hs'
  refine .inr ⟨s', ?_, rfl⟩
  unfold Db.session at hs' ⊢
  rwa [← h]

/-- A session that is changed in other columns. -/
theorem SameSales.modify {db db' : Db} {x : Id} {v : TillUpdate}
    (h : db'.tillSessions = db.tillSessions.modify x v)
    (hv : ∀ s, db.session x = some s → (v.set s).cashSalesCents = s.cashSalesCents) :
    SameSales db db' := by
  intro y s' hs'
  unfold Db.session at hs'
  rw [h] at hs'
  rcases Table.of_get?_modify hs' with ⟨rfl, s, hs, rfl⟩ | ⟨-, hs⟩
  · exact .inr ⟨s, hs, hv s hs⟩
  · exact .inr ⟨s', hs, rfl⟩

/-- A transaction that is not a cash sale is counted elsewhere. -/
theorem SameSales.commitTally {w w' : World} {t : POSTransaction} {isRefund : Bool}
    (h : w'.db.tillSessions = w.db.tillSessions)
    (hnot : t.paymentMethod = some .cash → isRefund = true) :
    SameSales w.db (Till.commitTally (w.attribution t isRefund) w').db := by
  unfold World.attribution
  cases hs : w.db.openSession t.cashierId with
  | none => exact .of_sessions h
  | some s =>
      refine .modify (v := Till.Attribution.tally ⟨s, t, isRefund⟩)
        (congrArg (fun table ↦ Table.modify table s.id _) h) fun s₀ hs₀ ↦ ?_
      obtain rfl := Option.some.inj (hs₀.symm.trans (Db.openSession_spec hs).1)
      simp only [Till.Attribution.tally]
      split
      · next hm => rw [hnot hm, if_pos rfl]
      · rfl

variable {settings : Settings} {said : Replies}

/-- **A write other than of `charge_cash` takes no cash and counts no cash sale.** -/
theorem quiet_of_commit {w w' : World} (h : Commit settings said w w') (hb : Books w.db) :
    tenders w' = tenders w ∧ SameSales w.db w'.db := by
  cases h with
  | sale | refund | outbox => exact ⟨rfl, .of_sessions rfl⟩
  | moved hrow hu =>
      exact ⟨tenders_updateTransaction hrow (moved_of_moves hu).notTaken, .of_sessions rfl⟩
  | saleNotSent hrow | refundNotSent hrow =>
      exact ⟨tenders_updateTransaction hrow fun h ↦ (nomatch h.1), .of_sessions rfl⟩
  | @saleDone t soId hrow hs hm =>
      refine ⟨?_, .commitTally rfl fun hc ↦ ?_⟩
      · refine (tenders_commitTally _ _).trans (tenders_updateTransaction hrow fun h ↦ ?_)
        generalize w.attribution ((Checkout.complete soId).set t) false = a at h
        cases a <;> cases h.1
      · cases (hm.symm.trans hc : some PaymentMethod.card = some PaymentMethod.cash)
  | @refundDone t original soId hrow hs horig =>
      obtain ⟨horow, hos, hne⟩ := hb.original hrow (.inr (.inl hs)) horig
      have hrows (a : Option Till.Attribution) : tenders ((w.updateTransaction t.id
          (Refund.completion soId a)).updateTransaction original.id (Refund.linked t.id)) =
            tenders w := by
        have horow' := ((w.updated_updateTransaction t.id (Refund.completion soId a)).others _
          hne).trans horow
        refine (tenders_updateTransaction horow' fun h ↦ ?_).trans
          (tenders_updateTransaction hrow fun h ↦ ?_)
        · exact absurd (hos.symm.trans h.1) nofun
        · cases a <;> cases h.1
      exact ⟨(tenders_commitTally _ _).trans (hrows _), .commitTally rfl fun _ ↦ rfl⟩
  | @refundRetried t original soId hrow hs hsaid horig =>
      obtain ⟨horow, hos, hne⟩ := hb.original hrow (.inr (.inr hs)) horig
      have horow' := ((w.updated_updateTransaction t.id
        (Reconciliation.retried soId t.retryCount)).others _ hne).trans horow
      refine ⟨(tenders_updateTransaction horow' fun h ↦ ?_).trans
        (tenders_updateTransaction hrow fun h ↦ nomatch h.1), .of_sessions rfl⟩
      exact absurd (hos.symm.trans h.1) nofun
  | @opened cashierId float counts hnone =>
      refine ⟨rfl, fun x s' hs' ↦ ?_⟩
      rcases Table.of_get?_add hs' with ⟨rfl, rfl⟩ | ⟨-, hs⟩
      · exact .inl ⟨Table.get?_fresh _, rfl⟩
      · exact .inr ⟨s', hs, rfl⟩
  | closed hrow hs => exact ⟨rfl, .modify rfl fun _ _ ↦ rfl⟩
  | rendered => exact ⟨rfl, .modify rfl fun _ _ ↦ rfl⟩
  | @posted q => cases q <;> exact ⟨rfl, .of_sessions rfl⟩

/-! ## The cash that was taken is counted -/

/-- Whatever cash was taken while a session was open is counted in that session. -/
structure Recorded (w : World) : Prop where
  books : Books w.db
  sales : ∀ {x s}, w.db.session x = some s →
    s.cashSalesCents = ((recorded w x).map (·.row.totalCents)).sum
  stamped : ∀ e ∈ tenders w, ∀ x, e.openTill = some x →
    ∃ t, w.db.transaction e.row.id = some t ∧ t.tillSessionId = some x
  once : ((tenders w).map (·.row.id)).Nodup

namespace Recorded

variable {w w' : World}

/-- Writes that take no cash and count no cash sale. -/
theorem quiet (h : Recorded w) (hp : ReflTransGen Posting w.db w'.db)
    (htenders : tenders w' = tenders w) (hsales : SameSales w.db w'.db) : Recorded w' := by
  obtain ⟨hbooks, hstamps⟩ := postings_keep hp h.books
  have hrecorded (x : Id) : recorded w' x = recorded w x := by
    unfold recorded
    rw [htenders]
  refine ⟨hbooks, fun {x s'} hs' ↦ ?_, fun e he x hx ↦ ?_, htenders ▸ h.once⟩
  · rw [hrecorded]
    rcases hsales x s' hs' with ⟨hnone, hzero⟩ | ⟨s, hs, hsame⟩
    · -- nothing was recorded for a session that was not there
      have hnil : recorded w x = [] := by
        refine List.filter_eq_nil_iff.mpr fun e he hx ↦ ?_
        obtain ⟨t, ht, hy⟩ := h.stamped e he x (of_decide_eq_true hx)
        obtain ⟨-, s, hs, -⟩ := h.books.stamped ht hy
        exact absurd (hnone.symm.trans hs) nofun
      rw [hnil, hzero]
      rfl
    · rw [hsame, h.sales hs]
  · obtain ⟨t, ht, hy⟩ := h.stamped e (htenders ▸ he) x hx
    exact hstamps ht hy

theorem commit (h : Recorded w) (hc : Commit settings said w w') : Recorded w' :=
  have hquiet := quiet_of_commit hc h.books
  h.quiet (postings_of_commit hc h.books) hquiet.1 hquiet.2

theorem drift (h : Recorded w) (hdb : w'.db = w.db) (hj : w'.journal = w.journal) :
    Recorded w' := by
  have htenders : tenders w' = tenders w := by
    unfold tenders
    rw [hj]
  exact h.quiet (hdb ▸ .refl) htenders (.of_sessions (congrArg _ hdb))

variable {t : POSTransaction} {amount : Cents} {soId : String}

/-- Cash that is taken while no session is open for the cashier. -/
theorem taken (h : Recorded w) (hrow : w.db.transaction t.id = some t)
    (hs : t.status = .awaitingPayment) (hnone : w.db.openSession t.cashierId = none) :
    Recorded (w.updateTransaction t.id (Checkout.cashTaken t.totalCents amount)) := by
  refine h.quiet (.single (posting_taken _ hrow hs)) ?_ (.of_sessions rfl)
  have hcashier : (((Checkout.cashTaken t.totalCents amount).touch w.now).set t).cashierId =
      t.cashierId := rfl
  unfold tenders
  rw [journal_updateTransaction hrow, List.filter_append, hcashier, hnone]
  simp

/-- Its sale is accepted by Sentry. -/
theorem done (h : Recorded w) (hrow : w.db.transaction t.id = some t)
    (hs : t.status = .paymentSuccess) (ht : t.txnType = .sale)
    (hm : t.paymentMethod = some .cash) (hnone : w.db.openSession t.cashierId = none) :
    Recorded (w.saleDone settings t soId) := by
  have hattribution : w.attribution ((Checkout.complete soId).set t) false = none := by
    unfold World.attribution
    rw [show ((Checkout.complete soId).set t).cashierId = t.cashierId from rfl, hnone,
      Option.map_none]
  refine h.quiet (postings_of_cashCommit (.saleDone hrow hs ht hm)) ?_ ?_
  all_goals unfold World.saleDone Checkout.commitComplete; simp only [hattribution]
  · exact tenders_updateTransaction hrow fun h ↦ nomatch h.1
  · exact .of_sessions rfl

/-- The journal entry of cash that is taken while a session is open. -/
theorem tenders_taken {s : TillSession} (hrow : w.db.transaction t.id = some t)
    (hopen : w.db.openSession t.cashierId = some s)
    (hj : w'.journal =
      (w.updateTransaction t.id (Checkout.cashTaken t.totalCents amount)).journal) :
    tenders w' = tenders w ++
      [⟨((Checkout.cashTaken t.totalCents amount).touch w.now).set t, some s.id⟩] := by
  have hcashier : (((Checkout.cashTaken t.totalCents amount).touch w.now).set t).cashierId =
      t.cashierId := rfl
  have htaken : CashTaken (((Checkout.cashTaken t.totalCents amount).touch w.now).set t) :=
    ⟨rfl, rfl⟩
  unfold tenders
  rw [hj, journal_updateTransaction hrow, List.filter_append, hcashier, hopen]
  simp [htaken]

/-- **Cash that is taken while a session is open is counted in that session** when Sentry
accepts the sale. -/
theorem counted (h : Recorded w) {s : TillSession} (hrow : w.db.transaction t.id = some t)
    (hs : t.status = .awaitingPayment) (ht : t.txnType = .sale)
    (hopen : w.db.openSession t.cashierId = some s) {t₁ : POSTransaction}
    (ht₁ : t₁ = ((Checkout.cashTaken t.totalCents amount).touch w.now).set t)
    (hdb : w'.db = (w.updateTransaction t.id (Checkout.cashTaken t.totalCents amount)).db)
    (hj : w'.journal =
      (w.updateTransaction t.id (Checkout.cashTaken t.totalCents amount)).journal) :
    Recorded (w'.saleDone settings t₁ soId) := by
  have hrow₁ : w'.db.transaction t₁.id = some t₁ := by
    rw [hdb, ht₁]
    exact row_saved hrow
  have hopen₁ : w'.db.openSession t₁.cashierId = some s := by
    rw [hdb, ht₁]
    exact hopen
  have hattribution : w'.attribution ((Checkout.complete soId).set t₁) false =
      some ⟨s, (Checkout.complete soId).set t₁, false⟩ := by
    unfold World.attribution
    rw [show ((Checkout.complete soId).set t₁).cashierId = t₁.cashierId from rfl, hopen₁,
      Option.map_some]
  have htenders : tenders (w'.saleDone settings t₁ soId) = tenders w ++ [⟨t₁, some s.id⟩] := by
    refine (tenders_commitTally _ _).trans ((tenders_updateTransaction hrow₁ fun h ↦ ?_).trans ?_)
    · rw [hattribution] at h
      cases h.1
    · rw [ht₁]
      exact tenders_taken hrow hopen hj
  have hdone : CashCommit settings w' (w'.saleDone settings t₁ soId) := by
    refine .saleDone hrow₁ ?_ ?_ ?_ <;> rw [ht₁]
    exacts [rfl, ht, rfl]
  have hpost : ReflTransGen Posting w.db (w'.saleDone settings t₁ soId).db :=
    .head (posting_taken amount hrow hs) (hdb ▸ postings_of_cashCommit hdone)
  obtain ⟨hbooks, hstamps⟩ := postings_keep hpost h.books
  have hsessions : (w'.saleDone settings t₁ soId).db.tillSessions = w.db.tillSessions.modify s.id
      (Till.Attribution.tally ⟨s, (Checkout.complete soId).set t₁, false⟩) := by
    unfold World.saleDone Checkout.commitComplete
    simp only [hattribution]
    change w'.db.tillSessions.modify s.id _ = _
    rw [hdb]
    rfl
  have hrow₃ : ∃ t', (w'.saleDone settings t₁ soId).db.transaction t₁.id = some t' ∧
      t'.tillSessionId = some s.id := by
    have hupdated := ((Till.updated_commitTally (w'.updated_updateTransaction t₁.id
      (Checkout.completion soId (w'.attribution ((Checkout.complete soId).set t₁) false)))
      (w'.attribution ((Checkout.complete soId).set t₁) false))).addOutboxEntry
        (w'.entry settings ((Checkout.complete soId).set t₁))
    refine ⟨_, hupdated.row_some hrow₁, ?_⟩
    rw [hattribution]
    rfl
  have hsession : w.db.session s.id = some s := (Db.openSession_spec hopen).1
  refine ⟨hbooks, fun {x s'} hs' ↦ ?_, fun e he x hx ↦ ?_, ?_⟩
  · unfold recorded
    rw [htenders, List.filter_append]
    unfold Db.session at hs'
    rw [hsessions] at hs'
    rcases Table.of_get?_modify hs' with ⟨rfl, s₀, hs₀, rfl⟩ | ⟨hne, hs₀⟩
    · obtain rfl := Option.some.inj (hs₀.symm.trans hsession)
      have hcash : ((Checkout.complete soId).set t₁).paymentMethod = some .cash := by
        rw [ht₁]
        rfl
      simp only [Till.Attribution.tally, hcash, if_true, Bool.false_eq_true, if_false,
        Till.Attribution.added_self]
      simp only [decide_true, List.filter_cons_of_pos, List.filter_nil, List.map_append,
        List.sum_append, List.map_cons, List.map_nil, List.sum_cons, List.sum_nil, Int.add_zero]
      exact congrArg (· + t₁.totalCents) (h.sales hsession)
    · have hother : ¬ (some s.id = some x) := fun h ↦ hne (Option.some.inj h).symm
      simp only [hother, decide_false, Bool.false_eq_true, not_false_eq_true,
        List.filter_cons_of_neg, List.filter_nil, List.append_nil]
      exact h.sales hs₀
  · rw [htenders] at he
    rcases List.mem_append.mp he with he | he
    · obtain ⟨t', ht', hy⟩ := h.stamped e he x hx
      exact hstamps ht' hy
    · obtain rfl := List.mem_singleton.mp he
      obtain rfl := Option.some.inj hx
      exact hrow₃
  · rw [htenders, List.map_append]
    refine List.Nodup.append h.once (List.nodup_singleton _) ?_
    -- cash was not taken for this sale before: it was awaiting its payment
    rintro y hy hmem
    obtain rfl : y = t₁.id := List.mem_singleton.mp hmem
    obtain ⟨e, he, hid⟩ := List.mem_map.mp hy
    obtain ⟨x, hx⟩ := Option.isSome_iff_exists.mp (of_decide_eq_true (List.mem_filter.mp he).2).2
    obtain ⟨t', ht', hstamp⟩ := h.stamped e he x hx
    have hid₁ : t₁.id = t.id := by
      rw [ht₁]
      exact App.id_touch_set _ _ _
    rw [hid, hid₁, hrow] at ht'
    obtain rfl := Option.some.inj ht'
    exact absurd (hs.symm.trans (h.books.stamped hrow hstamp).1) nofun

/-- A register before its first sale. -/
theorem empty (ht : w.db.posTransactions = .empty) (hs : w.db.tillSessions = .empty)
    (hj : w.journal = []) : Recorded w := by
  have htenders : tenders w = [] := by
    unfold tenders
    rw [hj]
    rfl
  refine ⟨.empty ht hs, fun h ↦ ?_, fun e he ↦ ?_, ?_⟩
  · simp [Db.session, hs, Table.get?, Table.empty] at h
  · rw [htenders] at he
    cases he
  · rw [htenders]
    exact .nil

end Recorded

/-! ## Serial runs in which Sentry accepts the cash sales -/

/-- Sentry accepts the order of a sale whose cash was taken while a session was open. -/
def AcceptsCashOrders (rt : Runtime) (w : World) : (q : Call) → Answer q → Prop
  | .sentryCreatePosSo request, outcome =>
      ∀ t s, w.db.transaction request.idempotencyKey = some t → CashTaken t →
        w.db.openSession t.cashierId = some s →
        ∃ result, Sentry.createPosSo rt outcome = .ok result
  | _, _ => True

/-- Serial runs with such a Sentry. -/
def accepting (D : Deployment) : Setting World Call Answer PyExc Request where
  sys := D.system .any
  quiet := Quiet
  accepts _ _ := True
  ok := AcceptsCashOrders D.runtime

/-- What the handlers keep in these runs. -/
def recording (settings : Settings) : Contract World where
  step := Commits settings .any
  inv w := Books w.db
  rest := Recorded

/-- Sentry accepts a cash sale of a cashier without a session. -/
inductive Untilled (settings : Settings) : World → World → Prop
  | done {w : World} {t : POSTransaction} {soId : String}
      (hrow : w.db.transaction t.id = some t) (hs : t.status = .paymentSuccess)
      (ht : t.txnType = .sale) (hm : t.paymentMethod = some .cash)
      (hnone : w.db.openSession t.cashierId = none) :
      Untilled settings w (w.saleDone settings t soId)

section Serves

variable {D : Deployment} {w : World}

/-- Writes that keep the record. -/
theorem serves_of_writes {p : App Unit} {g : World → Prop} (h : Recorded w)
    (hp : Writes D (fun _ _ ↦ True) .any
      (fun w w' ↦ Commit D.settings .any w w' ∨ Untilled D.settings w w') p w g) :
    p.Serves (accepting D) (recording D.settings) (fun _ ↦ True) w := by
  refine Prog.Serves.keep (E := D.serially (fun _ _ ↦ True) .any)
    (fun w q a _ ↦ Replies.any_covers _ w q a) (fun _ ↦ trivial) (fun _ ↦ trivial) ?_ ?_
    (wp_mono (fun _ _ _ hg ↦ ⟨trivial, hg⟩) hp) h
  · rintro w w' (h : Recorded w) (hc | ⟨hrow, hs, ht, hm, hnone⟩)
    · exact ⟨.inl hc, h.commit hc⟩
    · exact ⟨.inr (.saleDone hrow hs ht hm), h.done hrow hs ht hm hnone⟩
  · intro w w' (h : Recorded w) hd
    rcases hd with hd | ⟨q, -, rfl⟩
    · refine h.drift (World.Drift.db hd) ?_
      cases hd <;> rfl
    · exact h.drift (World.send_db q w) (World.send_journal q w)

theorem serves_chargeCash {x : Id} {amount : Cents} (h : Recorded w) :
    (Checkout.chargeCash D.runtime D.settings x amount).Serves (accepting D)
      (recording D.settings) (fun _ ↦ True) w := by
  unfold Prog.Serves Checkout.chargeCash
  rw [wp_bind]
  refine Checkout.wp_loadForPayment (fun t hrow ht hs ↦ ?_) fun e ↦ ⟨h, trivial⟩
  obtain rfl : t.id = x := Table.key_of_get? hrow
  by_cases ha : amount < t.totalCents
  · simp only [ha, if_true]
    exact ⟨h, trivial⟩
  · simp only [ha, if_false, wp_bind, App.wp_saveTransaction]
    refine ⟨.inr (.inr (.taken hrow hs ht (not_lt.mp ha))), ?_⟩
    unfold Checkout.sendToSentry
    simp only [wp_bind, wp_read]
    refine Contract.await_busy (by exact id) (.inl rfl) trivial trivial fun w' a hd hok ↦ ?_
    have hdrifts : (D.serially (fun _ _ ↦ True) .any).Drifts _ w' := hd
    obtain ⟨hdb, hj⟩ := Deployment.db_of_drifts hdrifts
    have hrow' := (congrArg (·.transaction t.id) hdb).trans (row_saved hrow)
    cases hopen : w.db.openSession t.cashierId with
    | none =>
        have hnone := (congrArg (·.openSession t.cashierId) hdb).trans hopen
        exact serves_of_writes ((h.taken hrow hs hopen).drift hdb hj)
          (writes_finishSend .inl hrow' rfl rfl fun soId ↦ .inr (.done hrow' rfl ht rfl hnone))
    | some s =>
        obtain ⟨result, hresult⟩ := hok _ s hrow' ⟨rfl, rfl⟩
          ((congrArg (·.openSession t.cashierId) hdb).trans hopen)
        unfold Checkout.finishSend
        simp only [wp_pure, hresult, wp_bind, Till.wp_attributeTransaction,
          FabricOutbox.wp_enqueue, App.wp_commit]
        exact ⟨.inr (.inr (.saleDone hrow' rfl ht rfl)),
          h.counted hrow hs ht hopen rfl hdb hj, trivial⟩

end Serves

theorem recording_sound (D : Deployment) : (recording D.settings).Sound (accepting D) where
  step {w w'} (h : Books w.db) hc := by
    rcases hc with hc | hc
    · exact (postings_keep (postings_of_commit hc h) h).1
    · exact (postings_keep (postings_of_cashCommit hc) h).1
  drift {w w'} (h : Books w.db) hd := by
    change Books w'.db
    rwa [World.Drift.db hd]
  drift_rest {w w'} (h : Recorded w) hd := by
    refine h.drift (World.Drift.db hd) ?_
    cases hd <;> rfl
  resend _ := .inl .posted
  resend_rest {w q} _ (h : Recorded w) := h.drift (World.send_db q w) (World.send_journal q w)
  serves i w _ _ h := by
    change (D.handle i).Serves (accepting D) (recording D.settings) (fun _ ↦ True) w
    by_cases hi : ∃ x amount, i = .chargeCash x amount
    · obtain ⟨x, amount, rfl⟩ := hi
      exact serves_chargeCash h
    · have hother : ∀ x amount, i ≠ .chargeCash x amount :=
        fun x amount heq ↦ hi ⟨x, amount, heq⟩
      exact serves_of_writes h (writes_handle hother .inl)

/-- **All the cash that was taken is in the till**, in every serial run in which Sentry
accepts the sales whose cash was taken: whenever no handler is under way, a session has
counted each cash sale of it, once. -/
theorem cash_in_till (D : Deployment) {w : World} (ht : w.db.posTransactions = .empty)
    (hs : w.db.tillSessions = .empty) (hj : w.journal = [])
    {c : Config World Call Answer PyExc}
    (h : Run (accepting D).sys (accepting D).guard (.idle w) c)
    (hrest : ∀ q ∈ c.calls, Quiet q) {x : Id} {s : TillSession}
    (hsession : c.state.db.session x = some s) :
    s.cashSalesCents = ((recorded c.state x).map (·.row.totalCents)).sum ∧
      ((recorded c.state x).map (·.row.id)).Nodup ∧
      ∀ e ∈ recorded c.state x, ∃ t, c.state.db.transaction e.row.id = some t ∧
        t.status = .complete ∧ t.tillSessionId = some x ∧ t.cashierId = s.cashierId := by
  have hempty : Recorded w := .empty ht hs hj
  have hrecorded : Recorded c.state :=
    ((Serial.idle hempty.books hempty).run (recording_sound D) h).1.rest hrest
  refine ⟨hrecorded.sales hsession, ?_, fun e he ↦ ?_⟩
  · exact hrecorded.once.sublist (List.filter_sublist.map _)
  · obtain ⟨he, hx⟩ := List.mem_filter.mp he
    obtain ⟨t, ht, hy⟩ := hrecorded.stamped e he x (of_decide_eq_true hx)
    obtain ⟨hs, s', hs', hcashier⟩ := hrecorded.books.stamped ht hy
    obtain rfl := Option.some.inj (hs'.symm.trans hsession)
    exact ⟨t, ht, hs, hy, hcashier.symm⟩

/-! ## A sale that Sentry refuses at first -/

/-- Alice sells a mug for cash. -/
def sale : List (Move World Call Answer Request) :=
  [.start (.openTill "alice" [("hundred", 1)]),
    .start (.startCheckout [mug] "alice" none), .resume 0 obliging,
    .start (.chargeCash 0 2000), .resume 0 obliging]

theorem obliging_accepts {w : World} {q : Call} {a : Answer q} (h : obliging q = some a) :
    AcceptsCashOrders .sample w q a := by
  cases q with
  | sentryCreatePosSo request =>
      obtain rfl := Option.some.inj h
      exact fun _ _ _ _ _ ↦ ⟨⟨"SO-1"⟩, rfl⟩
  | _ => trivial

/-- Sentry takes the order. -/
theorem cash_in_till_sale : ∃ s, ((Config.idle newRegister).playAll (accepting .sample).sys
      sale).state.db.session 0 = some s ∧
    s.cashSalesCents = ((recorded ((Config.idle newRegister).playAll (accepting .sample).sys
      sale).state 0).map (·.row.totalCents)).sum := by
  have hsession : (((Config.idle newRegister).playAll (accepting .sample).sys
      sale).state.db.session 0).isSome = true := by decide +kernel
  obtain ⟨s, hs⟩ := Option.isSome_iff_exists.mp hsession
  refine ⟨s, hs, (cash_in_till .sample (w := newRegister) rfl rfl rfl
    (Deployment.sample.run_of_answers (fun n answer hm w q a ha ↦ ?_) (by decide +kernel))
    (by decide +kernel) hs).1⟩
  simp only [sale, List.mem_cons, reduceCtorEq, Move.resume.injEq, List.not_mem_nil, false_or,
    or_false, or_self] at hm
  exact obliging_accepts (hm.2 ▸ ha)

/-- Sentry has no stock left. -/
def refusing : (q : Call) → Option (Answer q)
  | .sentryCreatePosSo _ => some fun _ ↦ .response 409 none
  | .sentryLogInboundActivity _ _ _ => some (.ok (.object []))
  | _ => none

/-- The order is refused, and sent again. -/
def refusedAtFirst : List (Move World Call Answer Request) :=
  [.start (.openTill "alice" [("hundred", 1)]),
    .start (.startCheckout [mug] "alice" none), .resume 0 obliging,
    .start (.chargeCash 0 2000), .resume 0 refusing, .resume 0 refusing,
    .start (.retrySentry 0), .resume 0 obliging]

/-- Sentry refuses the order of the sale, and accepts it when it is sent again: the session
never counts the 10.81 in its drawer. -/
theorem refused_cash_sale_not_counted :
    ∃ c : Config World Call Answer PyExc, Deployment.sample.SerialRun (.idle newRegister) c ∧
      c.calls = [] ∧
      (c.state.db.session 0).map (fun s ↦ (s.status, s.cashSalesCents)) = some (.open, 0) ∧
      ((recorded c.state 0).map (·.row.totalCents)).sum = 1081 ∧
      (c.state.db.transaction 0).map (fun t ↦ (t.status, t.tillSessionId)) =
        some (.complete, none) := by
  refine ⟨(Config.idle newRegister).playAll (Deployment.sample.system .any) refusedAtFirst,
    Deployment.sample.run_of_playsAll ?_, ?_, ?_, ?_, ?_⟩
  all_goals decide +kernel

end HightowerPos.Drawer
