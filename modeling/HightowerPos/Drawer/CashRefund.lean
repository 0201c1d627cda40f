import HightowerPos.Drawer.Ledger

/-!
# Cash refunds and the drawer

`start_refund` stores the amounts of a refund negated; `attribute_transaction` adds the
stored total to `cash_refunds_cents`, as if it were the amount handed back, and the expected
closing subtracts that column.  So a cash refund raises the expected closing.
-/

namespace HightowerPos.Drawer

open Async Relation

/-! ## One refund -/

/-- What handing `t` cents back should do to the session of the cashier. -/
structure Falls (t : Cents) (s s' : TillSession) : Prop where
  refunds : s'.cashRefundsCents = s.cashRefundsCents + t
  sales : s'.cashSalesCents = s.cashSalesCents
  closing : ∀ count counts now,
    ((Till.closing s' count counts now).set s').expectedClosingCents =
      some (Till.expectedClosing s - t)
  current : (Till.currentResponse s').expectedClosingCents =
    (Till.currentResponse s).expectedClosingCents - t

/-- Sentry accepts every refund. -/
def AcceptsRefunds (rt : Runtime) (answer : (q : Call) → Option (Answer q)) : Prop :=
  ∀ req, ∃ outcome result, answer (.sentryCreatePosRefund req) = some outcome ∧
    Sentry.createPosRefund rt outcome = .ok result

section Refund

variable {D : Deployment} {answer : (q : Call) → Option (Answer q)} {w : World}

/-- A refund that was started is stored. -/
theorem startRefund_stored {w₁ : World} {x : Id} {cashierId : String}
    {refund original : POSTransaction}
    (h : (Refund.startRefund D.settings x cashierId).exec World.send answer w =
      (w₁, some (.ok refund)))
    (hrow : w.db.transaction x = some original) :
    w₁ = w.addTransaction (Refund.newRefund original cashierId w.now) ∧
      refund = (Refund.newRefund original cashierId w.now).build w.db.posTransactions.fresh := by
  have hwp : (Refund.startRefund D.settings x cashierId).wp (.alone World.send answer)
      (fun _ r w' ↦ ∀ refund, r = .ok refund →
        w' = w.addTransaction (Refund.newRefund original cashierId w.now) ∧
        refund = (Refund.newRefund original cashierId w.now).build w.db.posTransactions.fresh)
      () w := by
    unfold Refund.startRefund
    rw [wp_bind]
    refine Refund.wp_lookupRefund (fun original' ho _ _ _ ↦ ?_) fun e refund h ↦ nomatch h
    obtain rfl := Option.some.inj (ho.symm.trans hrow)
    refine ⟨trivial, fun refund h ↦ ⟨rfl, ?_⟩⟩
    exact (Except.ok.inj h).symm
  obtain ⟨r, hr, hstored⟩ := (wp_alone ..).mp hwp
  rw [h] at hr hstored
  exact hstored refund (Option.some.inj hr).symm

/-- The counters of a session after a cash refund with this stored total. -/
def Counted (s : TillSession) (total : Cents) (w : World) : Prop :=
  ∃ s', w.db.session s.id = some s' ∧ s'.cashRefundsCents = s.cashRefundsCents + total ∧
    s'.cashSalesCents = s.cashSalesCents ∧ s'.openingFloatCents = s.openingFloatCents

/-- A refund that Sentry accepts is counted. -/
theorem counted_of_finishSend {refund original : POSTransaction} {request : RefundRequest}
    {outcome : Attempts} {result : RefundResult} {s : TillSession}
    (hresult : Sentry.createPosRefund D.runtime outcome = .ok result)
    (hm : refund.paymentMethod = some .cash)
    (hopen : w.db.openSession refund.cashierId = some s) :
    (Refund.finishSend D.runtime D.settings refund original request outcome).wp
      (.alone World.send answer) (fun _ _ ↦ Counted s refund.totalCents) () w := by
  unfold Refund.finishSend
  rw [hresult]
  simp only [wp_bind, Till.wp_attributeTransaction, FabricOutbox.wp_enqueue, App.wp_commit]
  refine ⟨trivial, ?_⟩
  have hopen' : w.db.openSession ((Refund.complete result.refundSoId).set refund).cashierId =
      some s := hopen
  have hm' : ((Refund.complete result.refundSoId).set refund).paymentMethod = some .cash := hm
  rw [hopen', Option.map_some]
  obtain ⟨hsession, -, -⟩ := Db.openSession_spec hopen
  refine ⟨_, Table.get?_modify_self.trans (congrArg _ hsession), ?_⟩
  simp only [Till.Attribution.tally, hm', if_true, Till.Attribution.added_self, and_true]
  rfl

/-- The session after a cash refund that Sentry has accepted. -/
theorem counted_of_chargeCashRefund (haccepts : AcceptsRefunds D.runtime answer)
    {refund original : POSTransaction} {s : TillSession}
    (hrow : w.db.transaction refund.id = some refund) (ht : refund.txnType = .refund)
    (hs : refund.status = .refundPending) (hm : refund.paymentMethod = some .cash)
    (horig : refund.parentTransactionId.bind w.db.transaction = some original)
    (hopen : w.db.openSession refund.cashierId = some s) :
    Counted s refund.totalCents ((Refund.chargeCashRefund D.runtime D.settings refund.id).exec
      World.send answer w).1 := by
  suffices hwp : (Refund.chargeCashRefund D.runtime D.settings refund.id).wp
      (.alone World.send answer) (fun _ _ ↦ Counted s refund.totalCents) () w by
    obtain ⟨-, -, hcounted⟩ := (wp_alone ..).mp hwp
    exact hcounted
  obtain ⟨p, hp, ho⟩ := Option.bind_eq_some_iff.mp horig
  -- the sale that is refunded is still there when the cash has been handed back
  obtain ⟨original', ho', -⟩ := (w.updated_updateTransaction refund.id
    (Refund.cashRefunded refund.totalCents)).row_of ho
  have hparent : (((Refund.cashRefunded refund.totalCents).touch w.now).set
      refund).parentTransactionId.bind (w.updateTransaction refund.id
        (Refund.cashRefunded refund.totalCents)).db.transaction = some original' :=
    Option.bind_eq_some_iff.mpr ⟨p, hp, ho'⟩
  unfold Refund.chargeCashRefund Refund.loadRefundForPayment Refund.sendRefundToSentry
  simp only [wp_bind, App.wp_getTransaction, hrow, ht, hs, hm, ne_eq, not_true_eq_false, if_false,
    wp_pure, Prog.pure_eq, App.wp_saveTransaction, wp_read]
  refine ⟨trivial, ?_⟩
  rw [hparent]
  obtain ⟨outcome, result, houtcome, hresult⟩ := haccepts (Refund.buildRefundRequest
    (((Refund.cashRefunded refund.totalCents).touch w.now).set refund) original' w.now)
  refine ⟨outcome, houtcome, ?_⟩
  exact @counted_of_finishSend D answer _
    (((Refund.cashRefunded refund.totalCents).touch w.now).set refund) original' _ _ result s
    hresult hm hopen

/-- The expected closing rises by what was handed back. -/
theorem falls_iff {s s' : TillSession} {t : Cents}
    (hrefunds : s'.cashRefundsCents = s.cashRefundsCents + -t)
    (hsales : s'.cashSalesCents = s.cashSalesCents)
    (hfloat : s'.openingFloatCents = s.openingFloatCents) : Falls t s s' ↔ t = 0 := by
  have hexpected : Till.expectedClosing s' = Till.expectedClosing s + t := by
    unfold Till.expectedClosing
    grind
  refine ⟨fun h ↦ ?_, fun h ↦ ⟨by grind, hsales, fun _ _ _ ↦ ?_, ?_⟩⟩
  · have := h.refunds
    grind
  · exact congrArg some (by grind)
  · change Till.expectedClosing s' = Till.expectedClosing s - t
    grind

/-- A cash refund, from `start_refund` to Sentry's answer. -/
theorem falls_of_cashRefund (haccepts : AcceptsRefunds D.runtime answer) {w₁ : World} {x : Id}
    {cashierId : String} {refund original : POSTransaction} {s : TillSession}
    (hrow : w.db.transaction x = some original) (hm : original.paymentMethod = some .cash)
    (hopen : w.db.openSession cashierId = some s)
    (h : (Refund.startRefund D.settings x cashierId).exec World.send answer w =
      (w₁, some (.ok refund))) :
    ∃ s', ((Refund.chargeCashRefund D.runtime D.settings refund.id).exec World.send answer
        w₁).1.db.session s.id = some s' ∧
      (Falls original.totalCents s s' ↔ original.totalCents = 0) := by
  obtain rfl : original.id = x := Table.key_of_get? hrow
  obtain ⟨rfl, rfl⟩ := startRefund_stored h hrow
  have horig : ((Refund.newRefund original cashierId w.now).build
      w.db.posTransactions.fresh).parentTransactionId.bind
        (w.addTransaction (Refund.newRefund original cashierId w.now)).db.transaction =
      some original := Table.get?_add_of_some hrow
  obtain ⟨s', hs', hrefunds, hsales, hfloat⟩ := counted_of_chargeCashRefund haccepts
    (w := w.addTransaction (Refund.newRefund original cashierId w.now)) row_stored rfl rfl hm
    horig hopen
  exact ⟨s', hs', falls_iff hrefunds hsales hfloat⟩

end Refund

/-! ## All the refunds of a session -/

/-- The cash sales that are stamped with a session. -/
def cashSalesOf (db : Db) (x : Id) : List POSTransaction :=
  db.posTransactions.select fun t ↦
    t.tillSessionId = some x ∧ t.paymentMethod = some .cash ∧ t.txnType = .sale

/-- The cash refunds that are stamped with a session. -/
def cashRefundsOf (db : Db) (x : Id) : List POSTransaction :=
  db.posTransactions.select fun t ↦
    t.tillSessionId = some x ∧ t.paymentMethod = some .cash ∧ t.txnType = .refund

/-- The cash that is in the drawer: the float, with what was taken and without what was
handed back. -/
def drawerCents (db : Db) (s : TillSession) : Cents :=
  s.openingFloatCents + ((cashSalesOf db s.id).map (·.totalCents)).sum -
    ((cashRefundsOf db s.id).map fun t ↦ (t.totalCents.natAbs : Int)).sum

/-- The expected closing that is reported, and the one that a CLOSED session has stored. -/
def ExpectedRight (db : Db) (s : TillSession) : Prop :=
  Till.expectedClosing s = drawerCents db s ∧
    (s.status = .closed → s.expectedClosingCents = some (drawerCents db s))

/-- A sum is the sum of the absolute amounts when no amount is negative. -/
theorem sum_natAbs_iff {α : Type} (g : α → Int) (l : List α) :
    (l.map g).sum ≤ (l.map fun x ↦ ((g x).natAbs : Int)).sum ∧
      ((l.map g).sum = (l.map fun x ↦ ((g x).natAbs : Int)).sum ↔ ∀ x ∈ l, 0 ≤ g x) := by
  induction l with
  | nil => simp
  | cons y l ih =>
      simp only [List.map_cons, List.sum_cons, List.forall_mem_cons]
      rw [← ih.2]
      have := ih.1
      omega

/-- Counters that are right give the expected closing of the amounts as they are stored. -/
theorem expectedRight_iff {db : Db} (h : Books db) {s : TillSession}
    (hs : db.session s.id = some s) :
    ExpectedRight db s ↔ ∀ t ∈ cashRefundsOf db s.id, 0 ≤ t.totalCents := by
  have hsales : s.cashSalesCents = ((cashSalesOf db s.id).map (·.totalCents)).sum :=
    (h.counted .cashSales hs).trans (Table.tally_filter ..)
  have hrefunds : s.cashRefundsCents = ((cashRefundsOf db s.id).map (·.totalCents)).sum :=
    (h.counted .cashRefunds hs).trans (Table.tally_filter ..)
  rw [← (sum_natAbs_iff _ _).2, ← hrefunds]
  have hexpected : Till.expectedClosing s = drawerCents db s ↔ s.cashRefundsCents =
      ((cashRefundsOf db s.id).map fun t ↦ (t.totalCents.natAbs : Int)).sum := by
    unfold Till.expectedClosing drawerCents
    rw [hsales]
    constructor <;> intro heq <;> grind
  rw [← hexpected]
  exact ⟨And.left, fun heq ↦ ⟨heq, fun hc ↦ (h.closed hs hc).trans (congrArg some heq)⟩⟩

/-- A stored refund is positive when the sale that it refunds is negative. -/
theorem refund_nonneg_iff {db : Db} (h : Books db) {t : POSTransaction} {x : Id}
    (ht : t ∈ cashRefundsOf db x) :
    0 ≤ t.totalCents ↔ ∀ original, t.parentTransactionId.bind db.transaction = some original →
      original.totalCents ≤ 0 := by
  obtain ⟨hrow, hp⟩ := List.mem_filter.mp ht
  obtain ⟨-, -, htype⟩ := of_decide_eq_true hp
  obtain ⟨p, original, hparent, ho, -, htotal⟩ := h.refunds (Table.get?_of_mem hrow) htype
  have hbind : t.parentTransactionId.bind db.transaction = some original := by
    rw [hparent, Option.bind_some, ho]
  rw [htotal, hbind]
  constructor
  · intro hle _ ho
    obtain rfl := Option.some.inj ho
    grind
  · intro hle
    have := hle original rfl
    grind

/-- **Cash refunds and the expected closing.**  A cash refund lowers the expected closing by
what is handed back only when that is nothing; and the expected closing of a session is
right only when every cash refund stamped with it is of a sale of nothing, or less. -/
theorem cash_refund_lowers_drawer_iff (D : Deployment) :
    (∀ (answer : (q : Call) → Option (Answer q)), AcceptsRefunds D.runtime answer →
      ∀ (w w₁ : World) (x : Id) (cashierId : String) (refund original : POSTransaction)
        (s : TillSession), w.db.transaction x = some original →
        original.paymentMethod = some .cash → w.db.openSession cashierId = some s →
        (Refund.startRefund D.settings x cashierId).exec World.send answer w =
          (w₁, some (.ok refund)) →
        ∃ s', ((Refund.chargeCashRefund D.runtime D.settings refund.id).exec World.send answer
            w₁).1.db.session s.id = some s' ∧
          (Falls original.totalCents s s' ↔ original.totalCents = 0)) ∧
    ∀ w : World, w.db.posTransactions = .empty → w.db.tillSessions = .empty →
      ∀ c, D.SerialRun (.idle w) c → ∀ x s, c.state.db.session x = some s →
        (ExpectedRight c.state.db s ↔ ∀ t ∈ cashRefundsOf c.state.db s.id, ∀ original,
          t.parentTransactionId.bind c.state.db.transaction = some original →
            original.totalCents ≤ 0) := by
  refine ⟨fun answer haccepts w w₁ x cashierId refund original s hrow hm hopen h ↦
    falls_of_cashRefund haccepts hrow hm hopen h, fun w ht hs c h x s hsession ↦ ?_⟩
  have hbooks : Books c.state.db := by
    have hempty : Books w.db := .empty ht hs
    exact (postings_keep (postings_of_moves (D.moves_of_run h .refl).1 hempty) hempty).1
  obtain rfl : s.id = x := Table.key_of_get? hsession
  rw [expectedRight_iff hbooks hsession]
  exact forall₂_congr fun t ht ↦ refund_nonneg_iff hbooks ht

/-- A sale of 10.81 that was paid in cash. -/
def paidInCash : World :=
  .atTill { POSTransaction.sample .complete with paymentMethod := some .cash }

/-- The expected closing is wrong after a refund, and right on a day without one. -/
theorem cash_refund_lowers_drawer_iff_mug :
    (∃ s', ((Refund.chargeCashRefund Deployment.sample.runtime Deployment.sample.settings 1).exec
        World.send obliging ((Refund.startRefund Deployment.sample.settings 0 "alice").exec
          World.send obliging paidInCash).1).1.db.session 0 = some s' ∧ ¬ Falls 1081 .sample s') ∧
      ∀ s, ((Config.idle newRegister).playAll (Deployment.sample.system .any)
        day).state.db.session 0 = some s → ExpectedRight
          ((Config.idle newRegister).playAll (Deployment.sample.system .any) day).state.db s := by
  constructor
  · obtain ⟨s', hs', hfalls⟩ := (cash_refund_lowers_drawer_iff Deployment.sample).1 obliging
      (fun req ↦ ⟨_, ⟨"RO-1"⟩, rfl, by rfl⟩) paidInCash _ 0 "alice" _ _ .sample rfl rfl rfl rfl
    exact ⟨s', hs', fun h ↦ (by decide : (1081 : Int) ≠ 0) (hfalls.mp h)⟩
  · intro s hs
    refine ((cash_refund_lowers_drawer_iff Deployment.sample).2 newRegister rfl rfl _
      (Deployment.sample.run_of_playsAll (by decide +kernel)) 0 s hs).mpr fun t ht ↦ ?_
    have hid : s.id = 0 := Table.key_of_get? hs
    have hnone : cashRefundsOf ((Config.idle newRegister).playAll (Deployment.sample.system .any)
        day).state.db 0 = [] := by decide +kernel
    rw [hid, hnone] at ht
    cases ht

/-! ## A refund of 10.81 -/

/-- Alice sells a mug for cash. -/
def sold : Config World Call Answer PyExc :=
  (Config.idle newRegister).playAll (Deployment.sample.system .any)
    [.start (.openTill "alice" [("hundred", 1)]),
      .start (.startCheckout [mug] "alice" none), .resume 0 obliging,
      .start (.chargeCash 0 2000), .resume 0 obliging]

/-- She takes it back. -/
def takenBack : Config World Call Answer PyExc :=
  sold.playAll (Deployment.sample.system .any)
    [.start (.startRefund 0 "alice"), .start (.chargeCashRefund 1), .resume 0 obliging]

/-- The expected closing rises by 10.81, so that it is 21.62 over what is in the drawer. -/
theorem cash_refund_raises_drawer :
    Deployment.sample.SerialRun (.idle newRegister) sold ∧
    Deployment.sample.SerialRun sold takenBack ∧
    ∃ s s', sold.state.db.session 0 = some s ∧ takenBack.state.db.session 0 = some s' ∧
      ¬ Falls 1081 s s' ∧ Till.expectedClosing s' = Till.expectedClosing s + 1081 ∧
      ¬ ExpectedRight takenBack.state.db s' := by
  have hsold : (sold.state.db.session 0).map (fun s ↦ (s.cashRefundsCents,
      Till.expectedClosing s)) = some (0, 11081) := by decide +kernel
  have hback : (takenBack.state.db.session 0).map (fun s ↦ (s.cashRefundsCents,
      Till.expectedClosing s, drawerCents takenBack.state.db s)) =
        some (-1081, 12162, 10000) := by decide +kernel
  obtain ⟨s, hs, hvalues⟩ := Option.map_eq_some_iff.mp hsold
  obtain ⟨s', hs', hvalues'⟩ := Option.map_eq_some_iff.mp hback
  simp only [Prod.mk.injEq] at hvalues hvalues'
  obtain ⟨hrefunds, hexpected⟩ := hvalues
  obtain ⟨hrefunds', hexpected', hdrawer⟩ := hvalues'
  refine ⟨Deployment.sample.run_of_playsAll (by decide +kernel),
    Deployment.sample.run_of_playsAll (by decide +kernel), s, s', hs, hs', fun h ↦ ?_, ?_,
    fun h ↦ ?_⟩
  · have := h.refunds
    rw [hrefunds, hrefunds'] at this
    cases this
  · rw [hexpected, hexpected']
    rfl
  · have := h.1
    rw [hexpected', hdrawer] at this
    cases this

end HightowerPos.Drawer
