import HightowerPos.Transactions.Links

/-!
# Tenders

A transaction is given its one tender by the commit that says that it is paid, and none
before.  What the tender is made of is known at that commit only: `Payment` lists the four
ways of paying, and a row carries the one that was taken for good.
-/

namespace HightowerPos

open Async Relation

/-- The statuses of a transaction that is paid, and that Sentry may know of. -/
def Status.tendered : List Status := .complete :: Status.paid

/-- A status that follows a paid one is paid. -/
theorem Status.tendered_of_leads {s s' : Status} (h : s' ∈ s.leads) (hs : s ∈ Status.tendered) :
    s' ∈ Status.tendered := by
  revert s'
  cases s <;> revert hs <;> decide

/-- Nothing follows a paid status that was not `COMPLETE` but from a paid one. -/
theorem Status.paid_of_leads {s s' : Status} (h : s' ∈ s.leads) (hs : s ∈ Status.tendered) :
    s ∈ Status.paid := by
  revert s'
  cases s <;> revert hs <;> decide

/-! ## Payments -/

/-- The ways in which a transaction of a type and a total is paid, with the tender of each. -/
inductive Payment (said : Replies) (x : Id) (total : Cents) : TxnType → Tender → Prop
  | cash {amount : Cents} (ha : total ≤ amount) :
      Payment said x total .sale (Checkout.cashTender total amount)
  | card {st : WindcaveStatusResponse} {result : WindcaveResult} (hsaid : said.windcave x st)
      (hst : st.Pays result) : Payment said x total .sale (Checkout.cardTender total result)
  | cashBack : Payment said x total .refund (Refund.cashTender total)
  | cardBack {st : WindcaveStatusResponse} {result : WindcaveResult}
      (hsaid : said.windcave x st) (hst : st.Pays result) :
      Payment said x total .refund (Refund.cardTender total result)

namespace WindcaveStatusResponse.Pays

variable {st : WindcaveStatusResponse} {result : WindcaveResult}

theorem complete (h : st.Pays result) : st.complete = true ∧ result.approved = true := by
  have happroved := h.approved
  unfold WindcaveStatusResponse.approved at happroved
  rw [h.result, Bool.and_eq_true] at happroved
  exact happroved

theorem txnStatusId (h : st.Pays result) : st.txnStatusId ≠ some "7" := by
  intro hs
  have hunsigned := h.unsigned
  unfold WindcaveStatusResponse.signatureRequired at hunsigned
  rw [hs] at hunsigned
  exact absurd hunsigned (by decide)

end WindcaveStatusResponse.Pays

/-- What is known of cash. -/
theorem Payment.of_cash {said : Replies} {x : Id} {total : Cents} {k : TxnType} {tender : Tender}
    (h : Payment said x total k tender) (hc : tender.type = .cash) :
    tender.amountCents = total ∧
      (k = .sale → ∃ tendered change, tender.amountTenderedCents = some tendered ∧
        tender.changeCents = some change ∧ 0 ≤ change ∧ tendered - change = total) ∧
      (k = .refund → tender.amountTenderedCents = none ∧ tender.changeCents = none) := by
  cases h with
  | @cash amount ha =>
      refine ⟨rfl, fun _ ↦ ⟨amount, amount - total, rfl, rfl, ?_, ?_⟩, nofun⟩
      · exact Int.sub_nonneg.mpr ha
      · exact Int.sub_sub_self amount total
  | cashBack => exact ⟨rfl, nofun, fun _ ↦ ⟨rfl, rfl⟩⟩
  | card | cardBack => cases hc

/-- The card tender of a transaction of either type. -/
def Tender.ofCard (total : Cents) (result : WindcaveResult) : TxnType → Tender
  | .sale => Checkout.cardTender total result
  | .refund => Refund.cardTender total result

/-- What is known of a card. -/
theorem Payment.of_card {said : Replies} {x : Id} {total : Cents} {k : TxnType} {tender : Tender}
    (h : Payment said x total k tender) (hc : tender.type = .card) :
    ∃ st result, said.windcave x st ∧ st.Pays result ∧ tender = .ofCard total result k := by
  cases h with
  | card hsaid hst | cardBack hsaid hst => exact ⟨_, _, hsaid, hst, rfl⟩
  | cash | cashBack => cases hc

/-- A row has the tender of its payment, if it is paid. -/
structure Tendered (said : Replies) (t : POSTransaction) : Prop where
  unpaid : t.status ∉ Status.tendered → t.tenders = none
  paid : t.status ∈ Status.tendered → ∃ tender, t.tenders = some [tender] ∧
    t.paymentMethod = some tender.type ∧ Payment said t.id t.totalCents t.txnType tender
  /-- A refund that is under way at the terminal is of a sale by card. -/
  inFlight : t.status = .refundPaymentInFlight → t.paymentMethod = some .card

/-- A payment is of what no commit assigns. -/
theorem payment_of_origin {said : Replies} {t t' : POSTransaction} {tender : Tender}
    (horigin : t'.origin = t.origin) (h : Payment said t.id t.totalCents t.txnType tender) :
    Payment said t'.id t'.totalCents t'.txnType tender := by
  have hid : t'.id = t.id := POSTransaction.eq_of_origin horigin (·.id)
  have htotal : t'.totalCents = t.totalCents := POSTransaction.eq_of_origin horigin (·.totalCents)
  have htype : t'.txnType = t.txnType := POSTransaction.eq_of_origin horigin (·.txnType)
  rwa [hid, htotal, htype]

namespace Tendered

variable {said : Replies} {t t' : POSTransaction}

/-- A row that is not paid. -/
theorem none (s : Status) (hs' : t'.status = s) (hnone : t'.tenders = none)
    (hflight : s = .refundPaymentInFlight → t'.paymentMethod = some .card := by nofun)
    (hs : s ∉ Status.tendered := by decide) : Tendered said t' := by
  subst hs'
  exact ⟨fun _ ↦ hnone, fun h ↦ absurd h hs, hflight⟩

/-- A row that is paid now. -/
theorem some (s : Status) (hs' : t'.status = s) {tender : Tender} {k : TxnType}
    (htender : t'.tenders = some [tender]) (hm : t'.paymentMethod = some tender.type)
    (horigin : t'.origin = t.origin) (htype : t.txnType = k)
    (hpay : Payment said t.id t.totalCents k tender)
    (hs : s ∈ Status.tendered ∧ s ≠ .refundPaymentInFlight := by decide) : Tendered said t' := by
  subst hs' htype
  refine ⟨fun h ↦ absurd hs.1 h, fun _ ↦ ⟨tender, htender, hm, ?_⟩, fun h ↦ absurd h hs.2⟩
  exact payment_of_origin horigin hpay

/-- A paid row that is paid as before. -/
theorem kept (h : Tendered said t) (hs : t.status ∈ Status.tendered)
    (hs' : t'.status ∈ Status.tendered) (horigin : t'.origin = t.origin)
    (hreceipt : t'.receipt = t.receipt) : Tendered said t' := by
  obtain ⟨tender, htender, hm, hpay⟩ := h.paid hs
  obtain ⟨hm', hreceipt⟩ := Prod.mk.inj hreceipt
  obtain ⟨htenders', -⟩ := Prod.mk.inj hreceipt
  refine ⟨fun h ↦ absurd hs' h, fun _ ↦ ⟨tender, htenders'.trans htender, hm'.trans hm,
    payment_of_origin horigin hpay⟩, fun hf ↦ ?_⟩
  rw [hf] at hs'
  exact absurd hs' (by decide)

/-- What is known of a row that is not paid. -/
theorem tenders_none (h : Tendered said t) {s : Status} (hs : t.status = s)
    (hn : s ∉ Status.tendered := by decide) : t.tenders = .none :=
  h.unpaid (hs ▸ hn)

end Tendered

/-! ## Steps of a row -/

variable {said : Replies} {t t' : POSTransaction} {u : TransactionUpdate}
  {held : Option POSTransaction} {now : Time}

/-- A row that advances from a paid status. -/
theorem Tendered.advanced (h : Tendered said t) (ha : Advanced t (u.set t))
    (hs : t.status ∈ Status.tendered) : Tendered said (u.set t) :=
  h.kept hs (Status.tendered_of_leads ha.status hs) ha.origin
    (ha.receipt (Status.paid_of_leads ha.status hs))

/-- **A move of a row gives it its tender when it is paid.** -/
theorem Moves.tendered (hu : Moves said t u)
    (hkind : ∀ k, t.status.kind = some k → t.txnType = k) (h : Tendered said t) :
    Tendered said (u.set t) := by
  have ha := hu.advanced
  cases hu with
  | validated hs => exact .none .awaitingPayment rfl (h.tenders_none hs)
  | validationFailed hs => exact .none .validationFailed rfl (h.tenders_none hs)
  | cardUnavailable hs => exact .none .paymentFailed rfl (h.tenders_none hs)
  | cardInFlight hs => exact .none .paymentInFlight rfl (h.tenders_none hs)
  | cardFailed hs hv =>
      have hnone : t.tenders = none := by
        rcases hs with hs | hs <;> exact h.tenders_none hs
      rcases hv with rfl | rfl <;> exact .none .paymentFailed rfl hnone
  | cardTaken hs hsaid hst hv =>
      have htype : t.txnType = .sale := by
        rcases hs with hs | hs <;> exact hkind _ (by rw [hs]; rfl)
      rcases hv with rfl | rfl <;>
        exact .some .paymentSuccess rfl rfl rfl rfl htype (.card hsaid hst)
  | timedOut hs => exact .none .paymentFailed rfl (h.tenders_none hs)
  | cancelled hs =>
      rcases hs with hs | hs <;> exact .none .cancelled rfl (h.tenders_none hs)
  | refundUnavailable hs => exact .none .refundPaymentFailed rfl (h.tenders_none hs)
  | refundInFlight hs ht hm =>
      exact .none .refundPaymentInFlight rfl (h.tenders_none hs) fun _ ↦ hm
  | refundFailed hs =>
      rcases hs with hs | hs <;> exact .none .refundPaymentFailed rfl (h.tenders_none hs)
  | cardRefunded hs hsaid hst =>
      have hm : t.paymentMethod = some .card := by
        rcases hs with ⟨-, -, hm⟩ | hs
        · exact hm
        · exact h.inFlight hs
      have htype : t.txnType = .refund := by
        rcases hs with ⟨-, htype, -⟩ | hs
        · exact htype
        · exact hkind _ (by rw [hs]; rfl)
      exact .some .refundPaymentSuccess rfl rfl hm rfl htype (.cardBack hsaid hst)
  | cashRefunded hs htype hm =>
      exact .some .refundPaymentSuccess rfl rfl hm rfl htype .cashBack
  | refundTimedOut hs => exact .none .refundPaymentFailed rfl (h.tenders_none hs)
  | refundCancelled hs =>
      rcases hs with hs | hs <;> exact .none .cancelled rfl (h.tenders_none hs)
  | retried hs => exact h.advanced ha (by rw [hs]; decide)
  | retryFailed hs =>
      refine h.advanced ha ?_
      rcases hs with hs | hs <;> rw [hs] <;> decide

theorem Advances.tendered (hu : Advances said t u held)
    (hkind : ∀ k, t.status.kind = some k → t.txnType = k) (h : Tendered said t) :
    Tendered said (u.set t) := by
  have ha := hu.advanced
  cases hu with
  | moved hu => exact hu.tendered hkind h
  | cashTaken hs htype hamount => exact .some .paymentSuccess rfl rfl rfl rfl htype (.cash hamount)
  | saleNotSent hs | saleDone hs | refundNotSent hs => exact h.advanced ha (by rw [hs]; decide)

theorem Completes.tendered (hu : Completes said t u held) (h : Tendered said t) :
    Tendered said (u.set t) := by
  refine h.advanced hu.advanced ?_
  cases hu with
  | done hs | retried hs => rw [hs]; decide

/-- `updated_at` is of no account. -/
theorem Tendered.touch (h : Tendered said (u.set t)) : Tendered said ((u.touch now).set t) :=
  ⟨h.unpaid, h.paid, h.inFlight⟩

theorem Becomes.tendered (hb : Becomes said t t')
    (hkind : ∀ k, t.status.kind = some k → t.txnType = k) (h : Tendered said t) :
    Tendered said t' := by
  cases hb with
  | same => exact h
  | advances hu => exact (hu.tendered hkind h).touch
  | completes hu => exact (hu.tendered h).touch
  | linked hs =>
      have hpaid : t.status ∈ Status.tendered := by rw [hs]; decide
      exact h.kept hpaid hpaid rfl rfl

theorem Born.tendered {settings : Settings} {w : World} {x : Id} (h : Born settings w x t) :
    Tendered said t := by
  cases h with
  | sale => exact .none .pendingValidation rfl rfl
  | refund => exact .none .refundPending rfl rfl

/-! ## Serial runs -/

/-- Windcave has replied `st` for the transaction `x`. -/
def Call.replied : (q : Call) → Answer q → Option (Id × WindcaveStatusResponse)
  | .windcaveCharge _ x, .ok st | .windcaveRefund _ _ x, .ok st | .windcaveStatus x _, .ok st =>
      some (x, st)
  | _, _ => none

/-- In a serial run from `c` to `c'`, a handler was given the reply `st` of Windcave for the
transaction `x`. -/
def Deployment.Replied (D : Deployment) (c c' : Config World Call Answer PyExc) (x : Id)
    (st : WindcaveStatusResponse) : Prop :=
  ∃ (q : Call) (a : Answer q) (before after : Config World Call Answer PyExc),
    q.replied a = some (x, st) ∧
      D.SerialRun c before ∧ Given q a before after ∧ D.SerialRun after c'

/-- An answer that is a reply of Windcave, if at all, is covered by it. -/
theorem covers_of_replied {R : Id → WindcaveStatusResponse → Prop} {rt : Runtime} {w : World}
    {q : Call} {a : Answer q} (h : ∀ x st, q.replied a = some (x, st) → R x st) :
    Replies.Covers ⟨R, fun _ ↦ True⟩ rt w q a := by
  cases q with
  | windcaveCharge | windcaveRefund | windcaveStatus =>
      rintro st rfl
      exact h _ st rfl
  | sentryCreatePosSo | sentryCreatePosRefund => exact fun _ _ ↦ trivial
  | _ => trivial

theorem covers_mono {R R' : Id → WindcaveStatusResponse → Prop} {rt : Runtime} {w : World}
    (hR : ∀ x st, R x st → R' x st) {q : Call} {a : Answer q}
    (h : Replies.Covers ⟨R, fun _ ↦ True⟩ rt w q a) :
    Replies.Covers ⟨R', fun _ ↦ True⟩ rt w q a := by
  cases q with
  | windcaveCharge | windcaveRefund | windcaveStatus => exact fun st ha ↦ hR _ st (h st ha)
  | sentryCreatePosSo | sentryCreatePosRefund => exact h
  | _ => trivial

namespace Deployment

variable (D : Deployment) {c c' c'' : Config World Call Answer PyExc}

/-- A serial run in which Windcave says what it has said there. -/
theorem saying_replied (h : D.SerialRun c c') :
    D.SerialRunSaying ⟨D.Replied c c', fun _ ↦ True⟩ c c' := by
  induction h with
  | refl => exact .refl
  | @tail c₁ c₂ hrun hs ih =>
      have hmono : ∀ x st, D.Replied c c₁ x st → D.Replied c c₂ x st :=
        fun _ _ ⟨q, a, before, after, ha, hbefore, hgiven, hafter⟩ ↦
          ⟨q, a, before, after, ha, hbefore, hgiven, hafter.tail hs⟩
      have hbefore : D.SerialRunSaying ⟨D.Replied c c₂, fun _ ↦ True⟩ c c₁ := by
        refine Relation.ReflTransGen.mono (fun _ _ hs ↦ ?_) _ _ ih
        cases hs with
        | start i hg => exact .start i hg
        | resume p a ha hg => exact .resume p a ha ⟨hg.1, covers_mono hmono hg.2⟩
        | kill _ hg => exact hg.elim
        | resend p hq => exact .resend p hq trivial
        | drift hd => exact .drift hd
      refine hbefore.tail ?_
      cases hs with
      | start i hg => exact .start i hg
      | @resume s l r p a ha hg =>
          refine .resume p a ha ⟨hg.1, covers_of_replied fun x st hst ↦ ?_⟩
          have hgiven : Given p.call a ⟨s, l ++ p :: r⟩ _ :=
            .mk fun x hx ↦ hg.1 _ (List.mem_map_of_mem hx)
          exact ⟨p.call, a, _, _, hst, hrun, hgiven, .refl⟩
      | kill _ hg => exact hg.elim
      | resend p hq => exact .resend p hq trivial
      | drift hd => exact .drift hd

end Deployment

/-- In a serial run every row has the tender of its payment. -/
theorem tendered_of_reaches {D : Deployment} {w w' : World} (hr : D.Reaches said w w')
    (ht : w.db.posTransactions = .empty) :
    Links w'.db ∧ ∀ x t, w'.db.transaction x = some t → Tendered said t := by
  have hnone {x : Id} {t : POSTransaction} (h : w.db.transaction x = some t) : False := by
    simp [Db.transaction, ht, Table.get?, Table.empty] at h
  refine D.keeps (P := fun w ↦ ∀ x t, w.db.transaction x = some t → Tendered said t)
    (fun {w w'} hl hP hturn x t' ht' ↦ ?_) hr (.empty ht) fun x t h ↦ (hnone h).elim
  cases hrow : w.db.transaction x with
  | none => exact (hturn.born hl hrow ht').tendered
  | some t =>
      obtain ⟨t₁, h₁, hb⟩ := hturn.becomes hl hrow
      obtain rfl := Option.some.inj (h₁.symm.trans ht')
      exact hb.tendered (hl.kind hrow) (hP x t hrow)

/-- The tenders of the transactions, `replied` being what Windcave has said of them. -/
structure TenderIntegrity (replied : Id → WindcaveStatusResponse → Prop) (db : Db) : Prop where
  /-- A paid sale has one tender, of its payment method. -/
  sale : ∀ {x t}, db.transaction x = some t → t.txnType = .sale →
    t.status ∈ [.paymentSuccess, .complete, .inventoryUpdateFailed] →
    ∃ tender, t.tenders = some [tender] ∧ t.paymentMethod = some tender.type
  /-- A refund that was paid out has one tender, of the payment method of its sale. -/
  refund : ∀ {x t}, db.transaction x = some t → t.txnType = .refund →
    t.status ∈ [.refundPaymentSuccess, .complete, .refundInventoryUpdateFailed] →
    ∃ tender s sale, t.tenders = some [tender] ∧ t.paymentMethod = some tender.type ∧
      t.parentTransactionId = some s ∧ db.transaction s = some sale ∧
      sale.paymentMethod = some tender.type
  /-- Cash is of the total; what a sale was handed, less the change, is the total. -/
  cash : ∀ {x t tender}, db.transaction x = some t → t.tenders = some [tender] →
    tender.type = .cash → tender.amountCents = t.totalCents ∧
    (t.txnType = .sale → ∃ tendered change, tender.amountTenderedCents = some tendered ∧
      tender.changeCents = some change ∧ 0 ≤ change ∧ tendered - change = t.totalCents) ∧
    (t.txnType = .refund → tender.amountTenderedCents = none ∧ tender.changeCents = none)
  /-- A card tender is made of a reply that is complete and approved, and needs no
  signature. -/
  card : ∀ {x t tender}, db.transaction x = some t → t.tenders = some [tender] →
    tender.type = .card → ∃ st result, replied x st ∧ st.complete = true ∧
    st.result = some result ∧ result.approved = true ∧ st.txnStatusId ≠ some "7" ∧
    tender = .ofCard t.totalCents result t.txnType
  /-- Any other transaction has none. -/
  unpaid : ∀ {x t}, db.transaction x = some t →
    (t.txnType = .sale → t.status ∉ [.paymentSuccess, .complete, .inventoryUpdateFailed]) →
    (t.txnType = .refund →
      t.status ∉ [.refundPaymentSuccess, .complete, .refundInventoryUpdateFailed]) →
    t.tenders = none

/-- **Tender integrity**: in every state of a serial run a transaction that is paid has the one
tender of its payment, and any other has none. -/
theorem tender_integrity (D : Deployment) {w : World} (ht : w.db.posTransactions = .empty)
    {c : Config World Call Answer PyExc} (h : D.SerialRun (.idle w) c) :
    TenderIntegrity (D.Replied (.idle w) c) c.state.db := by
  obtain ⟨hl, htendered⟩ :=
    tendered_of_reaches (D.moves_of_saying (D.saying_replied h) .refl).1 ht
  have hpaid {x : Id} {t : POSTransaction} {tender : Tender}
      (hrow : c.state.db.transaction x = some t) (hone : t.tenders = some [tender]) :
      Payment ⟨D.Replied (.idle w) c, fun _ ↦ True⟩ x t.totalCents t.txnType tender := by
    have hstatus : t.status ∈ Status.tendered := by
      by_contra hs
      exact nomatch ((htendered x t hrow).unpaid hs).symm.trans hone
    obtain ⟨tender', hone', -, hpay⟩ := (htendered x t hrow).paid hstatus
    obtain rfl : tender' = tender := by simpa using hone'.symm.trans hone
    obtain rfl : t.id = x := Table.key_of_get? hrow
    exact hpay
  refine ⟨fun {x t} hrow _ hs ↦ ?_, fun {x t} hrow htype hs ↦ ?_, fun hrow hone hc ↦ ?_,
    fun hrow hone hc ↦ ?_, fun {x t} hrow hsale hrefund ↦ ?_⟩
  · have hstatus : t.status ∈ Status.tendered := by
      revert hs
      cases t.status <;> decide
    obtain ⟨tender, hone, hm, -⟩ := (htendered x t hrow).paid hstatus
    exact ⟨tender, hone, hm⟩
  · have hstatus : t.status ∈ Status.tendered := by
      revert hs
      cases t.status <;> decide
    obtain ⟨tender, hone, hm, -⟩ := (htendered x t hrow).paid hstatus
    obtain ⟨s, sale, hp, hsale, -, -, hmethod⟩ := hl.parent hrow htype
    exact ⟨tender, s, sale, hone, hm, hp, hsale, hmethod.symm.trans hm⟩
  · exact (hpaid hrow hone).of_cash hc
  · obtain ⟨st, result, hsaid, hst, htender⟩ := (hpaid hrow hone).of_card hc
    obtain ⟨hcomplete, happroved⟩ := hst.complete
    exact ⟨st, result, hsaid, hcomplete, hst.result, happroved, hst.txnStatusId,
      htender⟩
  · refine (htendered x t hrow).unpaid fun hs ↦ ?_
    have hkind := hl.kind hrow
    cases htype : t.txnType with
    | sale =>
        refine hsale htype ?_
        revert hs hkind
        rw [htype]
        cases t.status <;> decide
    | refund =>
        refine hrefund htype ?_
        revert hs hkind
        rw [htype]
        cases t.status <;> decide

theorem tender_integrity_returned : TenderIntegrity
    (Deployment.sample.Replied (.idle Drawer.newRegister) ((Config.idle Drawer.newRegister).playAll
      (Deployment.sample.system .any) returned))
    ((Config.idle Drawer.newRegister).playAll (Deployment.sample.system .any)
      returned).state.db :=
  tender_integrity Deployment.sample (w := Drawer.newRegister) rfl
    (Deployment.sample.run_of_playsAll (by decide +kernel))

end HightowerPos
