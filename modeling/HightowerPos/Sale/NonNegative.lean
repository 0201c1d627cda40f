import HightowerPos.Prices.Writes
import HightowerPos.Sale.Arithmetic

/-!
# No negative money

As long as no sync brings a negative price, the prices and the amounts of the sales are not
negative, `charge_cash` gives no more change than it was tendered, and `charge_card` passes
Windcave an amount that it formats (`no_negative_money`).  An import checks the prices itself; a
sync does not.
-/

namespace HightowerPos

open Async Pricing

/-! ## Writes -/

section Writes

variable {S : Setup} {wr : Write} {db db' : Db}

/-- The prices are not negative. -/
def PricesNonneg (prices : Table POSPrice POSPrice.sku) : Prop :=
  ∀ sku cents, priceMap prices sku = some cents → 0 ≤ cents

theorem pricesNonneg_iff {prices : Table POSPrice POSPrice.sku} :
    PricesNonneg prices ↔ ∀ p ∈ prices.rows, 0 ≤ p.unitPriceCents := by
  constructor
  · intro h p hp
    refine h p.sku p.unitPriceCents ?_
    rw [priceMap, column, Table.get?_of_mem hp]
    rfl
  · intro h sku cents hprice
    obtain ⟨p, hp, rfl⟩ := Option.map_eq_some_iff.mp hprice
    exact h p (Table.mem_of_get? hp)

/-- A sync leaves no SKU with a negative price; nothing is asked of an import. -/
def SyncsNonneg (rt : Runtime) : Write → Prop
  | .importCsv .. => True
  | wr@(.syncOnce ..) => ∀ sku cents, lastValue (wr.pairs rt) sku = some cents → 0 ≤ cents

/-- An import checks the prices. -/
theorem lastValue_accepted {file : List UInt8} {maxRows : Int} {sku : String} {cents : Cents}
    (h : lastValue (accepted file maxRows) sku = some cents) : 0 ≤ cents := by
  obtain ⟨row, -, hrow⟩ := List.mem_filterMap.mp (mem_of_lastValue h)
  exact cents_nonneg hrow

/-- **A write keeps the prices from being negative.** -/
theorem pricesNonneg_run (hok : SyncsNonneg S.rt wr) (h : wr.run S db = .ok db')
    (hdb : PricesNonneg db.posPrices) : PricesNonneg db'.posPrices := by
  have hlast : ∀ sku cents, lastValue (wr.pairs S.rt) sku = some cents → 0 ≤ cents := by
    cases wr with
    | importCsv => exact fun _ _ ↦ lastValue_accepted
    | syncOnce => exact hok
  intro sku cents hprice
  rw [Write.priceMap_run h, assign_eq] at hprice
  cases hvalue : lastValue (wr.pairs S.rt) sku with
  | none =>
      rw [hvalue, Option.none_or] at hprice
      exact hdb sku cents hprice
  | some cents' =>
      rw [hvalue] at hprice
      obtain rfl := Option.some.inj hprice
      exact hlast sku _ hvalue

end Writes

/-! ## Sales -/

namespace Sale

open Checkout

/-- The amounts of the sale are not negative. -/
structure NonNegative (t : POSTransaction) : Prop where
  lines : ∀ l ∈ t.cart, 0 ≤ l.unitPriceCents * l.quantity ∧ 0 ≤ l.taxCents ∧ 0 ≤ l.lineTotalCents
  subtotal : 0 ≤ t.subtotalCents
  tax : 0 ≤ t.taxCents
  total : 0 ≤ t.totalCents

section Amounts

variable {settings : Settings} {t t' : POSTransaction}

/-- A tax at a rate that is not negative. -/
theorem computeLineTax_nonneg {rate : Decimal} (hrate : 0 ≤ rate.coeff) {subtotal tax : Cents}
    {taxable : Bool} (hsub : 0 ≤ subtotal) (h : computeLineTax subtotal rate taxable = .ok tax) :
    0 ≤ tax := by
  unfold computeLineTax at h
  split at h
  · rw [Decimal.quantizeUnit_eq] at h
    split at h
    · next n hn =>
        obtain rfl := Except.ok.inj h
        split at hn
        · obtain rfl := Option.some.inj hn
          refine le_roundEven ?_
          rw [Int.cast_zero]
          exact Decimal.toRat_nonneg_iff.mpr (Decimal.coeff_mul_nonneg hsub hrate)
        · cases hn
    · cases h
  · obtain rfl := Except.ok.inj h
    exact le_rfl

theorem nonNegative_of_origin (h : NonNegative t) (horigin : t'.origin = t.origin) :
    NonNegative t' := by
  have hcart := POSTransaction.eq_of_origin horigin (·.cart)
  have hsubtotal := POSTransaction.eq_of_origin horigin (·.subtotalCents)
  have htax := POSTransaction.eq_of_origin horigin (·.taxCents)
  have htotal := POSTransaction.eq_of_origin horigin (·.totalCents)
  exact ⟨hcart ▸ h.lines, hsubtotal ▸ h.subtotal, htax ▸ h.tax, htotal ▸ h.total⟩

/-- **A sale at prices that are not negative.** -/
theorem nonNegative_of_saleOf (hrate : 0 ≤ settings.taxRate.coeff) {price : String → Option Cents}
    (hprice : ∀ sku cents, price sku = some cents → 0 ≤ cents) {lines : List CartLineIn}
    (hlines : validLines lines = true) (h : SaleOf settings price lines t) : NonNegative t := by
  have hquantity : ∀ line ∈ lines, 0 < line.quantity := by
    have hall := (Bool.and_eq_true _ _ ▸ hlines).2
    exact fun line hline ↦ of_decide_eq_true (List.all_eq_true.mp hall line hline)
  have hcart : ∀ l ∈ t.cart,
      0 ≤ l.unitPriceCents * l.quantity ∧ 0 ≤ l.taxCents ∧ 0 ≤ l.lineTotalCents := by
    intro l hl
    obtain ⟨line, hline, hof⟩ := exists_line h.cart hl
    have hsub : 0 ≤ l.unitPriceCents * l.quantity := by
      refine mul_nonneg (hprice _ _ hof.price) ?_
      rw [hof.quantity]
      exact (hquantity line hline).le
    have htax := computeLineTax_nonneg hrate hsub hof.tax
    refine ⟨hsub, htax, ?_⟩
    rw [hof.total]
    exact add_nonneg hsub htax
  have hsubtotal : 0 ≤ t.subtotalCents := by
    rw [h.adds.subtotal]
    exact List.sum_nonneg (List.forall_mem_map.mpr fun l hl ↦ (hcart l hl).1)
  have htax : 0 ≤ t.taxCents := by
    rw [h.adds.tax]
    exact List.sum_nonneg (List.forall_mem_map.mpr fun l hl ↦ (hcart l hl).2.1)
  refine ⟨hcart, hsubtotal, htax, ?_⟩
  rw [h.adds.total]
  exact add_nonneg hsubtotal htax

end Amounts

/-- No price and no sale is negative. -/
structure Fair (w : World) : Prop where
  prices : PricesNonneg w.db.posPrices
  sales : ∀ x t, w.db.transaction x = some t → t.txnType = .sale → NonNegative t

/-! ## Payments -/

/-- The change, if any is given, is no more than was tendered. -/
def FairChange (tender : Tender) : Prop :=
  ∀ tendered change, tender.amountTenderedCents = some tendered →
    tender.changeCents = some change → change ≤ tendered

/-- The tenders of a row are as before, or of fair change. -/
def TendersFairly (w w' : World) : Prop :=
  ∀ x t', w'.db.transaction x = some t' →
    (∃ t, w.db.transaction x = some t ∧ t'.tenders = t.tenders) ∨
      ∀ tender ∈ t'.tenders.getD [], FairChange tender

section Payments

variable {rt : Runtime} {settings : Settings} {w w' : World} {x : Id} {u : TransactionUpdate}

theorem tendersFairly_of_same (h : w'.db.posTransactions = w.db.posTransactions) :
    TendersFairly w w' := by
  intro x t' ht'
  unfold Db.transaction at ht' ⊢
  rw [h] at ht'
  exact .inl ⟨t', ht', rfl⟩

theorem tendersFairly_of_updated (h : w.Updated x u w')
    (hu : ∀ t, (u.set t).tenders = t.tenders ∨
      ∀ tender ∈ (u.set t).tenders.getD [], FairChange tender) : TendersFairly w w' := by
  intro y t' ht'
  by_cases hy : y = x
  · subst hy
    rw [h.row] at ht'
    obtain ⟨t, ht, rfl⟩ := Option.map_eq_some_iff.mp ht'
    exact (hu t).imp_left fun hsame ↦ ⟨t, ht, hsame⟩
  · rw [h.others y hy] at ht'
    exact .inl ⟨t', ht', rfl⟩

/-- A program that tenders fairly, in states of which none is negative. -/
def Tendering {α : Type} (p : App α) (post : Except PyExc α → Prop) : Prop :=
  p.Guarantees World.send Fair TendersFairly post

theorem tendering_call (q : Call) : Tendering (App.call q) fun _ ↦ True := fun _ _ ↦
  ⟨tendersFairly_of_same (by cases q <;> rfl), fun _ ↦ trivial⟩

theorem tendering_read : Tendering (Prog.read : App World) fun _ ↦ True := fun _ _ ↦
  ⟨tendersFairly_of_same rfl, trivial⟩

theorem tendering_bindText (s : PyStr) : Tendering (App.bindText s) fun _ ↦ True := by
  unfold App.bindText
  split <;> trivial

theorem tendering_saveTransaction {txn : POSTransaction} (hu : ∀ t,
      (u.set t).tenders = t.tenders ∨ ∀ tender ∈ (u.set t).tenders.getD [], FairChange tender) :
    Tendering (App.saveTransaction txn u) fun _ ↦ True := fun w _ ↦
  ⟨tendersFairly_of_updated (w.updated_updateTransaction _ _) hu, trivial⟩

theorem tendering_attributeTransaction (txn : POSTransaction) (isRefund : Bool) :
    Tendering (Till.attributeTransaction txn isRefund) fun _ ↦ True :=
  guarantees_seq (guarantees_seq tendering_read fun _ ↦ trivial) fun _ ↦ trivial

theorem tendering_enqueue (txn : POSTransaction) :
    Tendering (FabricOutbox.enqueue settings txn) fun _ ↦ True :=
  guarantees_seq tendering_read fun _ ↦ trivial

theorem tendering_getTransaction {α : Type} {x : Id} {f : Option POSTransaction → App α}
    {post : Except PyExc α → Prop}
    (h : ∀ w, Fair w → Tendering (f (w.db.transaction x)) post) :
    Tendering (App.getTransaction x >>= f) post := fun w hw ↦ ⟨tendersFairly_of_same rfl, h w hw⟩

/-- What is loaded for payment is a sale, whose total is not negative. -/
theorem tendering_loadForPayment (x : Id) :
    Tendering (loadForPayment x) fun r ↦ ∀ txn, r = .ok txn → 0 ≤ txn.totalCents := by
  refine tendering_getTransaction fun w hw ↦ ?_
  cases hrow : w.db.transaction x with
  | none => exact fun _ h ↦ (by cases h)
  | some txn =>
      dsimp only
      split
      · exact fun _ h ↦ (by cases h)
      · next htype =>
          split
          · exact fun _ h ↦ (by cases h)
          · intro txn' h
            obtain rfl := Except.ok.inj h
            exact (hw.sales x txn hrow (not_not.mp htype)).total

theorem tendering_finishSend (txn : POSTransaction) (request : CheckoutRequest)
    (outcome : Attempts) :
    Tendering (finishSend rt settings txn request outcome) fun _ ↦ True := by
  unfold finishSend
  split
  · refine guarantees_seq (tendering_bindText _) fun error ↦ ?_
    refine guarantees_seq (tendering_enqueue _) fun entry ↦ ?_
    refine guarantees_seq (fun w _ ↦ ⟨?_, trivial⟩) fun _ ↦ ?_
    · exact tendersFairly_of_updated ((w.updated_updateTransaction _ _).addOutboxEntry _)
        fun _ ↦ .inl rfl
    · exact guarantees_seq (tendering_call _) fun _ ↦ trivial
  · trivial
  · refine guarantees_seq (tendering_attributeTransaction _ _) fun a ↦ ?_
    refine guarantees_seq (tendering_enqueue _) fun entry ↦ ?_
    intro w _
    refine ⟨?_, trivial⟩
    refine tendersFairly_of_updated (x := txn.id) ((Till.updated_commitTally
      (World.updated_updateTransaction _ _ _) _).addOutboxEntry _) fun t ↦ .inl ?_
    cases a <;> rfl

theorem tendering_chargeCash (x : Id) (amount : Cents) :
    Tendering (chargeCash rt settings x amount) fun _ ↦ True := by
  unfold chargeCash
  refine guarantees_bind ((tendering_loadForPayment x).mono fun r hr ↦ ?_)
  cases r with
  | error e => trivial
  | ok txn =>
      dsimp only
      split
      · trivial
      · refine guarantees_seq (tendering_saveTransaction fun t ↦ .inr ?_) fun txn ↦ ?_
        · intro tender htender tendered change htendered hchange
          obtain rfl := List.mem_singleton.mp htender
          obtain rfl := Option.some.inj htendered
          obtain rfl := Option.some.inj hchange
          exact Int.sub_le_self _ (hr txn rfl)
        · refine guarantees_seq tendering_read fun w ↦ ?_
          exact guarantees_seq (tendering_call _) fun outcome ↦ tendering_finishSend _ _ _

theorem stretch_loadForPayment (x : Id) :
    (∃ e, (loadForPayment x).stretch World.send w = (w, .over (.error (.checkout e)))) ∨
      ∃ t, w.db.transaction x = some t ∧ t.txnType = .sale ∧
        (loadForPayment x).stretch World.send w = (w, .over (.ok t)) := by
  rw [loadForPayment, App.stretch_getTransaction]
  cases hrow : w.db.transaction x with
  | none => exact .inl ⟨_, rfl⟩
  | some txn =>
      dsimp only
      split
      · exact .inl ⟨_, rfl⟩
      · next htype =>
          split
          · exact .inl ⟨_, rfl⟩
          · exact .inr ⟨txn, rfl, not_not.mp htype, rfl⟩

/-- **`charge_card` refuses, or passes Windcave an amount that it formats.** -/
theorem stretch_chargeCard (h : Fair w) (x : Id) :
    (∃ e, (chargeCard rt settings x).stretch World.send w = (w, .over (.error (.checkout e)))) ∨
      ∃ t k, w.db.transaction x = some t ∧ 0 ≤ t.totalCents ∧
        (chargeCard rt settings x).stretch World.send w =
          (World.send (.windcaveCharge t.totalCents t.id) w,
            .waits (.windcaveCharge t.totalCents t.id) k) := by
  unfold chargeCard
  rw [Prog.stretch_bind]
  rcases stretch_loadForPayment (w := w) x with ⟨e, hload⟩ | ⟨t, hrow, htype, hload⟩
  · rw [hload]
    exact .inl ⟨e, rfl⟩
  · have htotal := (h.sales x t hrow htype).total
    have hformat : Windcave.formatAmount t.totalCents = .ok () := if_neg (not_lt.mpr htotal)
    rw [hload]
    dsimp only
    rw [hformat]
    exact .inr ⟨t, _, hrow, htotal, rfl⟩

end Payments

/-! ## Runs -/

/-- Time passes, Windcave settles a transaction, or prices are written as `ok` allows. -/
inductive PriceDrift (S : Setup) (ok : Write → Prop) : World → World → Prop
  | drift {w w' : World} (h : World.Drift w w') : PriceDrift S ok w w'
  | write {w : World} {wr : Write} {db : Db} (hok : ok wr) (h : wr.run S w.db = .ok db) :
      PriceDrift S ok w { w with db := db }

/-- The service behind its validation, with the writers of prices beside it. -/
def pricing (D : Deployment) (S : Setup) (ok : Write → Prop) :
    System World Call Answer PyExc Request where
  handle := D.validated
  send := World.send
  reply _ _ _ := True
  drift := PriceDrift S ok

/-- What is known of the handlers: they read states of which none is negative, and sell valid
lines. -/
def fairScope : Scope where
  reads := Fair
  cart lines := validLines lines = true
  sale _ := True
  drains := True

section Runs

variable {D : Deployment} {S : Setup} {w w' : World} {c c' : Crew World Call Answer PyExc Request}

theorem treads_validated (D : Deployment) (i : Request) :
    Treads D.settings fairScope (D.validated i) := by
  unfold Deployment.validated
  split
  · split
    · next hvalid =>
        refine treads_handle D (fun lines' _ _ h ↦ ?_) (fun _ _ _ ↦ trivial) (fun _ ↦ trivial)
          (fun _ _ _ ↦ trivial) fun _ ↦ trivial
        obtain ⟨rfl, -, -⟩ := Request.startCheckout.inj h
        exact hvalid
    · exact treads_raise _
  · next hother =>
      exact treads_handle D (fun _ _ _ h ↦ (hother _ _ _ h).elim) (fun _ _ _ ↦ trivial)
        (fun _ ↦ trivial) (fun _ _ _ ↦ trivial) fun _ ↦ trivial

/-- No handler writes a price. -/
theorem posPrices_access {settings : Settings} {S : Scope} (h : Access settings S w w') :
    w'.db.posPrices = w.db.posPrices := by
  cases h with
  | sent q => cases q <;> rfl
  | @saleCompleted txn held soId a => cases a <;> rfl
  | @refundCompleted refund original held soId a => cases a <;> rfl
  | @claimed _ ids =>
      obtain ⟨table, hclaimed⟩ := FabricOutbox.claimAll_eq ids w
      rw [hclaimed]
  | _ => rfl

/-- **An access leaves nothing negative.** -/
theorem fair_access (hrate : 0 ≤ D.settings.taxRate.coeff)
    (h : Access D.settings fairScope w w') (hw : Fair w) : Fair w' := by
  refine ⟨posPrices_access h ▸ hw.prices, fun x t ht htype ↦ ?_⟩
  have hstays := (stores_of_access h).stays
  cases hold : w.db.transaction x with
  | some t₀ =>
      obtain ⟨t', ht', horigin⟩ := hstays x t₀ hold
      obtain rfl := Option.some.inj (ht.symm.trans ht')
      have htype₀ := POSTransaction.eq_of_origin horigin (·.txnType)
      exact nonNegative_of_origin (hw.sales x t₀ hold (htype₀.symm.trans htype)) horigin
  | none =>
      cases stores_of_access h with
      | none hsame =>
          rw [hsame.new hold] at ht
          cases ht
      | @sale prices lines cart cashierId customer hlines hfound hcart hrows =>
          obtain rfl := gains_of_add hrows ⟨hold, ht⟩
          refine nonNegative_of_saleOf hrate (fun sku cents hprice ↦ ?_) hlines
            (saleOf_newSale hcart _ _ _ _)
          obtain ⟨w₀, hw₀, hthen⟩ := hfound sku cents hprice
          exact hw₀.prices sku cents hthen
      | refund _ _ _ _ hrows =>
          obtain rfl := gains_of_add hrows ⟨hold, ht⟩
          cases htype

theorem fair_drift (h : PriceDrift S (SyncsNonneg S.rt) w w') (hw : Fair w) : Fair w' := by
  cases h with
  | drift h =>
      have hdb := h.db
      exact ⟨hdb ▸ hw.prices, fun x t ht ↦ hw.sales x t (hdb ▸ ht)⟩
  | write hok h =>
      refine ⟨pricesNonneg_run hok h hw.prices, fun x t ht ↦ hw.sales x t ?_⟩
      unfold Db.transaction at ht ⊢
      rwa [Write.posTransactions_run h] at ht

/-- **Nothing becomes negative.** -/
theorem fair_run (hrate : 0 ≤ D.settings.taxRate.coeff) (hw : Fair w)
    (hrun : Crew.Run (pricing D S (SyncsNonneg S.rt)) .free ⟨w, []⟩ c) : Fair c.state := by
  have hboth : Fair c.state ∧ c.Abides (pricing D S (SyncsNonneg S.rt)) Fair
      fun _ ↦ Access D.settings fairScope := by
    induction hrun with
    | refl => exact ⟨hw, .nil w⟩
    | tail _ hs ih =>
        obtain ⟨hfair, habides⟩ := ih
        obtain ⟨habides', hmove⟩ := habides.step (treads_validated D) hfair hs
        refine ⟨?_, habides'⟩
        rcases hmove with hsame | ⟨-, -, haccess⟩ | hdrift
        · exact hsame ▸ hfair
        · exact fair_access hrate haccess hfair
        · exact fair_drift hdrift hfair
  exact hboth.1

/-- The threads of `charge_cash` go on to tender fairly. -/
theorem tendering_run (hrate : 0 ≤ D.settings.taxRate.coeff) (hw : Fair w)
    (hrun : Crew.Run (pricing D S (SyncsNonneg S.rt)) .free ⟨w, []⟩ c) :
    c.Abides (pricing D S (SyncsNonneg S.rt)) Fair
      fun i s s' ↦ ∀ x amount, i = .chargeCash x amount → TendersFairly s s' := by
  refine (Crew.Abides.nil w).run (fun i ↦ ?_) (fun c₁ h _ ↦ fair_run hrate hw h) hrun
  by_cases hi : ∃ x amount, i = .chargeCash x amount
  · obtain ⟨x, amount, rfl⟩ := hi
    exact (tendering_chargeCash x amount).weaken (fun _ h ↦ h) fun _ _ h _ _ _ ↦ h
  · exact (treads_validated D i).weaken (fun _ h ↦ h)
      fun _ _ _ x amount h ↦ absurd ⟨x, amount, h⟩ hi

/-- **No negative money enters a sale**, in any state of a run in which no sync leaves a negative
price.  A thread of `charge_cash` gives no more change than was tendered; `charge_card` refuses, or
passes Windcave an amount that is not negative, as a refund does. -/
theorem no_negative_money (D : Deployment) (S : Setup) (hrate : 0 ≤ D.settings.taxRate.coeff)
    {w : World} (hw : Fair w) {c : Crew World Call Answer PyExc Request}
    (hrun : Crew.Run (pricing D S (SyncsNonneg S.rt)) .free ⟨w, []⟩ c) :
    (∀ p ∈ c.state.db.posPrices.rows, 0 ≤ p.unitPriceCents) ∧
    (∀ x t, c.state.db.transaction x = some t → t.txnType = .sale → NonNegative t) ∧
    (∀ x amount p, (Request.chargeCash x amount, p) ∈ c.threads → ∀ s' p',
      p.Turn World.send c.state s' p' → TendersFairly c.state s') ∧
    ∀ x, ((∃ e, (chargeCard D.runtime D.settings x).stretch World.send c.state =
        (c.state, .over (.error (.checkout e)))) ∨
      ∃ t k, c.state.db.transaction x = some t ∧ 0 ≤ t.totalCents ∧
        (chargeCard D.runtime D.settings x).stretch World.send c.state =
          (World.send (.windcaveCharge t.totalCents t.id) c.state,
            .waits (.windcaveCharge t.totalCents t.id) k)) ∧
      ∀ t, c.state.db.transaction x = some t →
        Windcave.formatAmount t.totalCents.natAbs = .ok () := by
  have hfair := fair_run hrate hw hrun
  refine ⟨pricesNonneg_iff.mp hfair.prices, hfair.sales, ?_, fun x ↦ ⟨?_, ?_⟩⟩
  · intro x amount p hp s' p' hturn
    have hthread := tendering_run hrate hw hrun _ hp
    rcases (hthread.turn hfair hturn).1 with rfl | hmove
    · exact tendersFairly_of_same rfl
    · exact hmove x amount rfl
  · exact stretch_chargeCard hfair x
  · exact fun t _ ↦ if_neg (not_lt.mpr (Int.natCast_nonneg _))

end Runs

/-- A sync that brings the price of a mug. -/
def mugSync (cents : Int) : Write :=
  .syncOnce (.response 200 "" (some (.array [.object [(.ofString "sku", .str (.ofString "mug")),
    (.ofString "unit_price_cents", .int cents)]]))) fun _ ↦ 0

/-- Nothing checks the price. -/
theorem negative_price_stored :
    ∃ c, Crew.Run (pricing .sample .sample fun _ ↦ True) .free
        ⟨World.sample (.sample .complete), []⟩ c ∧
      ∃ p ∈ c.state.db.posPrices.rows, p.unitPriceCents = -500 := by
  have hrun : ((mugSync (-500)).run .sample (.sample (.sample .complete))).isOk = true := by
    decide +kernel
  obtain ⟨db', hdb'⟩ := exists_of_isOk hrun
  have hprice : priceMap db'.posPrices "mug" = some (-500) := by
    rw [Write.priceMap_run hdb']
    decide +kernel
  obtain ⟨p, hp, hcents⟩ := Option.map_eq_some_iff.mp hprice
  exact ⟨_, .single (.drift (.write trivial hdb')), p, Table.mem_of_get? hp, hcents⟩

theorem fair_sample : Fair (World.sample (.sample .awaitingPayment)) := by
  refine ⟨fun sku cents h ↦ (nomatch h), fun x t ht _ ↦ ?_⟩
  obtain rfl := List.mem_singleton.mp (Table.mem_of_get? ht)
  exact ⟨by decide, by decide, by decide, by decide⟩

/-- A sync brings a price, and a sale is paid in cash. -/
theorem no_negative_money_sample :
    ∃ c, Crew.Run (pricing .sample .sample (SyncsNonneg Setup.sample.rt)) .free
        ⟨World.sample (.sample .awaitingPayment), []⟩ c ∧
      priceMap c.state.db.posPrices "mug" = some 500 ∧
      ∀ p ∈ c.state.db.posPrices.rows, 0 ≤ p.unitPriceCents := by
  have hrun : ((mugSync 500).run .sample (.sample (.sample .awaitingPayment))).isOk = true := by
    decide +kernel
  obtain ⟨db', hdb'⟩ := exists_of_isOk hrun
  have hok : SyncsNonneg Setup.sample.rt (mugSync 500) := by
    intro sku cents h
    have hmem : (sku, cents) ∈ [("mug", (500 : Cents))] := mem_of_lastValue h
    obtain ⟨rfl, rfl⟩ := Prod.mk.inj (List.mem_singleton.mp hmem)
    decide
  have hcrew : Crew.Run (pricing .sample .sample (SyncsNonneg Setup.sample.rt)) .free
      ⟨World.sample (.sample .awaitingPayment), []⟩ _ :=
    .tail (.single (.drift (.write hok hdb'))) (.start (.chargeCash 0 2000))
  refine ⟨_, hcrew, ?_, (no_negative_money .sample .sample (by decide) fair_sample hcrew).1⟩
  refine (congrFun (Write.priceMap_run hdb') "mug").trans ?_
  decide +kernel

end Sale

end HightowerPos
