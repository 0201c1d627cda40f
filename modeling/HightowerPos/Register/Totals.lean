import HightowerPos.Python.Quantize
import HightowerPos.Register.Cart
import HightowerPos.Sale.Stored

/-!
# What the register shows and what the service stores

The pay buttons show the totals of the client (`computeTotals`), and `start_checkout` computes
its own from the same lines.  The client rounds the tax of a line half up; the service rounds
the product to 28 digits and then to the even cent.  The two totals agree exactly when as
many taxable lines are taken down by this as are taken up (`totals_agree_iff`), that is, for
products that have 28 digits at most, when no taxable line is a half cent above an even cent
(`totals_agree_iff_of_short`).
-/

namespace HightowerPos.Register

open Async

/-- The totals of a stored row. -/
def storedTotals (t : POSTransaction) : CartTotals :=
  { subtotalCents := t.subtotalCents, taxCents := t.taxCents, totalCents := t.totalCents }

/-! ## The tax of a line -/

namespace CartLine

variable (rate : Decimal) (line : CartLine)

/-- The tax before it is rounded. -/
def exactTax : ℚ := line.lineTotal * rate.toRat

/-- The tax as the decimal context has it. -/
def decimalTax : ℚ := ((Decimal.ofInt line.lineTotal).mul rate).toRat

/-- The service takes a cent less than the client. -/
def TakenDown : Prop :=
  line.isTaxable = true ∧ HightowerPos.TakenDown (line.exactTax rate) (line.decimalTax rate)

/-- The service takes a cent more. -/
def TakenUp : Prop :=
  line.isTaxable = true ∧ HightowerPos.TakenUp (line.exactTax rate) (line.decimalTax rate)

instance : DecidablePred (TakenDown rate) := fun _ ↦ inferInstanceAs (Decidable (_ ∧ _))

instance : DecidablePred (TakenUp rate) := fun _ ↦ inferInstanceAs (Decidable (_ ∧ _))

variable {rate line}

/-- What the service takes for a line. -/
theorem computeLineTax_eq (hrate : line.taxRate = rate.toRat) {tax : Cents}
    (h : Checkout.computeLineTax line.lineTotal rate line.isTaxable = .ok tax) :
    tax = line.tax - (if line.TakenDown rate then 1 else 0) +
      if line.TakenUp rate then 1 else 0 := by
  unfold Checkout.computeLineTax at h
  by_cases htaxable : line.isTaxable = true
  · rw [if_pos htaxable] at h
    split at h
    · next tax' hquantize =>
        cases h
        rw [quantizeUnit_mul hquantize, Decimal.toRat_ofInt]
        simp only [CartLine.tax, TakenDown, TakenUp, htaxable, true_and, if_true, hrate,
          exactTax, decimalTax]
    · cases h
  · rw [if_neg htaxable] at h
    cases h
    simp only [CartLine.tax, TakenDown, TakenUp, htaxable, false_and, if_false, Bool.false_eq_true,
      sub_zero, add_zero]

end CartLine

/-! ## The sums over the cart -/

section Sums

variable {settings : Settings} {prices : List (String × Cents)}

/-- The prices of the client are those that the service has looked up. -/
def Priced (prices : List (String × Cents)) (lines : List CartLine) : Prop :=
  ∀ line ∈ lines, prices.lookup line.sku = some line.unitPriceCents

/-- The rates of the client are that of the service. -/
def Rated (settings : Settings) (lines : List CartLine) : Prop :=
  ∀ line ∈ lines, line.taxRate = settings.taxRate.toRat

/-- The stored line of a line of the client. -/
theorem richLine_sums {line : CartLine} (hprice : prices.lookup line.sku = some line.unitPriceCents)
    (hrate : line.taxRate = settings.taxRate.toRat) {rich : RichLine}
    (h : Checkout.richLine settings prices line.payload = .ok rich) :
    rich.unitPriceCents * rich.quantity = line.lineTotal ∧
      rich.taxCents = line.tax - (if line.TakenDown settings.taxRate then 1 else 0) +
        if line.TakenUp settings.taxRate then 1 else 0 := by
  simp only [Checkout.richLine, CartLine.payload, hprice, Option.getD_some] at h
  cases htax : Checkout.computeLineTax (line.unitPriceCents * line.quantity) settings.taxRate
      line.isTaxable with
  | error e =>
      rw [htax] at h
      cases h
  | ok tax =>
      rw [htax] at h
      cases h
      exact ⟨rfl, CartLine.computeLineTax_eq hrate htax⟩

/-- **The stored cart** adds up to what the client shows, but for the cents that the service
takes down or up. -/
theorem richLines_sums {lines : List CartLine} (hprices : Priced prices lines)
    (hrates : Rated settings lines) {cart : List RichLine}
    (h : (buildLinesPayload lines).mapM (Checkout.richLine settings prices) = .ok cart) :
    (cart.map fun l ↦ l.unitPriceCents * l.quantity).sum = (lines.map CartLine.lineTotal).sum ∧
      (cart.map (·.taxCents)).sum = (lines.map CartLine.tax).sum -
        lines.countP (CartLine.TakenDown settings.taxRate ·) +
        lines.countP (CartLine.TakenUp settings.taxRate ·) := by
  have hlines := List.forall₂_map_left_iff.mp (mapM_eq_ok_iff.mp h)
  clear h
  induction hlines with
  | nil => exact ⟨rfl, rfl⟩
  | @cons line rich lines rest hline _ ih =>
      obtain ⟨hsub, htax⟩ := richLine_sums (hprices line (.head _)) (hrates line (.head _)) hline
      obtain ⟨hsubs, htaxes⟩ := ih (fun l hl ↦ hprices l (List.mem_cons_of_mem _ hl))
        (fun l hl ↦ hrates l (List.mem_cons_of_mem _ hl))
      constructor
      · simp only [List.map_cons, List.sum_cons, hsub, hsubs]
      · simp only [List.map_cons, List.sum_cons, htax, htaxes, List.countP_cons,
          decide_eq_true_eq]
        split <;> split <;> push_cast <;> ring

end Sums

/-! ## The prices that the service looks up -/

/-- A cart whose prices the client knows is priced by the service in the same way. -/
theorem priced_pricesOf {db : Db} {lines : List CartLine}
    (hprices : ∀ line ∈ lines,
      (db.posPrices.get? line.sku).map (·.unitPriceCents) = some line.unitPriceCents) :
    Priced (Checkout.pricesOf db (buildLinesPayload lines) [] []).2 lines := by
  intro line hline
  refine Sale.lookup_pricesOf (hprices line hline) (.inr ⟨rfl, ?_⟩)
  simp only [buildLinesPayload, List.map_map]
  exact List.mem_map_of_mem hline

/-! ## The stored totals -/

section Stored

variable {D : Deployment} {w : World}

/-- The row `x`, if there is one, has these totals. -/
def Totalled (x : Id) (totals : CartTotals) (w : World) : Prop :=
  ∀ t, w.db.transaction x = some t → storedTotals t = totals

/-- An update that leaves the totals of a row. -/
theorem Totalled.update {x y : Id} {totals : CartTotals} {u : TransactionUpdate}
    (h : Totalled x totals w) (hu : ∀ t, storedTotals (u.set t) = storedTotals t) :
    Totalled x totals (w.updateTransaction y u) := by
  intro t ht
  have hupdated := w.updated_updateTransaction y u
  cases hrow : w.db.transaction x with
  | none =>
      by_cases hx : x = y
      · subst hx
        rw [hupdated.row, hrow] at ht
        cases ht
      · rw [hupdated.others x hx, hrow] at ht
        cases ht
  | some t₀ =>
      obtain ⟨t', ht', hor⟩ := hupdated.row_of hrow
      rw [ht] at ht'
      cases ht'
      rcases hor with rfl | rfl
      · exact h t hrow
      · exact (hu t₀).trans (h t₀ hrow)

/-- The rest of `start_checkout` leaves the totals. -/
theorem totalled_finishStart {x : Id} {totals : CartTotals} {txn : POSTransaction}
    {outcome : Attempts} {answers : (q : Call) → Option (Answer q)} (h : Totalled x totals w) :
    (Checkout.finishStart D.runtime txn outcome).wp
      (.leaving World.send answers (Totalled x totals)) (fun _ _ w ↦ Totalled x totals w) () w := by
  have hupdate {u : TransactionUpdate} (hu : ∀ t, storedTotals (u.set t) = storedTotals t) :
      Totalled x totals (w.updateTransaction txn.id u) := h.update hu
  unfold Checkout.finishStart
  cases Sentry.validateCart D.runtime outcome with
  | ok result =>
      by_cases hv : result.valid = true
      · simp only [hv, if_true, App.wp_saveTransaction]
        exact ⟨trivial, hupdate fun _ ↦ rfl⟩
      · simp only [hv, if_false, wp_bind, App.wp_saveTransaction, Bool.false_eq_true]
        exact ⟨trivial, hupdate fun _ ↦ rfl⟩
  | error e =>
      cases e with
      | sentryClient exc =>
          rw [wp_bind]
          refine App.wp_bindText (fun text _ ↦ ?_) fun _ ↦ h
          simp only [wp_bind, App.wp_saveTransaction]
          exact ⟨trivial, hupdate fun _ ↦ rfl⟩
      | _ => exact h

/-- The totals of a priced cart. -/
def cartTotals (cart : List RichLine) : CartTotals :=
  let subtotal := (cart.map fun l ↦ l.unitPriceCents * l.quantity).sum
  let tax := (cart.map (·.taxCents)).sum
  { subtotalCents := subtotal, taxCents := tax, totalCents := subtotal + tax }

/-- **Whatever `start_checkout` stores** has the totals of the cart that it has priced. -/
theorem stored_cart {lines : List Checkout.CartLineIn} {cashierId : String}
    {customer : Option Checkout.CustomerAttachIn} {answers : (q : Call) → Option (Answer q)}
    {t : POSTransaction}
    (h : ((Checkout.startCheckout D.runtime D.settings lines cashierId customer).exec World.send
      answers w).1.db.transaction w.db.posTransactions.fresh = some t) :
    ∃ cart, lines.mapM (Checkout.richLine D.settings (Checkout.pricesOf w.db lines [] []).2) =
      .ok cart ∧ storedTotals t = cartTotals cart := by
  let x := w.db.posTransactions.fresh
  have hnone : w.db.transaction x = none := Table.get?_fresh _
  cases hcart :
    lines.mapM (Checkout.richLine D.settings (Checkout.pricesOf w.db lines [] []).2) with
  | error e =>
      have hleaves : (Checkout.startCheckout D.runtime D.settings lines cashierId customer).wp
          (.leaving World.send answers fun w ↦ w.db.transaction x = none)
          (fun _ _ w ↦ w.db.transaction x = none) () w := by
        unfold Checkout.startCheckout
        simp only [wp_bind, Checkout.wp_lookupPrices]
        split
        · exact hnone
        · simp only [hcart, wp_bind, App.wp_ofExcept]
          exact hnone
      rw [wp_leaving hleaves] at h
      cases h
  | ok cart =>
      refine ⟨cart, rfl, ?_⟩
      have hleaves : (Checkout.startCheckout D.runtime D.settings lines cashierId customer).wp
          (.leaving World.send answers (Totalled x (cartTotals cart)))
          (fun _ _ w ↦ Totalled x (cartTotals cart) w) () w := by
        unfold Checkout.startCheckout
        simp only [wp_bind, Checkout.wp_lookupPrices]
        split
        · intro t ht
          rw [hnone] at ht
          cases ht
        · simp only [hcart, wp_bind, App.wp_ofExcept]
          have hstored : Totalled x (cartTotals cart) (w.addTransaction
              (Checkout.newSale D.settings cart cashierId (customer.getD {}) w.now)) := by
            intro t ht
            change (w.db.posTransactions.add _).get? x = some t at ht
            rw [Table.get?_add, if_pos rfl] at ht
            cases ht
            rfl
          refine ⟨trivial, fun outcome _ ↦ totalled_finishStart hstored, fun _ ↦ hstored⟩
      exact wp_leaving hleaves t h

end Stored

/-! ## The two totals -/

/-- **The register and the service agree on what the customer owes** exactly when the cents
that the service takes down and up make up for each other. -/
theorem totals_agree_iff (D : Deployment) (w : World) {lines : List CartLine}
    (hprices : ∀ line ∈ lines,
      (w.db.posPrices.get? line.sku).map (·.unitPriceCents) = some line.unitPriceCents)
    (hrates : Rated D.settings lines) (cashierId : String)
    (customer : Option Checkout.CustomerAttachIn) (answers : (q : Call) → Option (Answer q))
    {t : POSTransaction}
    (hstored : ((Checkout.startCheckout D.runtime D.settings (buildLinesPayload lines) cashierId
      customer).exec World.send answers w).1.db.transaction w.db.posTransactions.fresh = some t) :
    storedTotals t = computeTotals lines ↔
      lines.countP (CartLine.TakenDown D.settings.taxRate ·) =
        lines.countP (CartLine.TakenUp D.settings.taxRate ·) := by
  obtain ⟨cart, hcart, ht⟩ := stored_cart hstored
  obtain ⟨hsub, htax⟩ := richLines_sums (priced_pricesOf hprices) hrates hcart
  rw [ht, computeTotals_eq, cartTotals, hsub, htax]
  constructor
  · intro h
    have := congrArg CartTotals.taxCents h
    simp only at this
    grind
  · intro h
    rw [h]
    simp

/-- The same for products that are not rounded on the way: no taxable line is a half cent
above an even cent. -/
theorem totals_agree_iff_of_short {settings : Settings} {lines : List CartLine}
    (hshort : ∀ line ∈ lines, Decimal.excess (line.lineTotal * settings.taxRate.coeff) = 0) :
    lines.countP (CartLine.TakenDown settings.taxRate ·) =
        lines.countP (CartLine.TakenUp settings.taxRate ·) ↔
      ∀ line ∈ lines, line.isTaxable = true → ¬ EvenHalf (line.exactTax settings.taxRate) := by
  have hexact : ∀ line ∈ lines,
      line.decimalTax settings.taxRate = line.exactTax settings.taxRate := by
    intro line hline
    have hmul := @Decimal.toRat_mul (.ofInt line.lineTotal) settings.taxRate (hshort line hline)
    rw [CartLine.decimalTax, hmul, Decimal.toRat_ofInt, CartLine.exactTax]
  have hup : lines.countP (CartLine.TakenUp settings.taxRate ·) = 0 := by
    rw [List.countP_eq_zero]
    intro line hline h
    rw [decide_eq_true_eq, CartLine.TakenUp, hexact line hline] at h
    exact not_takenUp_self _ h.2
  rw [hup, List.countP_eq_zero]
  refine forall₂_congr fun line hline ↦ ?_
  rw [decide_eq_true_eq, CartLine.TakenDown, hexact line hline, takenDown_self, not_and]

/-! ## An item of five dollars -/

/-- A taxable item at the rate of the sample register. -/
def CartLine.item (unitPriceCents : Cents) : CartLine where
  sku := "item"
  name := "Item"
  unitPriceCents := unitPriceCents
  taxRate := Deployment.sample.settings.taxRate.toRat
  isTaxable := true
  warehouseId := "store"
  binId := "A-1-1"
  quantity := 1

/-- A register that sells it. -/
def World.selling (unitPriceCents : Cents) : World where
  db := { Db.sample (.sample .complete) with posPrices := .single ⟨"item", unitPriceCents, 0⟩ }
  now := 0

/-- The row that is stored for it. -/
def storedItem (unitPriceCents : Cents) : Option POSTransaction :=
  ((Checkout.startCheckout Deployment.sample.runtime Deployment.sample.settings
    (buildLinesPayload [.item unitPriceCents]) "alice" none).exec World.send (fun _ ↦ none)
      (World.selling unitPriceCents)).1.db.transaction 1

/-- An item of 19.99 comes to 21.61 on both sides. -/
theorem totals_agree_iff_rod :
    (storedItem 1999).map storedTotals = some (computeTotals [.item 1999]) := by
  have hprices : ∀ line ∈ [CartLine.item 1999],
      ((World.selling 1999).db.posPrices.get? line.sku).map (·.unitPriceCents) =
        some line.unitPriceCents := by decide
  have hrates : Rated Deployment.sample.settings [CartLine.item 1999] := by
    intro line hline
    rw [List.mem_singleton.mp hline]
    rfl
  cases hrow : storedItem 1999 with
  | none =>
      exact absurd hrow (by decide +kernel)
  | some t =>
      refine congrArg some ((totals_agree_iff Deployment.sample (World.selling 1999) hprices hrates
        "alice" none (fun _ ↦ none) hrow).mpr ?_)
      decide +kernel

/-- **An item of 5.00 at 8.1 %** is 5.41 on the pay buttons, and 5.40 is charged. -/
theorem five_dollars_disagree :
    (storedItem 500).map storedTotals = some ⟨500, 40, 540⟩ ∧
      computeTotals [.item 500] = ⟨500, 41, 541⟩ := by
  decide +kernel

end HightowerPos.Register
