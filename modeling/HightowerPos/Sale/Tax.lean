import HightowerPos.Python.Quantize
import HightowerPos.Sale.Stored

/-!
# The tax of a sale

The tax of a line is the exact product rounded once, to the nearest cent and a half to the even
one, as long as the product has 28 digits at most.  The tax of the order is off by half a cent
a line, and another cut of the cart by half a cent a part.
-/

namespace HightowerPos.Sale

open Checkout

/-- The exact amount that is taxed. -/
def lineSubtotal (l : RichLine) : Cents := l.unitPriceCents * l.quantity

/-- The products have 28 digits at most. -/
def Fits (rate : Decimal) (cart : List RichLine) : Prop :=
  ∀ l ∈ cart, l.isTaxable = true → Decimal.excess (lineSubtotal l * rate.coeff) = 0

/-! ## A line -/

section Line

variable {rate : Decimal}

/-- The tax is the nearest cent. -/
theorem nearestEven_computeLineTax {subtotal tax : Cents}
    (hfits : Decimal.excess (subtotal * rate.coeff) = 0)
    (h : computeLineTax subtotal rate true = .ok tax) :
    NearestEven (subtotal * rate.toRat : ℚ) tax := by
  have hmul := Decimal.toRat_mul (x := .ofInt subtotal) (y := rate) hfits
  unfold computeLineTax at h
  rw [if_pos rfl, Decimal.quantizeUnit_eq, hmul, Decimal.toRat_ofInt] at h
  split at h
  · next n hn =>
      obtain rfl := Except.ok.inj h
      split at hn
      · obtain rfl := Option.some.inj hn
        exact nearestEven_roundEven _
      · cases hn
  · cases h

/-- A rate that is not negative taxes more no less. -/
theorem computeLineTax_mono (hrate : 0 ≤ rate.coeff) {subtotal subtotal' tax tax' : Cents}
    (hfits : Decimal.excess (subtotal * rate.coeff) = 0)
    (hfits' : Decimal.excess (subtotal' * rate.coeff) = 0)
    (h : computeLineTax subtotal rate true = .ok tax)
    (h' : computeLineTax subtotal' rate true = .ok tax') (hle : subtotal ≤ subtotal') :
    tax ≤ tax' := by
  refine (nearestEven_computeLineTax hfits h).le (nearestEven_computeLineTax hfits' h') ?_
  have hrat : 0 ≤ rate.toRat := by
    have hcoeff : (0 : ℚ) ≤ rate.coeff := by exact_mod_cast hrate
    exact mul_nonneg hcoeff (zpow_nonneg (by norm_num) _)
  exact mul_le_mul_of_nonneg_right (by exact_mod_cast hle) hrat

/-- What the tax of a line of a cart is. -/
structure TaxedAt (rate : Decimal) (l : RichLine) : Prop where
  taxable : l.isTaxable = true → NearestEven (lineSubtotal l * rate.toRat : ℚ) l.taxCents
  exempt : l.isTaxable = false → l.taxCents = 0

theorem LineOf.taxedAt {settings : Settings} {price : String → Option Cents} {line : CartLineIn}
    {l : RichLine} (h : LineOf settings price line l)
    (hfits : l.isTaxable = true → Decimal.excess (lineSubtotal l * settings.taxRate.coeff) = 0) :
    TaxedAt settings.taxRate l := by
  have htax := h.tax
  constructor
  · intro htaxable
    rw [htaxable] at htax
    exact nearestEven_computeLineTax (hfits htaxable) htax
  · intro hexempt
    rw [hexempt] at htax
    exact (Except.ok.inj htax).symm

end Line

/-! ## The order -/

section Order

variable {rate : Decimal} {cart : List RichLine}

/-- The subtotal of the taxable lines. -/
def taxableSubtotal (cart : List RichLine) : Cents :=
  ((cart.filter (·.isTaxable)).map lineSubtotal).sum

/-- The tax is off by half a cent for each taxable line. -/
theorem abs_sum_tax_sub_le (h : ∀ l ∈ cart, TaxedAt rate l) :
    |((cart.map (·.taxCents)).sum - taxableSubtotal cart * rate.toRat : ℚ)| ≤
      cart.countP (·.isTaxable) / 2 := by
  unfold taxableSubtotal
  induction cart with
  | nil => simp
  | cons l cart ih =>
      have hrest := ih fun l' hl' ↦ h l' (List.mem_cons_of_mem _ hl')
      have hline := h l (.head _)
      by_cases htaxable : l.isTaxable = true
      · have hnear := (hline.taxable htaxable).near
        rw [List.map_cons, List.sum_cons, List.filter_cons_of_pos htaxable, List.map_cons,
          List.sum_cons, List.countP_cons_of_pos htaxable]
        rw [Int.cast_add, Int.cast_add, Nat.cast_add, Nat.cast_one]
        rw [abs_le] at hnear hrest ⊢
        constructor <;> linarith
      · have hexempt : l.isTaxable = false := by simpa using htaxable
        rw [List.map_cons, List.sum_cons, List.filter_cons_of_neg htaxable,
          List.countP_cons_of_neg htaxable, hline.exempt hexempt, zero_add]
        exact hrest

/-- The amounts of a line and of its parts. -/
theorem sum_parts {settings : Settings} {price : String → Option Cents} {sku : String}
    {unit : Cents} (hprice : price sku = some unit) {parts : List CartLineIn}
    (hparts : ∀ part ∈ parts, part.sku = sku)
    (h : List.Forall₂ (LineOf settings price) parts cart) :
    (cart.map lineSubtotal).sum = unit * (parts.map (·.quantity)).sum := by
  induction h with
  | nil => simp
  | @cons part l parts cart hof _ ih =>
      have hunit : l.unitPriceCents = unit := by
        have := hof.price
        rw [hparts part (.head _), hprice] at this
        exact (Option.some.inj this).symm
      rw [List.map_cons, List.sum_cons, ih fun p hp ↦ hparts p (List.mem_cons_of_mem _ hp),
        List.map_cons, List.sum_cons, lineSubtotal, hunit, hof.quantity, mul_add]

/-- Lines are stored in one way. -/
theorem lines_unique {settings : Settings} {price : String → Option Cents}
    {lines : List CartLineIn} {cart' : List RichLine}
    (h : List.Forall₂ (LineOf settings price) lines cart)
    (h' : List.Forall₂ (LineOf settings price) lines cart') : cart = cart' := by
  induction h generalizing cart' with
  | nil =>
      cases h'
      rfl
  | cons hof _ ih =>
      cases h' with
      | cons hof' h' => rw [hof.unique hof', ih h']

/-- Lines that are stored one after the other. -/
theorem lines_append {settings : Settings} {price : String → Option Cents}
    {lines lines' : List CartLineIn}
    (h : List.Forall₂ (LineOf settings price) (lines ++ lines') cart) :
    ∃ c c', cart = c ++ c' ∧ List.Forall₂ (LineOf settings price) lines c ∧
      List.Forall₂ (LineOf settings price) lines' c' := by
  have hfirst := List.forall₂_take lines.length h
  have hrest := List.forall₂_drop lines.length h
  rw [List.take_left] at hfirst
  rw [List.drop_left] at hrest
  exact ⟨_, _, (List.take_append_drop lines.length cart).symm, hfirst, hrest⟩

end Order

/-! ## The stored row -/

/-- The tax is fair: nearest for each line, no less for more, and close for the order. -/
structure FairTax (rate : Decimal) (t : POSTransaction) : Prop where
  nearest : ∀ l ∈ t.cart, l.isTaxable = true →
    NearestEven (lineSubtotal l * rate.toRat : ℚ) l.taxCents
  exempt : ∀ l ∈ t.cart, l.isTaxable = false → l.taxCents = 0
  total : |(t.taxCents - taxableSubtotal t.cart * rate.toRat : ℚ)| ≤
    t.cart.countP (·.isTaxable) / 2

/-- `parts` is another cut of the line. -/
structure Cuts (line : CartLineIn) (parts : List CartLineIn) : Prop where
  sku : ∀ part ∈ parts, part.sku = line.sku
  taxable : ∀ part ∈ parts, part.isTaxable = true
  quantity : (parts.map (·.quantity)).sum = line.quantity

section Stored

variable {rt : Runtime} {settings : Settings} {w : World} {lines : List CartLineIn}
  {cashierId : String} {customer : Option CustomerAttachIn} {t : POSTransaction}

/-- The tax of a stored sale is fair. -/
theorem fairTax_of_saleOf {price : String → Option Cents} (h : SaleOf settings price lines t)
    (hfits : Fits settings.taxRate t.cart) : FairTax settings.taxRate t := by
  have htaxed : ∀ l ∈ t.cart, TaxedAt settings.taxRate l := by
    intro l hl
    obtain ⟨line, -, hof⟩ := exists_line h.cart hl
    exact hof.taxedAt (hfits l hl)
  refine ⟨fun l hl ↦ (htaxed l hl).taxable, fun l hl ↦ (htaxed l hl).exempt, ?_⟩
  rw [h.adds.tax]
  exact abs_sum_tax_sub_le htaxed

/-- Another cut of a cart. -/
theorem abs_tax_sub_le {price : String → Option Cents} {before parts after : List CartLineIn}
    {line : CartLineIn} {t' : POSTransaction}
    (h : SaleOf settings price (before ++ line :: after) t)
    (h' : SaleOf settings price (before ++ parts ++ after) t')
    (hfits : Fits settings.taxRate t.cart) (hfits' : Fits settings.taxRate t'.cart)
    (htaxable : line.isTaxable = true) (hcuts : Cuts line parts) :
    t'.subtotalCents = t.subtotalCents ∧
      |(t'.taxCents - t.taxCents : ℚ)| ≤ (parts.length + 1) / 2 := by
  obtain ⟨c₁, c₂, hcart, hbefore, hrest⟩ := lines_append h.cart
  cases hrest with
  | @cons _ l _ c₃ hof hafter =>
  obtain ⟨c₄, c₅, hcart', hfirst', hafter'⟩ := lines_append h'.cart
  obtain ⟨c₆, c₇, hcart'', hbefore', hparts⟩ := lines_append hfirst'
  obtain rfl := lines_unique hbefore hbefore'
  obtain rfl := lines_unique hafter hafter'
  subst hcart''
  have hl : l ∈ t.cart := by simp [hcart]
  have hsub : (c₇.map lineSubtotal).sum = lineSubtotal l := by
    rw [sum_parts hof.price hcuts.sku hparts, hcuts.quantity, lineSubtotal, hof.quantity]
  -- the parts are all taxable, and each is off by half a cent
  have hall : ∀ p ∈ c₇, p.isTaxable = true := by
    intro p hp
    obtain ⟨part, hpart, hof'⟩ := exists_line hparts hp
    rw [hof'.isTaxable]
    exact hcuts.taxable part hpart
  have htaxed : ∀ p ∈ c₇, TaxedAt settings.taxRate p := by
    intro p hp
    obtain ⟨part, -, hof'⟩ := exists_line hparts hp
    exact hof'.taxedAt (hfits' p (by simp [hcart', hp]))
  have hoff := abs_sum_tax_sub_le htaxed
  have hline := ((hof.taxedAt (hfits l hl)).taxable (hof.isTaxable.trans htaxable)).near
  have hcount : c₇.countP (·.isTaxable) = parts.length := by
    rw [List.countP_eq_length.mpr hall, hparts.length_eq]
  rw [taxableSubtotal, List.filter_eq_self.mpr hall, hsub, hcount] at hoff
  have htax : (t'.taxCents - t.taxCents : ℚ) = (c₇.map (·.taxCents)).sum - l.taxCents := by
    rw [h'.adds.tax, h.adds.tax, hcart, hcart']
    simp only [List.map_append, List.map_cons, List.sum_append, List.sum_cons]
    push_cast
    ring
  constructor
  · rw [h'.adds.subtotal, h.adds.subtotal, hcart, hcart']
    change ((_ ++ c₇ ++ _).map lineSubtotal).sum = ((_ ++ l :: _).map lineSubtotal).sum
    simp only [List.map_append, List.map_cons, List.sum_append, List.sum_cons, hsub]
    ring
  · rw [htax]
    rw [abs_le] at hoff hline ⊢
    constructor <;> linarith

/-- **Tax rounding is fair and bounded**, for the row that `start_checkout` stores at a rate that
is not negative. -/
theorem tax_fair (rt : Runtime) {settings : Settings} (hrate : 0 ≤ settings.taxRate.coeff)
    {w : World} {lines : List CartLineIn} {cashierId : String}
    {customer : Option CustomerAttachIn} {t : POSTransaction}
    (hstored : storedRow rt settings lines cashierId customer w = some t)
    (hfits : Fits settings.taxRate t.cart) :
    FairTax settings.taxRate t ∧
      (∀ (lines' : List CartLineIn) (cashierId' : String) (customer' : Option CustomerAttachIn)
        (w' : World) (t' : POSTransaction),
        storedRow rt settings lines' cashierId' customer' w' = some t' →
        Fits settings.taxRate t'.cart → ∀ l ∈ t.cart, ∀ l' ∈ t'.cart, l.isTaxable = true →
        l'.isTaxable = true → lineSubtotal l ≤ lineSubtotal l' → l.taxCents ≤ l'.taxCents) ∧
      ∀ (before parts after : List CartLineIn) (line : CartLineIn) (cashierId' : String)
        (customer' : Option CustomerAttachIn) (t' : POSTransaction),
        lines = before ++ line :: after → line.isTaxable = true → Cuts line parts →
        storedRow rt settings (before ++ parts ++ after) cashierId' customer' w = some t' →
        Fits settings.taxRate t'.cart →
        t'.subtotalCents = t.subtotalCents ∧
          |(t'.taxCents - t.taxCents : ℚ)| ≤ (parts.length + 1) / 2 := by
  have hsale := saleOf_storedRow hstored
  refine ⟨fairTax_of_saleOf hsale hfits, ?_, ?_⟩
  · intro lines' cashierId' customer' w' t' hstored' hfits' l hl l' hl' htaxable htaxable' hle
    obtain ⟨line, -, hof⟩ := exists_line hsale.cart hl
    obtain ⟨line', -, hof'⟩ := exists_line (saleOf_storedRow hstored').cart hl'
    have htax := hof.tax
    have htax' := hof'.tax
    rw [htaxable] at htax
    rw [htaxable'] at htax'
    exact computeLineTax_mono hrate (hfits l hl htaxable) (hfits' l' hl' htaxable') htax htax' hle
  · rintro before parts after line cashierId' customer' t' rfl htaxable hcuts hstored' hfits'
    exact abs_tax_sub_le hsale (saleOf_storedRow hstored') hfits hfits' htaxable hcuts

end Stored

/-! ## Two items of five dollars -/

/-- A register that sells items of 5.00. -/
def shop : World where
  db := { Db.sample (.sample .complete) with posPrices := .single ⟨"item", 500, 0⟩ }
  now := 0

/-- Some of them. -/
def items (quantity : Int) : CartLineIn := ⟨"item", "Item", "store", "A-1-1", quantity, true⟩

/-- The row that is stored for them. -/
def sold (lines : List CartLineIn) : Option POSTransaction :=
  storedRow .sample Deployment.sample.settings lines "alice" none shop

/-- Two items on one line are taxed 0.81, and on two lines 0.40 each. -/
theorem tax_fair_two : ∃ t t', sold [items 2] = some t ∧ sold [items 1, items 1] = some t' ∧
    FairTax Deployment.sample.settings.taxRate t ∧ t'.subtotalCents = t.subtotalCents ∧
      |(t'.taxCents - t.taxCents : ℚ)| ≤ (2 + 1) / 2 := by
  have hfits (lines : List CartLineIn) (t : POSTransaction) (h : sold lines = some t)
      (hall : (sold lines).all fun t ↦ decide (∀ l ∈ t.cart, l.isTaxable = true →
        Decimal.excess (lineSubtotal l * Deployment.sample.settings.taxRate.coeff) = 0)) :
      Fits Deployment.sample.settings.taxRate t.cart := by
    rw [h, Option.all_some, decide_eq_true_eq] at hall
    exact hall
  cases h : sold [items 2] with
  | none => exact absurd h (by decide +kernel)
  | some t =>
      cases h' : sold [items 1, items 1] with
      | none => exact absurd h' (by decide +kernel)
      | some t' =>
          have hrate : 0 ≤ Deployment.sample.settings.taxRate.coeff := by decide
          obtain ⟨hfair, -, hcut⟩ := tax_fair .sample hrate h (hfits _ t h (by decide +kernel))
          obtain ⟨hsub, htax⟩ := hcut [] [items 1, items 1] [] (items 2) "alice" none t' rfl rfl
            ⟨by decide, by decide, by decide⟩ h' (hfits _ t' h' (by decide +kernel))
          exact ⟨t, t', rfl, rfl, hfair, hsub, htax⟩

end HightowerPos.Sale
