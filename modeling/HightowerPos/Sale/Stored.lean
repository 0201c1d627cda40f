import HightowerPos.Async.Stretch
import HightowerPos.Data.Collect
import HightowerPos.Service

/-!
# The sale that is stored

What `start_checkout` makes of a list of lines: it looks up the prices, refuses the cart where
one is missing, and stores a row in which the amounts of the lines add up to those of the
header.
-/

namespace HightowerPos.Sale

open Async Checkout

/-! ## Prices -/

section Prices

variable {db : Db} {missing : List String} {prices : List (String × Cents)}

/-- The price of a SKU. -/
def priceOf (db : Db) (sku : String) : Option Cents :=
  (db.posPrices.get? sku).map (·.unitPriceCents)

/-- The SKUs without a price, in the order in which the lines name them first. -/
def unpriced (db : Db) (lines : List CartLineIn) : List String :=
  ((lines.map (·.sku)).filter fun sku ↦ (priceOf db sku).isNone).eraseDups

/-- The prices that the loop has found. -/
def Found (db : Db) (prices : List (String × Cents)) : Prop :=
  ∀ sku price, prices.lookup sku = some price → priceOf db sku = some price

theorem found_nil : Found db [] := by
  intro sku price h
  cases h

/-- What is looked up was there, or has been appended. -/
theorem lookup_appended {sku sku' : String} {price price' : Cents}
    (h : (prices ++ [(sku, price)]).lookup sku' = some price') :
    prices.lookup sku' = some price' ∨ sku' = sku ∧ price' = price := by
  rw [List.lookup_append] at h
  cases hfound : prices.lookup sku' with
  | some other =>
      rw [hfound, Option.some_or] at h
      exact .inl h
  | none =>
      rw [hfound, Option.none_or] at h
      by_cases heq : sku' = sku
      · subst heq
        rw [List.lookup_cons_self] at h
        exact .inr ⟨rfl, (Option.some.inj h).symm⟩
      · rw [List.lookup_cons, beq_eq_false_iff_ne.mpr heq] at h
        cases h

theorem Found.append {sku : String} {price : Cents} (h : Found db prices)
    (hsku : priceOf db sku = some price) : Found db (prices ++ [(sku, price)]) := by
  intro sku' price' hlookup
  rcases lookup_appended hlookup with hfound | ⟨rfl, rfl⟩
  · exact h sku' price' hfound
  · exact hsku

/-- What the first loop of `start_checkout` leaves: the SKUs without a price that it has not
come across before, and prices that it has found. -/
theorem pricesOf_spec (missing : List String) (lines : List CartLineIn) (h : Found db prices) :
    (pricesOf db lines missing prices).1 = missing ++ ((lines.map (·.sku)).filter fun sku ↦
        (priceOf db sku).isNone && sku ∉ missing).eraseDups ∧
      Found db (pricesOf db lines missing prices).2 := by
  induction lines generalizing missing prices with
  | nil => exact ⟨(List.append_nil _).symm, h⟩
  | cons line lines ih =>
      unfold pricesOf
      rw [List.map_cons, List.filter_cons]
      by_cases hknown : (prices.lookup line.sku).isSome = true
      · obtain ⟨price, hprice⟩ := Option.isSome_iff_exists.mp hknown
        rw [if_pos hknown, h _ _ hprice]
        exact ih _ h
      · rw [if_neg hknown]
        rw [show (db.posPrices.get? line.sku).map (·.unitPriceCents) = priceOf db line.sku from rfl]
        cases hprice : priceOf db line.sku with
        | some price => exact ih _ (h.append hprice)
        | none =>
            by_cases hmem : line.sku ∈ missing
            · simp only [hmem, if_true, not_true_eq_false, decide_false, Bool.and_false,
                Bool.false_eq_true, if_false]
              exact ih _ h
            · simp only [hmem, if_false, not_false_eq_true, decide_true, Option.isNone_none,
                Bool.and_self, if_true]
              obtain ⟨hmissing, hfound⟩ := ih (missing ++ [line.sku]) h
              refine ⟨?_, hfound⟩
              rw [hmissing, List.append_assoc, List.singleton_append, List.eraseDups_cons,
                List.filter_filter]
              congr 4
              funext sku
              by_cases heq : sku = line.sku <;> simp [heq, and_comm]

/-- A SKU is priced when the loop has come to it. -/
theorem lookup_pricesOf {lines : List CartLineIn} {sku : String} {price : Cents}
    (hprice : (db.posPrices.get? sku).map (·.unitPriceCents) = some price)
    (h : prices.lookup sku = some price ∨
      prices.lookup sku = none ∧ sku ∈ lines.map (·.sku)) :
    (pricesOf db lines missing prices).2.lookup sku = some price := by
  induction lines generalizing missing prices with
  | nil =>
      rcases h with h | ⟨-, h⟩
      · exact h
      · cases h
  | cons line lines ih =>
      unfold pricesOf
      by_cases hfound : (prices.lookup line.sku).isSome = true
      · rw [if_pos hfound]
        refine ih (h.imp_right fun hnew ↦ ⟨hnew.1, ?_⟩)
        rcases List.mem_cons.mp hnew.2 with rfl | hmem
        · rw [hnew.1] at hfound
          cases hfound
        · exact hmem
      · rw [if_neg hfound]
        have hstays (other : Cents) (h : prices.lookup sku = some price) :
            (prices ++ [(line.sku, other)]).lookup sku = some price := by
          rw [List.lookup_append, h, Option.some_or]
        cases hline : (db.posPrices.get? line.sku).map (·.unitPriceCents) with
        | none =>
            refine ih (h.imp_right fun hnew ↦ ⟨hnew.1, ?_⟩)
            rcases List.mem_cons.mp hnew.2 with rfl | hmem
            · rw [hline] at hprice
              cases hprice
            · exact hmem
        | some other =>
            refine ih ?_
            rcases h with h | ⟨hnone, hmem⟩
            · exact .inl (hstays other h)
            · by_cases hsku : sku = line.sku
              · subst hsku
                rw [hline] at hprice
                cases hprice
                refine .inl ?_
                rw [List.lookup_append, hnone, Option.none_or, List.lookup_cons_self]
              · refine .inr ⟨?_, (List.mem_cons.mp hmem).resolve_left hsku⟩
                rw [List.lookup_append, hnone, Option.none_or, List.lookup_cons,
                  beq_eq_false_iff_ne.mpr hsku]
                rfl

theorem missing_eq (lines : List CartLineIn) : (pricesOf db lines [] []).1 = unpriced db lines := by
  rw [(pricesOf_spec [] lines found_nil).1, List.nil_append, unpriced]
  simp

theorem priced_of_nil {lines : List CartLineIn} (h : unpriced db lines = []) {line : CartLineIn}
    (hline : line ∈ lines) : (priceOf db line.sku).isSome := by
  by_contra hnone
  have hmem : line.sku ∈ unpriced db lines := by
    rw [unpriced, List.mem_eraseDups, List.mem_filter]
    exact ⟨List.mem_map_of_mem hline, by simpa using hnone⟩
  rw [h] at hmem
  cases hmem

theorem unpriced_eq_nil {lines : List CartLineIn}
    (h : ∀ line ∈ lines, (priceOf db line.sku).isSome) : unpriced db lines = [] := by
  have hnone : ((lines.map (·.sku)).filter fun sku ↦ (priceOf db sku).isNone) = [] := by
    rw [List.filter_eq_nil_iff]
    intro sku hsku
    obtain ⟨line, hline, rfl⟩ := List.mem_map.mp hsku
    have hprice := h line hline
    simpa [Option.isSome_iff_ne_none] using hprice
  rw [unpriced, hnone]
  rfl

/-- Where no price is missing, the loop has found the price of every line. -/
theorem lookup_of_priced {lines : List CartLineIn} (h : unpriced db lines = []) {line : CartLineIn}
    (hline : line ∈ lines) :
    (pricesOf db lines [] []).2.lookup line.sku = priceOf db line.sku := by
  obtain ⟨price, hprice⟩ := Option.isSome_iff_exists.mp (priced_of_nil h hline)
  rw [hprice]
  exact lookup_pricesOf hprice (.inr ⟨rfl, List.mem_map_of_mem hline⟩)

end Prices

/-! ## Rows that add up -/

/-- The amounts of the lines add up to those of the header. -/
structure Adds (t : POSTransaction) : Prop where
  lines : ∀ l ∈ t.cart, l.lineTotalCents = l.unitPriceCents * l.quantity + l.taxCents
  subtotal : t.subtotalCents = (t.cart.map fun l ↦ l.unitPriceCents * l.quantity).sum
  tax : t.taxCents = (t.cart.map (·.taxCents)).sum
  total : t.totalCents = t.subtotalCents + t.taxCents
  lineTotals : t.totalCents = (t.cart.map (·.lineTotalCents)).sum

/-- The stored line of a line of the request. -/
structure LineOf (settings : Settings) (price : String → Option Cents) (line : CartLineIn)
    (l : RichLine) : Prop where
  sku : l.sku = line.sku
  name : l.name = line.name
  warehouseId : l.warehouseId = line.warehouseId
  binId : l.binId = line.binId
  quantity : l.quantity = line.quantity
  isTaxable : l.isTaxable = line.isTaxable
  price : price line.sku = some l.unitPriceCents
  tax : computeLineTax (l.unitPriceCents * l.quantity) settings.taxRate l.isTaxable = .ok l.taxCents
  total : l.lineTotalCents = l.unitPriceCents * l.quantity + l.taxCents

/-- The row is that of a sale of these lines, at these prices. -/
structure SaleOf (settings : Settings) (price : String → Option Cents) (lines : List CartLineIn)
    (t : POSTransaction) : Prop where
  txnType : t.txnType = .sale
  cart : List.Forall₂ (LineOf settings price) lines t.cart
  adds : Adds t

/-- The lines are priced, and the tax of each can be computed: it has 28 digits at most. -/
def Taxed (settings : Settings) (price : String → Option Cents) (lines : List CartLineIn) : Prop :=
  ∀ line ∈ lines, ∃ cents tax, price line.sku = some cents ∧
    computeLineTax (cents * line.quantity) settings.taxRate line.isTaxable = .ok tax

/-- The lines are taxed, and the amounts of the header are integers that SQLite takes. -/
structure Storable (settings : Settings) (price : String → Option Cents)
    (lines : List CartLineIn) : Prop where
  taxed : Taxed settings price lines
  fits : ∀ cart, List.Forall₂ (LineOf settings price) lines cart →
    App.FitsInteger (cart.map fun l ↦ l.unitPriceCents * l.quantity).sum ∧
      App.FitsInteger (cart.map (·.taxCents)).sum ∧
      App.FitsInteger (cart.map (·.lineTotalCents)).sum

section Rows

variable {settings : Settings} {prices : List (String × Cents)}

theorem lineOf_richLine {line : CartLineIn} {l : RichLine}
    (hprice : (prices.lookup line.sku).isSome) (h : richLine settings prices line = .ok l) :
    LineOf settings (fun sku ↦ prices.lookup sku) line l := by
  obtain ⟨price, hprice⟩ := Option.isSome_iff_exists.mp hprice
  unfold richLine at h
  rw [hprice, Option.getD_some] at h
  dsimp only at h
  cases htax : computeLineTax (price * line.quantity) settings.taxRate line.isTaxable with
  | error e =>
      rw [htax] at h
      cases h
  | ok tax =>
      rw [htax] at h
      cases h
      exact ⟨rfl, rfl, rfl, rfl, rfl, rfl, hprice, htax, rfl⟩

/-- Lines that are taxed are stored. -/
theorem exists_richLines {lines : List CartLineIn}
    (h : Taxed settings (fun sku ↦ prices.lookup sku) lines) :
    ∃ cart, lines.mapM (richLine settings prices) = .ok cart := by
  rw [exists_mapM_eq_ok_iff]
  intro line hline
  obtain ⟨cents, tax, hprice, htax⟩ := h line hline
  dsimp only at hprice
  unfold richLine
  rw [hprice, Option.getD_some]
  dsimp only
  rw [htax]
  exact ⟨_, rfl⟩

/-- The stored lines are those of the request, in order. -/
theorem lineOf_richLines {lines : List CartLineIn} {cart : List RichLine}
    (hprices : ∀ line ∈ lines, (prices.lookup line.sku).isSome)
    (h : lines.mapM (richLine settings prices) = .ok cart) :
    List.Forall₂ (LineOf settings fun sku ↦ prices.lookup sku) lines cart := by
  have hboth := (List.forall₂_and_left _ _).mpr ⟨hprices, mapM_eq_ok_iff.mp h⟩
  exact hboth.imp fun _ _ hline ↦ lineOf_richLine hline.1 hline.2

/-- Every stored line is that of a line of the request. -/
theorem exists_line {price : String → Option Cents} {lines : List CartLineIn}
    {cart : List RichLine} (h : List.Forall₂ (LineOf settings price) lines cart) {l : RichLine}
    (hl : l ∈ cart) : ∃ line ∈ lines, LineOf settings price line l := by
  induction h with
  | nil => cases hl
  | @cons line l' lines cart hof _ ih =>
      rcases List.mem_cons.mp hl with rfl | hl
      · exact ⟨line, .head _, hof⟩
      · obtain ⟨line', hline', hof'⟩ := ih hl
        exact ⟨line', List.mem_cons_of_mem _ hline', hof'⟩

/-- A line is stored in one way. -/
theorem LineOf.unique {price : String → Option Cents} {line : CartLineIn} {l l' : RichLine}
    (h : LineOf settings price line l) (h' : LineOf settings price line l') : l = l' := by
  have hprice : l.unitPriceCents = l'.unitPriceCents :=
    Option.some.inj (h.price.symm.trans h'.price)
  have htax := h.tax
  have htotal := h.total
  rw [hprice, h.quantity, ← h'.quantity, h.isTaxable, ← h'.isTaxable, h'.tax] at htax
  have htax' : l.taxCents = l'.taxCents := (Except.ok.inj htax).symm
  rw [hprice, h.quantity, ← h'.quantity, htax', ← h'.total] at htotal
  cases l
  cases l'
  simp only [RichLine.mk.injEq]
  exact ⟨h.sku.trans h'.sku.symm, h.name.trans h'.name.symm,
    h.warehouseId.trans h'.warehouseId.symm, h.binId.trans h'.binId.symm,
    h.quantity.trans h'.quantity.symm, h.isTaxable.trans h'.isTaxable.symm, hprice, htax', htotal⟩

theorem sum_lineTotals {cart : List RichLine}
    (h : ∀ l ∈ cart, l.lineTotalCents = l.unitPriceCents * l.quantity + l.taxCents) :
    (cart.map (·.lineTotalCents)).sum =
      (cart.map fun l ↦ l.unitPriceCents * l.quantity).sum + (cart.map (·.taxCents)).sum := by
  rw [List.map_congr_left h, List.sum_map_add]

/-- The row that `start_checkout` stores. -/
theorem saleOf_newSale {price : String → Option Cents} {lines : List CartLineIn}
    {cart : List RichLine} (h : List.Forall₂ (LineOf settings price) lines cart)
    (cashierId : String) (customer : CustomerAttachIn) (now : Time) (x : Id) :
    SaleOf settings price lines ((newSale settings cart cashierId customer now).build x) := by
  have hlines : ∀ l ∈ cart, l.lineTotalCents = l.unitPriceCents * l.quantity + l.taxCents := by
    intro l hl
    obtain ⟨line, -, hof⟩ := exists_line h hl
    exact hof.total
  exact ⟨rfl, h, hlines, rfl, rfl, rfl, (sum_lineTotals hlines).symm⟩

end Rows

/-! ## The first segment -/

section Starts

variable {w : World} {rt : Runtime} {settings : Settings}

theorem stretch_getPriceCents {α : Type} (sku : String) (f : Option Cents → App α) :
    (getPriceCents sku >>= f).stretch World.send w =
      (f ((w.db.posPrices.get? sku).map (·.unitPriceCents))).stretch World.send w := rfl

/-- The loop only reads. -/
theorem stretch_lookupPrices (lines : List CartLineIn) (missing : List String)
    (prices : List (String × Cents)) :
    (lookupPrices lines missing prices).stretch World.send w =
      (w, .over (.ok (pricesOf w.db lines missing prices))) := by
  induction lines generalizing missing prices with
  | nil => rfl
  | cons line lines ih =>
      unfold lookupPrices pricesOf
      split
      · exact ih missing prices
      · rw [stretch_getPriceCents]
        cases (w.db.posPrices.get? line.sku).map (·.unitPriceCents) with
        | none => exact ih _ prices
        | some price => exact ih missing _

variable (rt settings) (lines : List CartLineIn) (cashierId : String)
  (customer : Option CustomerAttachIn)

/-- A cart in which a price is missing is refused. -/
theorem stretch_startCheckout_unpriced (h : unpriced w.db lines ≠ []) :
    (startCheckout rt settings lines cashierId customer).stretch World.send w =
      (w, .over (.error (.checkout (.priceMissing (unpriced w.db lines))))) := by
  unfold startCheckout
  rw [Prog.stretch_bind, stretch_lookupPrices]
  dsimp only
  rw [missing_eq, if_pos h]
  rfl

/-- A cart whose prices are known is refused for a tax that is too long, or stored. -/
theorem stretch_startCheckout (h : unpriced w.db lines = []) :
    (¬ Taxed settings (priceOf w.db) lines ∧
      ∃ e, (startCheckout rt settings lines cashierId customer).stretch World.send w =
        (w, .over (.error e))) ∨
    ∃ cart, List.Forall₂ (LineOf settings (priceOf w.db)) lines cart ∧
      (startCheckout rt settings lines cashierId customer).stretch World.send w =
        (w.addTransaction (newSale settings cart cashierId (customer.getD {}) w.now),
          .waits (.sentryValidateCart (lines.map cartLine)) (finishStart rt
            ((newSale settings cart cashierId (customer.getD {}) w.now).build
              w.db.posTransactions.fresh))) := by
  unfold startCheckout
  rw [Prog.stretch_bind, stretch_lookupPrices]
  dsimp only
  rw [missing_eq, if_neg (not_not.mpr h), Prog.stretch_bind]
  cases hcart : lines.mapM (richLine settings (pricesOf w.db lines [] []).2) with
  | error e =>
      refine .inl ⟨fun htaxed ↦ ?_, e, rfl⟩
      have hlines : Taxed settings (fun sku ↦ (pricesOf w.db lines [] []).2.lookup sku) lines := by
        intro line hline
        dsimp only
        rw [lookup_of_priced h hline]
        exact htaxed line hline
      obtain ⟨cart, hok⟩ := exists_richLines hlines
      rw [hcart] at hok
      cases hok
  | ok cart =>
      refine .inr ⟨cart, ?_, rfl⟩
      have hprices : ∀ line ∈ lines, ((pricesOf w.db lines [] []).2.lookup line.sku).isSome := by
        intro line hline
        rw [lookup_of_priced h hline]
        exact priced_of_nil h hline
      have hboth := (List.forall₂_and_left _ _).mpr ⟨fun line hline ↦ lookup_of_priced h hline,
        lineOf_richLines hprices hcart⟩
      exact hboth.imp fun line l ⟨hsame, hof⟩ ↦ { hof with price := hsame.symm.trans hof.price }

/-- The row that `start_checkout` stores, if it does. -/
def storedRow (w : World) : Option POSTransaction :=
  ((startCheckout rt settings lines cashierId customer).stretch World.send w).1.db.transaction
    w.db.posTransactions.fresh

variable {rt settings lines cashierId customer}

/-- Only a cart whose prices are known is stored. -/
theorem saleOf_storedRow {t : POSTransaction}
    (h : storedRow rt settings lines cashierId customer w = some t) :
    SaleOf settings (priceOf w.db) lines t := by
  have hnone : w.db.transaction w.db.posTransactions.fresh = none := Table.get?_fresh _
  unfold storedRow at h
  by_cases hpriced : unpriced w.db lines = []
  · rcases stretch_startCheckout rt settings lines cashierId customer hpriced with
      ⟨-, e, he⟩ | ⟨cart, hcart, hstored⟩
    · rw [he, hnone] at h
      cases h
    · rw [hstored] at h
      change (w.db.posTransactions.add _).get? _ = _ at h
      rw [Table.get?_add, if_pos rfl] at h
      obtain rfl := Option.some.inj h
      exact saleOf_newSale hcart _ _ _ _
  · rw [stretch_startCheckout_unpriced rt settings lines cashierId customer hpriced, hnone] at h
    cases h

/-- Only a cart that is not taxed is refused when its prices are known. -/
theorem exists_storedRow (h : Taxed settings (priceOf w.db) lines) :
    ∃ t, storedRow rt settings lines cashierId customer w = some t := by
  have hpriced : unpriced w.db lines = [] := unpriced_eq_nil fun line hline ↦ by
    obtain ⟨cents, -, hprice, -⟩ := h line hline
    rw [hprice]
    rfl
  rcases stretch_startCheckout rt settings lines cashierId customer hpriced with
    ⟨huntaxed, -⟩ | ⟨cart, -, hstored⟩
  · exact absurd h huntaxed
  · refine ⟨(newSale settings cart cashierId (customer.getD {}) w.now).build
      w.db.posTransactions.fresh, ?_⟩
    rw [storedRow, hstored]
    change (w.db.posTransactions.add _).get? _ = _
    rw [Table.get?_add, if_pos rfl]

end Starts

end HightowerPos.Sale
