import HightowerPos.Register.CartStore

/-!
# What every sequence of cart operations keeps

Line ids are distinct and quantities are at least 1 in every cart that is reached, so that an
operation by id works at one place.  An added item counts once, and a saved split conserves the
line that it replaces.
-/

namespace HightowerPos.Register

/-! ## Quantities -/

/-- The total quantity of a SKU. -/
def quantityOf (sku : String) (lines : List StoreLine) : Int :=
  ((lines.filter fun l ↦ l.sku = sku).map (·.quantity)).sum

section Quantities

variable {sku : String} {line : StoreLine} {l r : List StoreLine}

@[simp] theorem quantityOf_nil : quantityOf sku [] = 0 := rfl

theorem quantityOf_cons :
    quantityOf sku (line :: l) =
      (if line.sku = sku then line.quantity else 0) + quantityOf sku l := by
  unfold quantityOf
  by_cases h : line.sku = sku <;> simp [h]

theorem quantityOf_append : quantityOf sku (l ++ r) = quantityOf sku l + quantityOf sku r := by
  unfold quantityOf
  rw [List.filter_append, List.map_append, List.sum_append]

/-- What the lines cost before tax. -/
def subtotal (lines : List StoreLine) : Cents :=
  (computeTotals (lines.map (·.toCartLine))).subtotalCents

theorem subtotal_eq (lines : List StoreLine) :
    subtotal lines = (lines.map fun l ↦ l.toCartLine.lineTotal).sum := by
  unfold subtotal
  rw [computeTotals_eq, List.map_map]
  rfl

theorem subtotal_append : subtotal (l ++ r) = subtotal l + subtotal r := by
  rw [subtotal_eq, subtotal_eq, subtotal_eq, List.map_append, List.sum_append]

end Quantities

/-! ## The invariant -/

/-- Line ids are distinct, and quantities are at least 1. -/
structure WellFormed (lines : List StoreLine) : Prop where
  distinct : (lines.map (·.id)).Nodup
  positive : ∀ line ∈ lines, 1 ≤ line.quantity

section Operations

variable {newLineId : Nat → String} {lines : List StoreLine} {line : StoreLine}

/-- A change of the line with an id that leaves it its id and a positive quantity. -/
theorem WellFormed.update (h : WellFormed lines) {id : String} {f : StoreLine → StoreLine}
    (hid : ∀ l, (f l).id = l.id) (hquantity : ∀ l, 1 ≤ l.quantity → 1 ≤ (f l).quantity) :
    WellFormed (lines.map fun l ↦ if l.id = id then f l else l) where
  distinct := by
    have hkeys : (lines.map fun l ↦ if l.id = id then f l else l).map StoreLine.id =
        lines.map StoreLine.id := by
      refine map_key fun l ↦ ?_
      split
      · exact hid l
      · rfl
    rw [hkeys]
    exact h.distinct
  positive line hline := by
    obtain ⟨l, hl, rfl⟩ := List.mem_map.mp hline
    split
    · exact hquantity l (h.positive l hl)
    · exact h.positive l hl

/-! ### Adding an item -/

/-- An added item goes to one line, or to a new one. -/
theorem addItem_cases (h : WellFormed lines) (newLineId : Nat → String) (item : Item) :
    (∃ l line r, lines = l ++ line :: r ∧ line.sku = item.sku ∧
      addItem newLineId item lines = l ++ line.withQuantity (line.quantity + 1) :: r) ∨
    ∃ line : StoreLine, line.id = newLineId 0 ∧ line.sku = item.sku ∧ line.quantity = 1 ∧
      addItem newLineId item lines = lines ++ [line] := by
  unfold addItem
  dsimp only
  cases hfind : lines.find? fun l ↦ l.sku = item.sku ∧
      l.warehouseId = ((pickDefaultLocation item.availability).getD {}).warehouseId ∧
      l.binId = ((pickDefaultLocation item.availability).getD {}).binId with
  | none => exact .inr ⟨_, rfl, rfl, rfl, rfl⟩
  | some line =>
      have hsku := List.find?_some hfind
      rw [decide_eq_true_eq] at hsku
      obtain ⟨l, r, rfl, hl, hr⟩ := parts_of_mem h.distinct (List.mem_of_find?_eq_some hfind)
      exact .inl ⟨l, line, r, rfl, hsku.1, map_at hl hr⟩

theorem WellFormed.addItem (h : WellFormed lines) (hfresh : Fresh newLineId lines) (item : Item) :
    WellFormed (addItem newLineId item lines) := by
  rcases addItem_cases h newLineId item with ⟨l, line, r, rfl, -, hadd⟩ | ⟨line, hid, -, hone, hadd⟩
  · rw [hadd]
    constructor
    · have hdistinct := h.distinct
      rw [List.map_append, List.map_cons] at hdistinct ⊢
      exact hdistinct
    · intro line' hline'
      rcases List.mem_append.mp hline' with hline' | hline'
      · exact h.positive line' (List.mem_append_left _ hline')
      · rcases List.mem_cons.mp hline' with rfl | hline'
        · have hpos := h.positive line (by simp)
          show 1 ≤ line.quantity + 1
          omega
        · exact h.positive line' (List.mem_append_right _ (.tail _ hline'))
  · rw [hadd]
    constructor
    · rw [List.map_append, List.map_singleton, hid]
      exact List.nodup_append'.mpr ⟨h.distinct, List.nodup_singleton _,
        List.disjoint_singleton.mpr (hfresh.notMem 0)⟩
    · intro line' hline'
      rcases List.mem_append.mp hline' with hline' | hline'
      · exact h.positive line' hline'
      · rw [List.mem_singleton.mp hline', hone]

/-- **An added item counts once.** -/
theorem quantityOf_addItem (h : WellFormed lines) (newLineId : Nat → String) (item : Item)
    (sku : String) : quantityOf sku (addItem newLineId item lines) =
      quantityOf sku lines + if sku = item.sku then 1 else 0 := by
  rcases addItem_cases h newLineId item with
    ⟨l, line, r, rfl, hsku, hadd⟩ | ⟨line, -, hsku, hone, hadd⟩
  · rw [hadd, quantityOf_append, quantityOf_append, quantityOf_cons, quantityOf_cons]
    show _ + ((if line.sku = sku then line.quantity + 1 else 0) + _) = _
    rw [hsku]
    by_cases hs : sku = item.sku
    · subst hs
      simp only [if_true]
      omega
    · simp only [hs, Ne.symm hs, if_false]
      omega
  · rw [hadd, quantityOf_append, quantityOf_cons, quantityOf_nil, hsku, hone, add_zero]
    simp only [eq_comm]

/-! ### Splitting a line -/

theorem mem_replacement {original : StoreLine} {splits : List SplitSpec}
    (h : line ∈ replacement newLineId original splits) :
    ∃ n, ∃ s ∈ splits, 0 < s.quantity ∧ line = original.split (newLineId n) s := by
  obtain ⟨n, hn, rfl⟩ := List.mem_mapIdx.mp h
  have hmem := List.mem_filter.mp (List.getElem_mem hn)
  exact ⟨n, _, hmem.1, of_decide_eq_true hmem.2, rfl⟩

theorem ids_replacement (newLineId : Nat → String) (original : StoreLine)
    (splits : List SplitSpec) : (replacement newLineId original splits).map (·.id) =
      (List.range (splits.filter fun s ↦ 0 < s.quantity).length).map newLineId := by
  unfold replacement
  refine List.ext_getElem (by simp) fun n hn hn' ↦ ?_
  simp [StoreLine.split]

theorem quantities_replacement (newLineId : Nat → String) (original : StoreLine)
    (splits : List SplitSpec) : (replacement newLineId original splits).map (·.quantity) =
      (splits.filter fun s ↦ 0 < s.quantity).map (·.quantity) := by
  unfold replacement
  refine List.ext_getElem (by simp) fun n hn hn' ↦ ?_
  simp [StoreLine.split]

theorem WellFormed.splitLine (h : WellFormed lines) (hfresh : Fresh newLineId lines) (id : String)
    (splits : List SplitSpec) : WellFormed (splitLine newLineId id splits lines) := by
  unfold Register.splitLine
  split
  · exact h
  · next original hfind =>
      split
      · exact h
      · have hid := List.find?_some hfind
        rw [decide_eq_true_eq] at hid
        subst hid
        obtain ⟨l, r, rfl, hl, hr⟩ := parts_of_mem h.distinct (List.mem_of_find?_eq_some hfind)
        rw [flatMap_at hl hr]
        constructor
        · refine nodup_splice h.distinct ?_ ?_
          · rw [ids_replacement]
            exact List.nodup_range.map hfresh.injective
          · intro k hk
            rw [ids_replacement] at hk
            obtain ⟨n, -, rfl⟩ := List.mem_map.mp hk
            exact hfresh.notMem n
        · intro line hline
          rcases List.mem_append.mp hline with hline | hline
          · exact h.positive line (List.mem_append_left _ hline)
          · rcases List.mem_append.mp hline with hline | hline
            · obtain ⟨n, s, -, hpos, rfl⟩ := mem_replacement hline
              exact hpos
            · exact h.positive line (List.mem_append_right _ (.tail _ hline))

/-! ### The modal -/

/-- The rows of the modal are never negative. -/
theorem editedRows_nonneg (h : 0 ≤ line.quantity) (edits : List (String × Int)) {row : SplitRow}
    (hrow : row ∈ editedRows line edits) : 0 ≤ row.qty := by
  have hedit (rows : List SplitRow) (hrows : ∀ row ∈ rows, 0 ≤ row.qty) :
      ∀ row ∈ edits.foldl (fun rows edit ↦ setRowQty edit.1 edit.2 rows) rows, 0 ≤ row.qty := by
    clear hrow
    induction edits generalizing rows with
    | nil => exact hrows
    | cons edit edits ih =>
        refine ih _ fun row hrow ↦ ?_
        obtain ⟨old, hold, rfl⟩ := List.mem_map.mp hrow
        split
        · exact le_max_left _ _
        · exact hrows old hold
  refine hedit _ (fun row hrow ↦ ?_) row hrow
  obtain ⟨wh, -, rfl⟩ := List.mem_map.mp hrow
  dsimp only
  split
  · exact h
  · exact le_rfl

theorem rowsTotal_eq (rows : List SplitRow) : rowsTotal rows = (rows.map (·.qty)).sum := by
  have hloop (sum : Int) :
      rows.foldl (fun sum r ↦ sum + r.qty) sum = sum + (rows.map (·.qty)).sum := by
    induction rows generalizing sum with
    | nil => simp
    | cons row rows ih => rw [List.foldl_cons, ih, List.map_cons, List.sum_cons, add_assoc]
  unfold rowsTotal
  rw [hloop, zero_add]

/-- What the empty rows leave out is nothing. -/
theorem sum_splitsOf {rows : List SplitRow} (h : ∀ row ∈ rows, 0 ≤ row.qty) :
    ((splitsOf rows).map (·.quantity)).sum = rowsTotal rows := by
  rw [rowsTotal_eq]
  unfold splitsOf
  induction rows with
  | nil => rfl
  | cons row rows ih =>
      have hrest := ih fun row hrow ↦ h row (.tail _ hrow)
      rw [List.filter_cons, List.map_cons, List.sum_cons, ← hrest]
      split
      · rw [List.map_cons, List.map_cons, List.sum_cons]
      · next hzero =>
          have hnonneg := h row (.head _)
          rw [decide_eq_true_eq] at hzero
          omega

/-- Every split that the modal passes on is positive. -/
theorem filter_splitsOf (rows : List SplitRow) :
    (splitsOf rows).filter (fun s ↦ 0 < s.quantity) = splitsOf rows := by
  refine List.filter_eq_self.mpr fun s hs ↦ ?_
  obtain ⟨row, hrow, rfl⟩ := List.mem_map.mp hs
  exact (List.mem_filter.mp hrow).2

/-- The lines of a split cost what the line did. -/
theorem subtotal_replacement (newLineId : Nat → String) (original : StoreLine)
    (splits : List SplitSpec) : subtotal (replacement newLineId original splits) =
      original.unitPriceCents *
        ((replacement newLineId original splits).map (·.quantity)).sum := by
  have hsum (new : List StoreLine)
      (hnew : ∀ line ∈ new, line.unitPriceCents = original.unitPriceCents) :
      (new.map fun l ↦ l.toCartLine.lineTotal).sum =
        original.unitPriceCents * (new.map (·.quantity)).sum := by
    induction new with
    | nil => simp
    | cons line new ih =>
        rw [List.map_cons, List.sum_cons, ih fun l hl ↦ hnew l (.tail _ hl), List.map_cons,
          List.sum_cons, mul_add, CartLine.lineTotal, hnew line (.head _)]
  rw [subtotal_eq]
  refine hsum _ fun line hline ↦ ?_
  obtain ⟨n, s, -, -, rfl⟩ := mem_replacement hline
  rfl

/-- **A saved split conserves the line that it replaces.** -/
theorem handleSave_valid (h : WellFormed lines) (newLineId : Nat → String) (hline : line ∈ lines)
    {rows : List SplitRow} (hrows : ∀ row ∈ rows, 0 ≤ row.qty) (hvalid : isValid line rows) :
    ∃ l r new, lines = l ++ line :: r ∧ handleSave newLineId line rows lines = l ++ (new ++ r) ∧
      (new.map (·.quantity)).sum = line.quantity ∧ subtotal new = line.toCartLine.lineTotal ∧
      ∀ x ∈ new, x.sku = line.sku ∧ x.unitPriceCents = line.unitPriceCents ∧
        x.isTaxable = line.isTaxable ∧ x.taxRate = line.taxRate := by
  obtain ⟨l, r, rfl, hl, hr⟩ := parts_of_mem h.distinct hline
  unfold isValid at hvalid
  rw [Bool.and_eq_true, decide_eq_true_eq] at hvalid
  have hsum : ((replacement newLineId line (splitsOf rows)).map (·.quantity)).sum =
      line.quantity := by
    rw [quantities_replacement, filter_splitsOf, sum_splitsOf hrows, hvalid.1]
  have hne : replacement newLineId line (splitsOf rows) ≠ [] := by
    intro hnil
    have hpos := h.positive line hline
    rw [hnil, List.map_nil, List.sum_nil] at hsum
    omega
  have hfind : ((l ++ line :: r).find? fun x ↦ x.id = line.id) = some line := find?_at hl
  refine ⟨l, r, _, rfl, ?_, hsum, ?_, fun x hx ↦ ?_⟩
  · unfold handleSave splitLine
    rw [if_pos (by rw [isValid, Bool.and_eq_true, decide_eq_true_eq]; exact hvalid), hfind]
    exact (if_neg hne).trans (flatMap_at hl hr)
  · rw [subtotal_replacement, hsum]
    rfl
  · obtain ⟨n, s, -, -, rfl⟩ := mem_replacement hx
    exact ⟨rfl, rfl, rfl, rfl⟩

/-! ## Sequences of operations -/

/-- The id that an operation names. -/
def CartOp.target : CartOp → Option String
  | .removeLine id | .setQuantity id _ | .setWarehouseBin id _ _ | .saveSplit id _ => some id
  | .addItem _ | .clear => none

theorem find?_unknown {id : String} (h : id ∉ lines.map (·.id)) :
    (lines.find? fun l ↦ l.id = id) = none := by
  refine List.find?_eq_none.mpr fun l hl ↦ ?_
  rw [decide_eq_true_eq]
  exact fun hid ↦ h (List.mem_map.mpr ⟨l, hl, hid⟩)

theorem splitLine_unknown {id : String} (h : id ∉ lines.map (·.id)) (splits : List SplitSpec) :
    splitLine newLineId id splits lines = lines := by
  unfold splitLine
  rw [find?_unknown h]

/-- **An unknown id changes nothing.** -/
theorem CartOp.apply_unknown {op : CartOp} {id : String} (hop : op.target = some id)
    (h : id ∉ lines.map (·.id)) : op.apply newLineId lines = lines := by
  cases op with
  | addItem item => cases hop
  | clear => cases hop
  | removeLine id =>
      obtain rfl := Option.some.inj hop
      exact filter_of_notMem h
  | setQuantity id quantity =>
      obtain rfl := Option.some.inj hop
      exact map_of_notMem h
  | setWarehouseBin id warehouseId binId =>
      obtain rfl := Option.some.inj hop
      exact map_of_notMem h
  | saveSplit id edits =>
      obtain rfl := Option.some.inj hop
      show Register.saveSplit newLineId id edits lines = lines
      unfold Register.saveSplit
      rw [find?_unknown h]

theorem WellFormed.apply (h : WellFormed lines) (hfresh : Fresh newLineId lines) (op : CartOp) :
    WellFormed (op.apply newLineId lines) := by
  cases op with
  | addItem item => exact h.addItem hfresh item
  | removeLine id =>
      refine ⟨?_, fun line hline ↦ h.positive line (List.mem_filter.mp hline).1⟩
      exact h.distinct.sublist (List.filter_sublist.map _)
  | setQuantity id quantity => exact h.update (fun _ ↦ rfl) fun _ _ ↦ le_max_left _ _
  | setWarehouseBin id warehouseId binId => exact h.update (fun _ ↦ rfl) fun _ hpos ↦ hpos
  | saveSplit id edits =>
      show WellFormed (saveSplit newLineId id edits lines)
      unfold saveSplit
      split
      · exact h
      · unfold handleSave
        split
        · exact h.splitLine hfresh _ _
        · exact h
  | clear => exact ⟨.nil, nofun⟩

theorem Reached.wellFormed (h : Reached lines) : WellFormed lines := by
  induction h with
  | empty => exact ⟨.nil, nofun⟩
  | step h hfresh op ih => exact ih.apply hfresh op

/-- **The cart store.**  In every cart that operations make of the empty one the line ids are
distinct and the quantities at least 1; an added item counts once, at one line at most; a saved
split puts lines of the same item in the place of the line, which cost and add up to as much; a
split that is not valid, and an operation that names an unknown id, leave the cart as it was. -/
theorem cart_store (h : Reached lines) (hfresh : Fresh newLineId lines) :
    ((lines.map (·.id)).Nodup ∧ ∀ line ∈ lines, 1 ≤ line.quantity) ∧
    (∀ item, (∀ sku, quantityOf sku (addItem newLineId item lines) =
        quantityOf sku lines + if sku = item.sku then 1 else 0) ∧
      ((∃ l line r, lines = l ++ line :: r ∧
          addItem newLineId item lines = l ++ line.withQuantity (line.quantity + 1) :: r) ∨
        ∃ line, addItem newLineId item lines = lines ++ [line])) ∧
    (∀ line ∈ lines, ∀ edits,
      (isValid line (editedRows line edits) = true → ∃ l r new, lines = l ++ line :: r ∧
        (CartOp.saveSplit line.id edits).apply newLineId lines = l ++ (new ++ r) ∧
        (new.map (·.quantity)).sum = line.quantity ∧
        (∀ x ∈ new, x.sku = line.sku ∧ x.unitPriceCents = line.unitPriceCents ∧
          x.isTaxable = line.isTaxable ∧ x.taxRate = line.taxRate) ∧
        subtotal (l ++ (new ++ r)) = subtotal lines) ∧
      (isValid line (editedRows line edits) = false →
        (CartOp.saveSplit line.id edits).apply newLineId lines = lines)) ∧
    (∀ (op : CartOp) id, op.target = some id → id ∉ lines.map (·.id) →
      op.apply newLineId lines = lines) ∧
    (∀ id splits, id ∉ lines.map (·.id) → splitLine newLineId id splits lines = lines) ∧
    ∀ op : CartOp, Reached (op.apply newLineId lines) := by
  have hwell := h.wellFormed
  refine ⟨⟨hwell.distinct, hwell.positive⟩, fun item ↦ ⟨quantityOf_addItem hwell _ _, ?_⟩, ?_,
    fun op id ↦ CartOp.apply_unknown, fun id splits h ↦ splitLine_unknown h splits,
    fun op ↦ h.step hfresh op⟩
  · rcases addItem_cases hwell newLineId item with ⟨l, line, r, hl, -, hadd⟩ | ⟨line, -, -, -, hadd⟩
    · exact .inl ⟨l, line, r, hl, hadd⟩
    · exact .inr ⟨line, hadd⟩
  · intro line hline edits
    have hfind : (lines.find? fun l ↦ l.id = line.id) = some line := by
      obtain ⟨l, r, rfl, hl, -⟩ := parts_of_mem hwell.distinct hline
      exact find?_at hl
    have happly : (CartOp.saveSplit line.id edits).apply newLineId lines =
        handleSave newLineId line (editedRows line edits) lines := by
      show saveSplit newLineId line.id edits lines = _
      unfold saveSplit
      rw [hfind]
    rw [happly]
    constructor
    · intro hvalid
      obtain ⟨l, r, new, rfl, hsave, hsum, hcost, hsame⟩ := handleSave_valid hwell newLineId hline
        (fun _ ↦ editedRows_nonneg (le_trans zero_le_one (hwell.positive line hline)) edits) hvalid
      refine ⟨l, r, new, rfl, hsave, hsum, hsame, ?_⟩
      rw [subtotal_append, subtotal_append, hcost, subtotal_append (l := l),
        subtotal_eq (line :: r), subtotal_eq r, List.map_cons, List.sum_cons]
    · intro hinvalid
      unfold handleSave
      rw [hinvalid]
      rfl

end Operations

/-! ## A split -/

/-- A rod that two warehouses have. -/
def splitRod : Item where
  sku := "ROD-100"
  name := "Rod"
  unitPriceCents := 19999
  taxRate := 81 / 1000
  isTaxable := true
  availability :=
    [⟨"WH-STORE", "Store", 4, [⟨"BIN-A1", "A1", 4⟩]⟩, ⟨"WH-AFC", "AFC", 3, [⟨"BIN-B1", "B1", 3⟩]⟩]

/-- Ids of growing length, longer than `k`. -/
def longIds (k n : Nat) : String := String.ofList (List.replicate (k + n) 'x')

theorem fresh_longIds {k : Nat} {lines : List StoreLine}
    (h : ∀ line ∈ lines, line.id.length < k) : Fresh (longIds k) lines where
  injective n m hnm := by
    have hlength := congrArg String.length hnm
    simpa [longIds] using hlength
  notMem n hmem := by
    obtain ⟨line, hline, hid⟩ := List.mem_map.mp hmem
    have hlength := h line hline
    rw [hid, longIds, String.length_ofList, List.length_replicate] at hlength
    omega

/-- Two rods of one line are split over the warehouses. -/
theorem cart_store_split : ∃ lines : List StoreLine, Reached lines ∧ (lines.map (·.id)).Nodup ∧
    lines.map (fun l ↦ (l.warehouseId, l.binName, l.quantity)) =
      [("WH-STORE", "A1", 1), ("WH-AFC", "B1", 1)] := by
  have hadd := (cart_store .empty (fresh_longIds (k := 0) nofun)).2.2.2.2.2 (.addItem splitRod)
  have htwo := (cart_store hadd (fresh_longIds (k := 1) (by decide))).2.2.2.2.2
    (.setQuantity "" 2)
  have hsplit := (cart_store htwo (fresh_longIds (k := 1) (by decide))).2.2.2.2.2
    (.saveSplit "" [("WH-STORE", 1), ("WH-AFC", 1)])
  exact ⟨_, hsplit, (cart_store hsplit (fresh_longIds (k := 9) (by decide))).1.1, by decide⟩

end HightowerPos.Register
