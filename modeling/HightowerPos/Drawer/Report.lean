import HightowerPos.Async.Segments
import HightowerPos.Drawer.Amounts
import HightowerPos.Drawer.CashRefund
import HightowerPos.Drawer.Variance
import HightowerPos.Services.CloseReport
import Mathlib.Algebra.Order.BigOperators.Group.List

/-!
# The close report

The report of a closed session is on one page, and what it says can be read back from it and added
up.  That its denominations and its variance are right holds however the requests interleave; that
it agrees with the ledger is a matter of serial runs.
-/

namespace HightowerPos.Drawer

open Async Canvas Numeral Relation

/-! ## Texts -/

/-- Python writes the number. -/
def Printable (n : Int) : Prop := n.natAbs < 10 ^ PyStr.intMaxStrDigits

/-- The text of a number. -/
def countText (n : Int) : String :=
  (if n < 0 then "-" else "") ++ String.ofList (Nat.toDigits 10 n.natAbs)

/-- What the report says of a variance. -/
def varianceText (n : Cents) : String :=
  if n = 0 then "BALANCED" else if 0 < n then "OVER  " ++ amountText n else "SHORT " ++ amountText n

section Texts

variable {n m : Int}

theorem printable_neg (h : Printable n) : Printable (-n) := by
  unfold Printable
  rwa [Int.natAbs_neg]

theorem printable_of_le (hn : 0 ≤ n) (hle : n ≤ m) (h : Printable m) : Printable n := by
  have hnat : n.natAbs ≤ m.natAbs := by omega
  exact lt_of_le_of_lt hnat h

/-- An integer of 64 bits. -/
theorem printable_of_lt (h : n.natAbs < 2 ^ 63) : Printable n := by
  apply h.trans
  calc 2 ^ 63 < 10 ^ 19 := by norm_num
    _ ≤ 10 ^ PyStr.intMaxStrDigits := Nat.pow_le_pow_right (by decide) (by decide)

theorem formatCents_ok (h : Printable n) : TillPdf.formatCents n = .ok (amountText n) := by
  apply formatCents_eq_ok
  exact lt_of_le_of_lt (Nat.div_le_self _ _) h

theorem str_ok (h : Printable n) : TillPdf.str n = .ok (countText n) := by
  have hdigits := (Nat.length_toDigits_le_iff (by decide : 1 < 10)
    (by decide : 0 < PyStr.intMaxStrDigits)).mpr h
  rw [TillPdf.str, PyStr.ofNat, if_neg (Nat.not_lt.mpr hdigits)]
  rfl

theorem varianceLabel_ok (h : Printable n) : TillPdf.varianceLabel n = .ok (varianceText n) := by
  unfold TillPdf.varianceLabel varianceText
  rw [formatCents_ok h]
  split
  · rfl
  · split <;> rfl

end Texts

/-! ## What the report says -/

/-- How many of a denomination there are. -/
def quantity (counts : Denominations) (name : String) : Int := (counts.lookup name).getD 0

/-- The row of a denomination. -/
def gridRow (counts : Denominations) (denomination : String × Cents) : List String :=
  [(TillPdf.denomDisplay.lookup denomination.1).getD "",
    "x " ++ countText (quantity counts denomination.1),
    amountText (quantity counts denomination.1 * denomination.2)]

/-- The rows of the denominations. -/
def grid (counts : Denominations) : List (List String) := Till.denominations.map (gridRow counts)

/-- The rows above the first section. -/
def headWords (uuid : Id → String) (settings : Receipt.StoreSettings) (session : TillSession)
    (user : POSUser) (closedAt : Time) : List (List String) :=
  [if settings.storeName = "" then "Hightower" else settings.storeName] ::
    ([settings.storeAddressLine1, settings.storeAddressLine2, settings.storePhone].filter
      (· ≠ "")).map ([·]) ++
    [["TILL CLOSE REPORT"], ["Cashier:", user.displayName ++ " (" ++ user.username ++ ")"],
      ["Terminal:", session.terminalId], ["Opened:", session.openedAt.dateTime],
      ["Closed:", closedAt.dateTime],
      ["Duration:", TillPdf.formatDuration session.openedAt closedAt],
      ["Session ID:", uuid session.id]]

/-- The sections. -/
def sectionWords (session : TillSession) (expected counted variance : Cents)
    (closingCounts : Denominations) : List (List String) :=
  ["OPENING"] :: grid session.openingDenominations ++
    [["Opening float", amountText session.openingFloatCents], ["ACTIVITY"],
      ["Transactions:", countText session.transactionCount],
      ["Cash transactions:", countText session.cashTransactionCount],
      ["Cash sales:", amountText session.cashSalesCents],
      ["Cash refunds:", amountText session.cashRefundsCents], ["CLOSING"]] ++
    grid closingCounts ++
    [["Counted", amountText counted], ["RECONCILIATION"],
      ["Opening float", amountText session.openingFloatCents],
      ["+ Cash sales", amountText session.cashSalesCents],
      ["- Cash refunds", amountText (-session.cashRefundsCents)],
      ["Expected closing", amountText expected], ["Actual closing", amountText counted],
      ["VARIANCE", varianceText variance], ["SIGNATURE"], ["Cashier signature:"], ["Date:"]]

/-- The numbers of a report, which Python writes. -/
structure Written (session : TillSession) (expected counted variance : Cents)
    (closingCounts : Denominations) : Prop where
  opening : Till.denominationsToCents session.openingDenominations =
    .ok session.openingFloatCents
  closing : Till.denominationsToCents closingCounts = .ok counted
  float : Printable session.openingFloatCents
  transactions : Printable session.transactionCount
  cashTransactions : Printable session.cashTransactionCount
  cashSales : Printable session.cashSalesCents
  cashRefunds : Printable session.cashRefundsCents
  expected : Printable expected
  counted : Printable counted
  variance : Printable variance

/-! ## What is drawn -/

section Drawn

variable {β : Type} {d : ℚ} {b : β} {words : List (List String)} {before : List String}
  {counts : Denominations} {l : List (String × Cents)} {total : Cents}

theorem draws_ofPy {α : Type} {r : Except PyExc α} {a : α} {k : α → TillPdf.Report β}
    (hr : r = .ok a) (h : Draws 7 before (k a) words d b) :
    Draws 7 before (TillPdf.ofPy r >>= k) words d b := by
  apply draws_ofResult _ h
  rw [hr]
  rfl

theorem draws_hrLabel (stringWidth : String → ℚ) (label : String) :
    Draws 7 [] (TillPdf.hrLabel stringWidth label) [[label]] 18 () := by
  intro p
  refine ⟨_, [(p.y - 11, [label])], rfl, ⟨by linarith, rfl, List.pairwise_singleton _ _, ?_, ?_⟩,
    rfl⟩
  · intro r hr
    rw [List.mem_singleton.mp hr]
    constructor <;> linarith
  · intro m hm y hy
    simp only [List.mem_cons, List.not_mem_nil, or_false] at hm
    rcases hm with rfl | rfl | rfl | rfl | rfl | rfl | rfl <;>
      simp only [Mark.heights, List.mem_cons, List.not_mem_nil, or_false, or_self] at hy <;>
      subst hy <;> constructor <;> linarith

theorem draws_headerLine (s : String) :
    ∃ d, 0 ≤ d ∧ d ≤ 11 ∧
      Draws 7 [] (TillPdf.headerLine s) (([s].filter (· ≠ "")).map ([·])) d () := by
  unfold TillPdf.headerLine
  by_cases hs : s = ""
  · rw [if_pos hs, List.filter_cons_of_neg (by simpa using hs)]
    exact ⟨0, le_rfl, by norm_num, draws_pure ()⟩
  · rw [if_neg hs, List.filter_cons_of_pos (by simpa using hs)]
    refine ⟨11 + 0, by norm_num, by norm_num, ?_⟩
    apply draws_text
    exact draws_down (k := pure) (by norm_num) (by norm_num) (draws_pure ())

/-- The rows of the denominations are drawn when the sum can be written. -/
theorem draws_denominationRows (hvalue : ∀ denomination ∈ l, 1 ≤ denomination.2)
    (hqty : ∀ denomination ∈ l, 0 ≤ quantity counts denomination.1)
    (hsum : Printable (l.map fun denomination ↦
      quantity counts denomination.1 * denomination.2).sum) :
    Draws 7 [] (TillPdf.denominationRows counts l) (l.map (gridRow counts)) (10 * l.length)
      (l.map fun denomination ↦ quantity counts denomination.1 * denomination.2).sum := by
  induction l with
  | nil =>
      rw [List.length_nil, Nat.cast_zero, mul_zero]
      exact draws_pure 0
  | cons denomination l ih =>
      obtain ⟨name, value⟩ := denomination
      obtain ⟨hvalue, hvalues⟩ := List.forall_mem_cons.mp hvalue
      obtain ⟨hqty, hqtys⟩ := List.forall_mem_cons.mp hqty
      rw [List.map_cons, List.sum_cons] at hsum
      have hrest : 0 ≤ (l.map fun denomination ↦
          quantity counts denomination.1 * denomination.2).sum := by
        apply List.sum_nonneg
        intro n hn
        obtain ⟨denomination, hmem, rfl⟩ := List.mem_map.mp hn
        exact mul_nonneg (hqtys _ hmem) (le_trans (by norm_num) (hvalues _ hmem))
      have hsubtotal : 0 ≤ quantity counts name * value :=
        mul_nonneg hqty (le_trans (by norm_num) hvalue)
      have hcount : quantity counts name ≤ quantity counts name * value :=
        le_mul_of_one_le_right hqty hvalue
      have hd : (10 * ((⟨name, value⟩ :: l : List (String × Cents)).length : ℚ)) =
          10 + (10 * (l.length : ℚ) + 0) := by
        rw [List.length_cons, Nat.cast_succ]
        ring
      rw [hd, List.map_cons, List.map_cons, List.sum_cons]
      unfold TillPdf.denominationRows
      dsimp only
      apply draws_text
      apply draws_ofPy (str_ok (printable_of_le hqty (by linarith) hsum))
      apply draws_text
      apply draws_ofPy (formatCents_ok (printable_of_le hsubtotal (by linarith) hsum))
      apply draws_textRight
      apply draws_down (by norm_num) (by norm_num)
      rw [← List.append_nil (l.map (gridRow counts))]
      exact (ih hvalues hqtys (printable_of_le hrest (by linarith) hsum)).bind (draws_pure _)

/-- A block of denominations. -/
theorem draws_denominationBlock (h : Till.denominationsToCents counts = .ok total)
    (htotal : Printable total) :
    Draws 7 [] (TillPdf.denominationBlock counts) (grid counts) 116 total := by
  obtain ⟨hqty, rfl⟩ := Till.denominationsToCents_eq h
  have hvalue : ∀ denomination ∈ Till.denominations, 1 ≤ denomination.2 := by decide
  refine ((draws_denominationRows hvalue hqty htotal).bind ?_).congr (List.append_nil _)
    (d := _ + (5 + (11 + 0))) (by norm_num [Till.denominations])
  apply draws_skip (by norm_num)
  apply draws_set rfl rfl
  apply draws_set rfl rfl
  apply draws_rule (by norm_num)
  exact draws_skip (by norm_num) (draws_pure _)

/-- A row with an amount. -/
theorem draws_amountRow (label font amountFont : String) {n : Cents} (hn : Printable n) {drop : ℚ}
    (hdrop : 7 ≤ drop) :
    Draws 7 [] (TillPdf.amountRow label font amountFont n drop) [[label, amountText n]]
      drop () := by
  apply draws_text
  apply draws_ofPy (formatCents_ok hn)
  apply draws_textRight
  exact draws_end (by norm_num) hdrop

theorem draws_metadataRows (rows : List (String × String)) :
    Draws 7 [] (TillPdf.metadataRows rows) (rows.map fun row ↦ [row.1, row.2])
      (11 * rows.length) () := by
  induction rows with
  | nil => exact (draws_pure ()).congr rfl (by norm_num)
  | cons row rows ih =>
      obtain ⟨label, value⟩ := row
      refine Draws.congr (d := 11 + 11 * rows.length) ?_ rfl
        (by rw [List.length_cons, Nat.cast_succ]; ring)
      apply draws_text
      apply draws_text
      exact draws_down (by norm_num) (by norm_num) ih

theorem draws_activityRows (rows : List (String × String)) :
    Draws 7 [] (TillPdf.activityRows rows) (rows.map fun row ↦ [row.1, row.2])
      (11 * rows.length) () := by
  induction rows with
  | nil => exact (draws_pure ()).congr rfl (by norm_num)
  | cons row rows ih =>
      obtain ⟨label, value⟩ := row
      refine Draws.congr (d := 11 + 11 * rows.length) ?_ rfl
        (by rw [List.length_cons, Nat.cast_succ]; ring)
      apply draws_text
      apply draws_textRight
      exact draws_down (by norm_num) (by norm_num) ih

/-- The header takes six rows at most. -/
theorem draws_header (settings : Receipt.StoreSettings) :
    ∃ d, d ≤ 62 ∧ Draws 7 [] (TillPdf.header settings)
      ([if settings.storeName = "" then "Hightower" else settings.storeName] ::
        ([settings.storeAddressLine1, settings.storeAddressLine2, settings.storePhone].filter
          (· ≠ "")).map ([·]) ++ [["TILL CLOSE REPORT"]]) d () := by
  obtain ⟨d₁, -, hd₁, h₁⟩ := draws_headerLine settings.storeAddressLine1
  obtain ⟨d₂, -, hd₂, h₂⟩ := draws_headerLine settings.storeAddressLine2
  obtain ⟨d₃, -, hd₃, h₃⟩ := draws_headerLine settings.storePhone
  have hfilter (s : String) (l : List String) :
      (s :: l).filter (· ≠ "") = [s].filter (· ≠ "") ++ l.filter (· ≠ "") := by
    rw [← List.filter_append, List.singleton_append]
  refine ⟨13 + (d₁ + (d₂ + (d₃ + 16))), by linarith, ?_⟩
  rw [hfilter, hfilter settings.storeAddressLine2, List.map_append, List.map_append,
    List.cons_append, List.append_assoc, List.append_assoc]
  apply draws_text
  apply draws_down (by norm_num) (by norm_num)
  apply h₁.bind
  apply h₂.bind
  apply h₃.bind
  apply draws_text
  exact draws_end (by norm_num) (by norm_num)

section Sections

variable {session : TillSession} {expected counted variance : Cents} {closingCounts : Denominations}

theorem draws_activity (h : Written session expected counted variance closingCounts) :
    Draws 7 [] (TillPdf.activity session)
      [["Transactions:", countText session.transactionCount],
        ["Cash transactions:", countText session.cashTransactionCount],
        ["Cash sales:", amountText session.cashSalesCents],
        ["Cash refunds:", amountText session.cashRefundsCents]] 44 () := by
  apply draws_ofPy (str_ok h.transactions)
  apply draws_ofPy (str_ok h.cashTransactions)
  apply draws_ofPy (formatCents_ok h.cashSales)
  apply draws_ofPy (formatCents_ok h.cashRefunds)
  exact (draws_activityRows _).congr rfl (by norm_num)

theorem draws_reconciliation (h : Written session expected counted variance closingCounts) :
    Draws 7 [] (TillPdf.reconciliation session expected counted variance)
      [["Opening float", amountText session.openingFloatCents],
        ["+ Cash sales", amountText session.cashSalesCents],
        ["- Cash refunds", amountText (-session.cashRefundsCents)],
        ["Expected closing", amountText expected], ["Actual closing", amountText counted],
        ["VARIANCE", varianceText variance]] 91 () := by
  refine Draws.congr (d := 11 + (11 + (10 + (11 + (11 + (10 + (11 + 16))))))) ?_ rfl (by norm_num)
  apply (draws_amountRow _ _ _ h.float (by norm_num)).bind
  apply (draws_amountRow _ _ _ h.cashSales (by norm_num)).bind
  apply (draws_amountRow _ _ _ (printable_neg h.cashRefunds) (by norm_num)).bind
  apply draws_set rfl rfl
  apply draws_rule (by norm_num)
  apply draws_skip (by norm_num)
  apply (draws_amountRow _ _ _ h.expected (by norm_num)).bind
  apply (draws_amountRow _ _ _ h.counted (by norm_num)).bind
  apply draws_rule (by norm_num)
  apply draws_skip (by norm_num)
  apply draws_text
  apply draws_ofPy (varianceLabel_ok h.variance)
  apply draws_textRight
  exact draws_end (by norm_num) (by norm_num)

/-- The last row is for the date. -/
theorem finishes_signature :
    Finishes 7 [] TillPdf.signature [["Cashier signature:"], ["Date:"]] 29 () := by
  intro p
  let label (y : ℚ) (s : String) : List Mark :=
    [.setFont "Helvetica-Bold" 9, .drawString TillPdf.marginLeft y s,
      .line (TillPdf.marginLeft + 3 / 2 * TillPdf.inch) (y - 2) TillPdf.rightMargin (y - 2)]
  refine ⟨label p.y "Cashier signature:" ++ label (p.y - 22) "Date:",
    [(p.y, ["Cashier signature:"]), (p.y - 22, ["Date:"])], p.y - 22 - 6, ?_, ?_,
    ⟨by linarith, rfl, ?_, ?_, ?_⟩, rfl⟩
  · change Except.ok ((), (⟨p.marks ++ [_, _] ++ [_] ++ [_, _] ++ [_], _⟩ : Page)) = _
    simp only [List.append_assoc, List.cons_append, List.nil_append]
    rfl
  · linarith
  · refine .cons (fun r hr ↦ ?_) (List.pairwise_singleton _ _)
    rw [List.mem_singleton.mp hr]
    linarith
  · intro r hr
    simp only [List.mem_cons, List.not_mem_nil, or_false] at hr
    rcases hr with rfl | rfl <;> constructor <;> linarith
  · intro m hm y hy
    simp only [label, List.cons_append, List.nil_append, List.mem_cons, List.not_mem_nil,
      or_false] at hm
    rcases hm with rfl | rfl | rfl | rfl | rfl | rfl <;>
      simp only [Mark.heights, List.mem_cons, List.not_mem_nil, or_false, or_self] at hy <;>
      subst hy <;> constructor <;> linarith

/-- **The body of the report** and how far down it goes. -/
theorem draws_reportBody (uuid : Id → String) (stringWidth : String → ℚ)
    (settings : Receipt.StoreSettings) (user : POSUser) (closedAt : Time)
    (h : Written session expected counted variance closingCounts) :
    ∃ d, d ≤ 646 ∧ Finishes 7 [] (TillPdf.reportBody uuid stringWidth settings session user closedAt
      expected counted variance closingCounts)
      (headWords uuid settings session user closedAt ++
        sectionWords session expected counted variance closingCounts) d () := by
  obtain ⟨d, hd, hheader⟩ := draws_header settings
  refine ⟨d + (66 + (18 + (116 + (16 + (18 + (44 + (18 + (116 + (16 + (18 + (91 +
    (18 + 29)))))))))))), by linarith, ?_⟩
  apply Finishes.congr _ _ rfl
  rotate_left
  apply hheader.finish
  apply ((draws_metadataRows _).congr rfl (by norm_num)).finish
  apply (draws_hrLabel _ _).finish
  apply (draws_denominationBlock h.opening h.float).finish
  apply (draws_amountRow _ _ _ h.float (by norm_num)).finish
  apply (draws_hrLabel _ _).finish
  apply (draws_activity h).finish
  apply (draws_hrLabel _ _).finish
  apply (draws_denominationBlock h.closing h.counted).finish
  apply (draws_amountRow _ _ _ h.counted (by norm_num)).finish
  apply (draws_hrLabel _ _).finish
  apply (draws_reconciliation h).finish
  apply (draws_hrLabel _ _).finish finishes_signature
  simp [headWords, sectionWords]

end Sections

end Drawn

/-! ## What is recorded -/

/-- The float is what the opening denominations add up to.  A closed session has the sum of its
closing denominations, and the difference to what was expected. -/
structure OnFile (s : TillSession) : Prop where
  float : Till.denominationsToCents s.openingDenominations = .ok s.openingFloatCents
  closed : s.status = .closed → ∃ counts counted expected closedAt,
    s.closingDenominations = some counts ∧ Till.denominationsToCents counts = .ok counted ∧
      s.closingCountCents = some counted ∧ s.expectedClosingCents = some expected ∧
      s.varianceCents = some (counted - expected) ∧ s.closedAt = some closedAt

/-- Every session is. -/
def Kept (w : World) : Prop := ∀ x s, w.db.session x = some s → OnFile s

section Rows

variable {K : TillSession → Prop} {i : Request} {w w' : World} {s s' : TillSession}

theorem OnFile.move (h : OnFile s) (hm : RowMove K i s s') : OnFile s' := by
  cases hm with
  | same => exact h
  | tallied a =>
      have hset : a.tally.set s = { s with
          transactionCount := (a.tally.set s).transactionCount
          cashTransactionCount := (a.tally.set s).cashTransactionCount
          cashSalesCents := (a.tally.set s).cashSalesCents
          cashRefundsCents := (a.tally.set s).cashRefundsCents } := by
        simp only [Till.Attribution.tally]
        split
        · split <;> rfl
        · rfl
      rw [hset]
      exact ⟨h.float, h.closed⟩
  | @closed read counted counts now hi hid hread hcount =>
      refine ⟨h.float, ?_⟩
      intro _
      exact ⟨counts, counted, Till.expectedClosing read, now, rfl, hcount, rfl, rfl, rfl, rfl⟩
  | rendered path => exact ⟨h.float, h.closed⟩

/-- A new row is OPEN. -/
theorem SessionMove.new_open {x : Id} (h : SessionMove K i w w') (hnone : w.db.session x = none)
    (hs : w'.db.session x = some s) : s.status ≠ .closed := by
  cases h with
  | same htable =>
      have hold := (congrArg (Table.get? · x) htable).symm.trans hs
      exact absurd (hnone.symm.trans hold) (by simp)
  | opened _ _ htable =>
      unfold Db.session at hnone hs
      rw [htable] at hs
      rcases Table.of_get?_add hs with ⟨rfl, rfl⟩ | ⟨-, hs₀⟩
      · intro hclosed
        cases hclosed
      · exact absurd (hnone.symm.trans hs₀) (by simp)
  | tallied htable | closed _ _ _ htable | rendered htable =>
      unfold Db.session at hnone hs
      rw [htable] at hs
      rcases Table.of_get?_modify hs with ⟨rfl, s₀, hs₀, -⟩ | ⟨-, hs₀⟩ <;>
        exact absurd (hnone.symm.trans hs₀) (by simp)

/-- An access of a handler keeps the sessions on file. -/
theorem Kept.move (h : Kept w) (hm : SessionMove K i w w') : Kept w' := by
  intro x s' hs'
  cases hold : w.db.session x with
  | some s =>
      obtain ⟨s₁, hs₁, hrow⟩ := hm.row hold
      obtain rfl := Option.some.inj (hs₁.symm.trans hs')
      exact (h x s hold).move hrow
  | none =>
      refine ⟨hm.new hold hs', ?_⟩
      intro hclosed
      exact absurd hclosed (hm.new_open hold hs')

theorem Kept.drift (h : Kept w) (hd : World.Drift w w') : Kept w' := by
  intro x s hs
  rw [World.Drift.db hd] at hs
  exact h x s hs

end Rows

/-! ## The report of a session -/

/-- The marks are on one page, and show these rows below each other, seven points apart at least. -/
def OnePage (ms : List Mark) (words : List (List String)) : Prop :=
  ∃ rows, Lays 7 TillPdf.startY [] ms rows TillPdf.minY ∧ rows.map (·.2) = words

/-- The numbers of a row are such that Python writes them. -/
structure Writable (s : TillSession) : Prop where
  float : Printable s.openingFloatCents
  transactions : Printable s.transactionCount
  cashTransactions : Printable s.cashTransactionCount
  cashSales : Printable s.cashSalesCents
  cashRefunds : Printable s.cashRefundsCents
  expected : ∀ n ∈ s.expectedClosingCents, Printable n
  counted : ∀ n ∈ s.closingCountCents, Printable n
  variance : ∀ n ∈ s.varianceCents, Printable n

/-- The amounts of the denominations add up to the total. -/
def AddsUp (counts : Denominations) (total : Cents) : Prop :=
  (Till.denominations.map fun denomination ↦
    quantity counts denomination.1 * denomination.2).sum = total

section Reports

variable {s : TillSession} {expected counted variance : Cents} {closingCounts : Denominations}
  {closedAt : Time}

theorem closeReport_ok (hclosed : s.status = .closed) (hat : s.closedAt = some closedAt)
    (hexpected : s.expectedClosingCents = some expected)
    (hcounted : s.closingCountCents = some counted)
    (hvariance : s.varianceCents = some variance)
    (hcounts : s.closingDenominations = some closingCounts)
    (h : Written s expected counted variance closingCounts) (uuid : Id → String)
    (stringWidth : String → ℚ) (settings : Receipt.StoreSettings) (user : POSUser) :
    ∃ ms, TillPdf.closeReport uuid stringWidth settings s user = .ok ms ∧
      OnePage ms (headWords uuid settings s user closedAt ++
        sectionWords s expected counted variance closingCounts) := by
  obtain ⟨d, hd, hdraws⟩ := draws_reportBody uuid stringWidth settings user closedAt h
  obtain ⟨ms, rows, y, hrun, hy, hlays, hwords⟩ := hdraws { y := TillPdf.startY }
  have hroom : TillPdf.minY ≤ TillPdf.startY - d := by
    norm_num [TillPdf.minY, TillPdf.startY, TillPdf.pageHeight, TillPdf.inch]
    linarith
  refine ⟨ms, ?_, rows, hlays.lower hroom, hwords⟩
  unfold TillPdf.closeReport TillPdf.renderCloseReport
  rw [if_neg (not_not.mpr hclosed), hat, hexpected, hcounted, hvariance, hcounts]
  change (TillPdf.reportBody uuid stringWidth settings s user closedAt expected counted variance
    closingCounts { y := TillPdf.startY } >>= _).map _ = _
  rw [hrun]
  change ((if y < TillPdf.minY then _ else _ : TillPdf.Report Unit) _).map _ = _
  rw [if_neg (not_lt.mpr (hroom.trans hy))]
  rfl

/-- The report of a session that is on file. -/
theorem OnFile.report (h : OnFile s) (hclosed : s.status = .closed) (hw : Writable s)
    (uuid : Id → String) (stringWidth : String → ℚ) (settings : Receipt.StoreSettings)
    (user : POSUser) :
    ∃ ms closedAt expected counted closingCounts,
      TillPdf.closeReport uuid stringWidth settings s user = .ok ms ∧
      OnePage ms (headWords uuid settings s user closedAt ++
        sectionWords s expected counted (counted - expected) closingCounts) ∧
      AddsUp s.openingDenominations s.openingFloatCents ∧ AddsUp closingCounts counted ∧
      s.expectedClosingCents = some expected := by
  obtain ⟨counts, counted, expected, closedAt, hcounts, hadds, hcounted, hexpected, hvariance,
    hat⟩ := h.closed hclosed
  obtain ⟨ms, hms, hpage⟩ := closeReport_ok hclosed hat hexpected hcounted hvariance hcounts
    ⟨h.float, hadds, hw.float, hw.transactions, hw.cashTransactions, hw.cashSales, hw.cashRefunds,
      hw.expected _ hexpected, hw.counted _ hcounted, hw.variance _ hvariance⟩
    uuid stringWidth settings user
  exact ⟨ms, closedAt, expected, counted, counts, hms, hpage,
    (Till.denominationsToCents_eq h.float).2, (Till.denominationsToCents_eq hadds).2, hexpected⟩

end Reports

section Runs

variable {D : Deployment} {w : World} {x : Id} {s : TillSession}

theorem kept_empty (hempty : w.db.tillSessions = .empty) : Kept w := by
  intro x s hs
  unfold Db.session at hs
  rw [hempty] at hs
  cases hs

/-- However the requests interleave, sessions are on file. -/
theorem kept_run {c : Crew World Call Answer PyExc Request} (hempty : w.db.tillSessions = .empty)
    (hrun : Crew.Run (D.system .any) .free ⟨w, []⟩ c) : Kept c.state := by
  have hstart (i : Request) : Sits (fun _ ↦ True) (fun _ ↦ True) i (D.handle i) :=
    sits_handle D (fun _ _ _ _ _ ↦ trivial) i
  refine (Crew.Abides.moves (K := fun w w' ↦ Kept w → Kept w') ?_ ?_ ?_ ?_ hstart (fun _ ↦ trivial)
    (.nil w) hrun).2 (kept_empty hempty)
  · intro w hw
    exact hw
  · intro w w' w'' h h' hw
    exact h' (h hw)
  · intro i w w' hm hw
    exact hw.move hm
  · intro w w' hd hw
    exact hw.drift hd

/-- In a serial run they are as well. -/
theorem kept_serial {c : Config World Call Answer PyExc} (hempty : w.db.tillSessions = .empty)
    (hrun : D.SerialRun (.idle w) c) : Kept c.state := by
  have hstart (i : Request) : (D.handle i).Guarantees World.send (fun _ ↦ True)
      (fun w w' ↦ ∃ i, SessionMove (fun _ ↦ True) i w w') fun _ ↦ True :=
    (sits_handle D (fun _ _ _ _ _ ↦ trivial) i).weaken (fun _ h ↦ h) fun _ _ h ↦ ⟨i, h⟩
  have hresend (w : World) (q : Call) (_ : q.Posts) :
      ∃ i, SessionMove (fun _ ↦ True) i w (w.send q) :=
    ⟨.retryFailedSales, .same (congrArg Db.tillSessions (World.send_db q w))⟩
  obtain ⟨-, hmoves⟩ :=
    Config.Abides.run hstart hresend (fun p hp ↦ absurd hp List.not_mem_nil) hrun
  have hkept {w w' : World} (hw : Kept w) (h : ReflTransGen (fun w w' ↦
      (∃ i, SessionMove (fun _ ↦ True) i w w') ∨ (D.system .any).drift w w') w w') : Kept w' := by
    induction h with
    | refl => exact hw
    | tail _ hs ih =>
        rcases hs with ⟨i, hm⟩ | hd
        · exact ih.move hm
        · exact ih.drift hd
  exact hkept (kept_empty hempty) hmoves

/-- **The report of a closed session.**  However the requests interleave, it is rendered for every
session that is closed, on one page with its rows below each other.  On it the denominations add up
to the opening float and to the count, and the variance is the count without the expected
closing. -/
theorem close_report (D : Deployment) {c : Crew World Call Answer PyExc Request}
    (hempty : w.db.tillSessions = .empty) (hrun : Crew.Run (D.system .any) .free ⟨w, []⟩ c)
    (hs : c.state.db.session x = some s) (hclosed : s.status = .closed) (hw : Writable s)
    (uuid : Id → String) (stringWidth : String → ℚ) (settings : Receipt.StoreSettings)
    (user : POSUser) :
    ∃ ms closedAt expected counted closingCounts,
      TillPdf.closeReport uuid stringWidth settings s user = .ok ms ∧
      OnePage ms (headWords uuid settings s user closedAt ++
        sectionWords s expected counted (counted - expected) closingCounts) ∧
      AddsUp s.openingDenominations s.openingFloatCents ∧ AddsUp closingCounts counted := by
  obtain ⟨ms, closedAt, expected, counted, counts, hms, hpage, hfloat, hcount, -⟩ :=
    (kept_run hempty hrun x s hs).report hclosed hw uuid stringWidth settings user
  exact ⟨ms, closedAt, expected, counted, counts, hms, hpage, hfloat, hcount⟩

/-- What was handed back for the refunds that are stored with a minus, as those of sales of a
positive total are. -/
def handedBack (db : Db) (x : Id) : Cents :=
  (((cashRefundsOf db x).filter (·.totalCents < 0)).map fun t ↦ (t.totalCents.natAbs : Int)).sum

/-- What is negative is counted with the wrong sign. -/
theorem sum_sub_natAbs {α : Type} (g : α → Int) (l : List α) :
    (l.map fun x ↦ ((g x).natAbs : Int)).sum - (l.map g).sum =
      2 * ((l.filter fun x ↦ g x < 0).map fun x ↦ ((g x).natAbs : Int)).sum := by
  induction l with
  | nil => rfl
  | cons x l ih =>
      rw [List.map_cons, List.map_cons, List.sum_cons, List.sum_cons, add_sub_add_comm, ih]
      by_cases hx : g x < 0
      · rw [List.filter_cons_of_pos (p := fun x ↦ decide (g x < 0)) (decide_eq_true hx),
          List.map_cons, List.sum_cons, mul_add]
        omega
      · rw [List.filter_cons_of_neg (p := fun x ↦ decide (g x < 0)) (by rwa [decide_eq_true_eq])]
        omega

/-- The expected closing of right books, against what is in the drawer. -/
theorem Books.expectedClosing {db : Db} (h : Books db) (hs : db.session s.id = some s) :
    Till.expectedClosing s = drawerCents db s + 2 * handedBack db s.id := by
  have hsales : s.cashSalesCents = ((cashSalesOf db s.id).map (·.totalCents)).sum :=
    (h.counted .cashSales hs).trans (Table.tally_filter ..)
  have hrefunds : s.cashRefundsCents = ((cashRefundsOf db s.id).map (·.totalCents)).sum :=
    (h.counted .cashRefunds hs).trans (Table.tally_filter ..)
  have hsum := sum_sub_natAbs POSTransaction.totalCents (cashRefundsOf db s.id)
  rw [Till.expectedClosing, drawerCents, handedBack, ← hsum, hsales, hrefunds]
  ring

/-- **The report against the ledger.**  In every state of a serial run the report of a closed
session counts the transactions that are stamped with it, which are all completed, and its
reconciliation adds up.  The variance on it is that of the drawer, less twice what was handed back
for refunds that are stored with a minus. -/
theorem report_reconciles (D : Deployment) (ht : w.db.posTransactions = .empty)
    (hempty : w.db.tillSessions = .empty) {c : Config World Call Answer PyExc}
    (hrun : D.SerialRun (.idle w) c) (hs : c.state.db.session x = some s)
    (hclosed : s.status = .closed) (hw : Writable s) (uuid : Id → String)
    (stringWidth : String → ℚ) (settings : Receipt.StoreSettings) (user : POSUser) :
    ∃ ms closedAt expected counted closingCounts,
      TillPdf.closeReport uuid stringWidth settings s user = .ok ms ∧
      OnePage ms (headWords uuid settings s user closedAt ++
        sectionWords s expected counted (counted - expected) closingCounts) ∧
      AddsUp s.openingDenominations s.openingFloatCents ∧ AddsUp closingCounts counted ∧
      (∀ t ∈ c.state.db.posTransactions.select fun t ↦ t.tillSessionId = some s.id,
        t.status = .complete) ∧
      s.transactionCount =
        (c.state.db.posTransactions.select fun t ↦ t.tillSessionId = some s.id).length ∧
      s.cashSalesCents = ((cashSalesOf c.state.db s.id).map (·.totalCents)).sum ∧
      s.cashRefundsCents = ((cashRefundsOf c.state.db s.id).map (·.totalCents)).sum ∧
      expected = s.openingFloatCents + s.cashSalesCents + -s.cashRefundsCents ∧
      counted - expected =
        counted - drawerCents c.state.db s - 2 * handedBack c.state.db s.id := by
  have hbooks : Books c.state.db := by
    have hnew : Books w.db := .empty ht hempty
    exact (postings_keep (postings_of_moves (D.moves_of_run hrun .refl).1 hnew) hnew).1
  obtain rfl : s.id = x := Table.key_of_get? hs
  obtain ⟨ms, closedAt, expected, counted, counts, hms, hpage, hfloat, hcount, hexpected⟩ :=
    (kept_serial hempty hrun s.id s hs).report hclosed hw uuid stringWidth settings user
  have hclosing : expected = Till.expectedClosing s :=
    Option.some.inj (hexpected.symm.trans (hbooks.closed hs hclosed))
  refine ⟨ms, closedAt, expected, counted, counts, hms, hpage, hfloat, hcount, ?_,
    hbooks.ledger.transactionCount s (Table.mem_of_get? hs), ?_, ?_, ?_, ?_⟩
  · intro t ht
    obtain ⟨hmem, hstamp⟩ := List.mem_filter.mp ht
    exact (hbooks.stamped (Table.get?_of_mem hmem) (of_decide_eq_true hstamp)).1
  · exact (hbooks.counted .cashSales hs).trans (Table.tally_filter ..)
  · exact (hbooks.counted .cashRefunds hs).trans (Table.tally_filter ..)
  · rw [hclosing, Till.expectedClosing]
    ring
  · rw [hclosing, hbooks.expectedClosing hs]
    ring

end Runs

/-! ## Two evenings -/

/-- A till that is opened with a hundred, and closed with a fifty. -/
def fiftyShort : TillSession :=
  let opened := (Till.newSession "alice" Deployment.sample.settings.windcaveStation 10000
    [("hundred", 1)] 0).build 0
  (Till.closing opened 5000 [("fifty", 1)] 0).set opened

theorem close_report_short :
    ∃ ms closedAt expected counted closingCounts,
      TillPdf.closeReport (fun _ ↦ "0") (fun _ ↦ 60) {} fiftyShort { username := "alice" } =
        .ok ms ∧
      OnePage ms (headWords (fun _ ↦ "0") {} fiftyShort { username := "alice" } closedAt ++
        sectionWords fiftyShort expected counted (counted - expected) closingCounts) ∧
      AddsUp [("hundred", 1)] 10000 ∧ AddsUp closingCounts counted := by
  let l : List (Thread World Call Answer PyExc Request) :=
    [(.openTill "alice" [("hundred", 1)], .pure ())]
  have hrun : Crew.Run (Deployment.sample.system .any) .free ⟨newRegister, []⟩ _ :=
    .tail (.tail (.tail (.tail (.tail (.tail .refl (.start (.openTill "alice" [("hundred", 1)])))
      (.access (l := []) (r := []) rfl)) (.access (l := []) (r := []) rfl))
      (.start (.closeTill "alice" [("fifty", 1)]))) (.access (l := l) (r := []) rfl))
      (.access (l := l) (r := []) rfl)
  refine close_report .sample (x := 0) (s := fiftyShort) rfl hrun rfl rfl ?_ (fun _ ↦ "0")
    (fun _ ↦ 60) {} { username := "alice" }
  constructor <;> first
    | exact printable_of_lt (by decide)
    | exact fun n hn ↦ printable_of_lt (Option.some.inj hn ▸ by decide)

/-- Alice opens her till, sells a mug for cash, takes it back, and closes. -/
def returnDay : List (Move World Call Answer Request) :=
  [.start (.openTill "alice" [("hundred", 1)]),
    .start (.startCheckout [mug] "alice" none), .resume 0 obliging,
    .start (.chargeCash 0 2000), .resume 0 obliging,
    .start (.startRefund 0 "alice"), .start (.chargeCashRefund 1), .resume 0 obliging,
    .start (.closeTill "alice" [("hundred", 1)])]

/-- The hundred is all that is in the drawer, and the report says that 21.62 are missing. -/
theorem report_reconciles_day :
    let db := ((Config.idle newRegister).playAll (Deployment.sample.system .any) returnDay).state.db
    ∃ s ms expected counted, db.session 0 = some s ∧
      TillPdf.closeReport (fun _ ↦ "0") (fun _ ↦ 60) {} s { username := "alice" } = .ok ms ∧
      (∃ words, OnePage ms words ∧ ["VARIANCE", varianceText (counted - expected)] ∈ words) ∧
      (∀ t ∈ db.posTransactions.select fun t ↦ t.tillSessionId = some s.id,
        t.status = .complete) ∧
      s.transactionCount = 2 ∧ s.cashSalesCents = 1081 ∧ s.cashRefundsCents = -1081 ∧
      expected = 10000 + 1081 + 1081 ∧ counted - expected = counted - 10000 - 2 * 1081 := by
  intro db
  have hday : ∀ s ∈ db.session 0, s.status = .closed ∧ s.openingFloatCents = 10000 ∧
        (db.posTransactions.select fun t ↦ t.tillSessionId = some s.id).length = 2 ∧
        ((cashSalesOf db s.id).map (·.totalCents)).sum = 1081 ∧
        ((cashRefundsOf db s.id).map (·.totalCents)).sum = -1081 ∧
        drawerCents db s = 10000 ∧ handedBack db s.id = 1081 ∧
        s.transactionCount.natAbs < 2 ^ 63 ∧ s.cashTransactionCount.natAbs < 2 ^ 63 ∧
        s.cashSalesCents.natAbs < 2 ^ 63 ∧ s.cashRefundsCents.natAbs < 2 ^ 63 ∧
        (∀ n ∈ s.expectedClosingCents, n.natAbs < 2 ^ 63) ∧
        (∀ n ∈ s.closingCountCents, n.natAbs < 2 ^ 63) ∧
        ∀ n ∈ s.varianceCents, n.natAbs < 2 ^ 63 := by decide +kernel
  have hsession : (db.session 0).isSome = true := by decide +kernel
  obtain ⟨s, hs⟩ := Option.isSome_iff_exists.mp hsession
  obtain ⟨hclosed, hfloat, hlength, hsold, hback, hdrawer, hhanded, htransactions, hcash, hsales,
    hrefunds, hexpected, hcounted, hvariance⟩ := hday s hs
  obtain ⟨ms, closedAt, expected, counted, counts, hms, hpage, -, -, hcomplete, hcount, hsales',
      hrefunds', hsum, hshort⟩ :=
    report_reconciles .sample (w := newRegister) rfl rfl
      (Deployment.sample.run_of_playsAll (by decide +kernel)) hs hclosed
      ⟨printable_of_lt (by rw [hfloat]; decide), printable_of_lt htransactions,
        printable_of_lt hcash, printable_of_lt hsales, printable_of_lt hrefunds,
        fun n hn ↦ printable_of_lt (hexpected n hn), fun n hn ↦ printable_of_lt (hcounted n hn),
        fun n hn ↦ printable_of_lt (hvariance n hn)⟩
      (fun _ ↦ "0") (fun _ ↦ 60) {} { username := "alice" }
  refine ⟨s, ms, expected, counted, hs, hms, ⟨_, hpage, ?_⟩, hcomplete, ?_, ?_, ?_, ?_, ?_⟩
  · simp [sectionWords]
  · rw [hcount]
    exact congrArg Nat.cast hlength
  · exact hsales'.trans hsold
  · exact hrefunds'.trans hback
  · rw [hsum, hfloat, hsales'.trans hsold, hrefunds'.trans hback]
    rfl
  · rw [hshort]
    exact congrArg₂ (fun a b ↦ counted - a - 2 * b) hdrawer hhanded

end HightowerPos.Drawer
