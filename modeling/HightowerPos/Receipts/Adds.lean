import HightowerPos.Prices.Dollars
import HightowerPos.Receipts.Width
import HightowerPos.Sale.Arithmetic

/-!
# Receipts that add up

An amount of a receipt goes through a float, and is printed exactly all the same (`money_ok`).  So
what stands on the paper of any transaction adds up: subtotal and tax to the total, and the lines to
it as well, unless a line of a refund is printed with the wrong sign (`receipt_adds_up`).
-/

namespace HightowerPos.Receipt

open Async Columns Numeral

/-! ## Amounts -/

/-- The amount that a text shows. -/
def shown (text : String) : Option ℤ := readSigned ['$', '.'] text.toList

/-- Below that many cents every float is exact to the cent. -/
def Exact (cents : ℤ) : Prop := cents.natAbs < 2 ^ 52

instance (cents : ℤ) : Decidable (Exact cents) := inferInstanceAs (Decidable (_ < _))

/-- A text that shows an amount, and leaves room for a blank on the paper. -/
structure Shows (text : String) (cents : ℤ) : Prop where
  reads : shown text = some cents
  short : text.length < receiptWidth

section Amounts

variable {n : ℕ} {cents : ℤ}

theorem length_dollars (h : n < 2 ^ 52) : (dollars n).length ≤ 17 := by
  have hwhole : (Nat.toDigits 10 (n / 100)).length ≤ 14 :=
    (Nat.length_toDigits_le_iff (by decide) (by decide)).mpr (by omega)
  have hpart : (padded 2 (n % 100)).length = 2 := length_padded (by omega) (by decide)
  rw [← String.length_toList, toList_dollars, List.length_append, List.length_cons]
  omega

/-- An amount behind marks and a sign. -/
theorem shows_dollars {text : String} {l : List Char} (hcents : Exact cents)
    (htext : text.toList = l ++ (dollars cents.natAbs).toList) (hlength : l.length ≤ 3)
    (hmarks : l.filter (· ∉ ['$', '.']) = ['-'] ∧ cents ≤ 0 ∨
      l.filter (· ∉ ['$', '.']) = [] ∧ 0 ≤ cents) : Shows text cents := by
  have hplain (l : List Char) (hl : ∀ c ∈ l, c.isDigit = true) :
      l.filter (· ∉ ['$', '.']) = l := by
    refine List.filter_eq_self.mpr fun c hc ↦ decide_eq_true fun hmark ↦ ?_
    have hdigit := hl c hc
    rcases List.mem_cons.mp hmark with rfl | hmark
    · cases hdigit
    · rw [List.mem_singleton.mp hmark] at hdigit
      cases hdigit
  have hdigits : ∀ c ∈ Nat.toDigits 10 (cents.natAbs / 100) ++ padded 2 (cents.natAbs % 100),
      c.isDigit = true :=
    List.forall_mem_append.mpr ⟨fun _ ↦ isDigit_toDigits, fun _ ↦ isDigit_padded⟩
  have hne : Nat.toDigits 10 (cents.natAbs / 100) ++ padded 2 (cents.natAbs % 100) ≠ [] :=
    List.append_ne_nil_of_left_ne_nil Nat.toDigits_ne_nil _
  have hfilter : text.toList.filter (· ∉ ['$', '.']) = l.filter (· ∉ ['$', '.']) ++
      (Nat.toDigits 10 (cents.natAbs / 100) ++ padded 2 (cents.natAbs % 100)) := by
    have hdollars : (dollars cents.natAbs).toList.filter (· ∉ ['$', '.']) =
        Nat.toDigits 10 (cents.natAbs / 100) ++ padded 2 (cents.natAbs % 100) := by
      rw [toList_dollars, List.filter_append, List.filter_cons_of_neg (by decide),
        hplain _ fun _ ↦ isDigit_toDigits, hplain _ fun _ ↦ isDigit_padded]
    rw [htext, List.filter_append, hdollars]
  constructor
  · unfold shown
    rcases hmarks with ⟨hmarks, hle⟩ | ⟨hmarks, hle⟩
    · rw [hmarks, List.singleton_append] at hfilter
      rw [readSigned_neg hfilter hne hdigits, value_dollars, Int.ofNat_natAbs_of_nonpos hle,
        neg_neg]
    · rw [hmarks, List.nil_append] at hfilter
      rw [readSigned_pos hfilter hne hdigits, value_dollars, Int.natAbs_of_nonneg hle]
  · have hdollars := length_dollars hcents
    rw [← String.length_toList, htext, List.length_append, String.length_toList]
    change _ < 30
    omega

/-- The digits behind the marks. -/
theorem exists_fixed2 (h : Exact cents) :
    ∃ x, PyFloat.hundredth cents = .ok x ∧
      x.fixed2 = (if cents < 0 then "-" else "") ++ dollars cents.natAbs :=
  exists_of_map_ok (fixed2_hundredth h)

theorem exact_natAbs (h : Exact cents) : Exact (cents.natAbs : ℤ) := by
  rwa [Exact, Int.natAbs_natCast]

/-- The text of an amount that is not negative. -/
theorem money_natAbs (signed : Bool) (h : Exact cents) :
    money cents.natAbs signed = .ok ("$" ++ dollars cents.natAbs) := by
  have hneg : ¬ (cents.natAbs : ℤ) < 0 := not_lt.mpr (Int.natCast_nonneg _)
  obtain ⟨x, hx, hprinted⟩ := exists_fixed2 (exact_natAbs h)
  rw [if_neg hneg, Int.natAbs_natCast, String.empty_append] at hprinted
  rw [money, if_neg fun h ↦ hneg h.2, hx, ← hprinted]
  rfl

/-- **An amount is printed exactly.** -/
theorem money_ok (signed : Bool) (h : Exact cents) :
    ∃ text, money cents signed = .ok text ∧ Shows text cents := by
  by_cases hneg : cents < 0
  · unfold money
    by_cases hsigned : signed = true
    · obtain ⟨x, hx, hprinted⟩ := exists_fixed2 (exact_natAbs h)
      rw [if_neg (not_lt.mpr (Int.natCast_nonneg _)), Int.natAbs_natCast, String.empty_append]
        at hprinted
      rw [if_pos ⟨hsigned, hneg⟩, hx]
      refine ⟨_, rfl, shows_dollars (l := ['-', '$']) h ?_ (by decide) (.inl ⟨by decide, hneg.le⟩)⟩
      rw [hprinted, String.toList_append]
      rfl
    · obtain ⟨x, hx, hprinted⟩ := exists_fixed2 h
      rw [if_neg fun h ↦ hsigned h.1, hx]
      refine ⟨_, rfl, shows_dollars (l := ['$', '-']) h ?_ (by decide) (.inl ⟨by decide, hneg.le⟩)⟩
      rw [hprinted, if_pos hneg, String.toList_append, String.toList_append]
      rfl
  · have hmoney := money_natAbs signed h
    rw [Int.natAbs_of_nonneg (not_lt.mp hneg)] at hmoney
    refine ⟨_, hmoney, shows_dollars (l := ['$']) h ?_ (by decide)
      (.inr ⟨by decide, not_lt.mp hneg⟩)⟩
    rw [String.toList_append]
    rfl

/-- What is printed of the total of a line: that of a refund with a minus, whatever its sign. -/
def printedTotal (isRefund : Bool) (line : RichLine) : ℤ :=
  if isRefund then -line.lineTotalCents.natAbs else line.lineTotalCents

theorem lineAmount_ok (isRefund : Bool) {line : RichLine} (h : Exact line.lineTotalCents) :
    ∃ text, lineAmount isRefund line = .ok text ∧ Shows text (printedTotal isRefund line) := by
  unfold lineAmount printedTotal
  cases isRefund with
  | false => exact money_ok false h
  | true =>
      have hexact : Exact (-(line.lineTotalCents.natAbs : ℤ)) := by
        rwa [Exact, Int.natAbs_neg, Int.natAbs_natCast]
      rw [if_pos rfl, if_pos rfl, money_natAbs false h]
      refine ⟨_, rfl, shows_dollars (l := ['-', '$']) hexact ?_ (by decide)
        (.inl ⟨by decide, Int.neg_nonpos_of_nonneg (Int.natCast_nonneg _)⟩)⟩
      rw [Int.natAbs_neg, Int.natAbs_natCast, String.toList_append, String.toList_append]
      rfl

end Amounts

/-! ## Transactions -/

/-- The amounts of a transaction that are printed. -/
structure Small (t : POSTransaction) : Prop where
  subtotal : Exact t.subtotalCents
  tax : Exact t.taxCents
  total : Exact t.totalCents
  lines : ∀ l ∈ t.cart, Exact l.unitPriceCents ∧ Exact l.quantity ∧ Exact l.lineTotalCents
  tenders : ∀ tender ∈ t.tenders.getD [], Exact tender.amountCents ∧
    (∀ cents ∈ tender.amountTenderedCents, Exact cents) ∧ ∀ cents ∈ tender.changeCents, Exact cents

section Transactions

variable {t : POSTransaction} {ps : Amounts} {isRefund : Bool}
  {lxml : String → Option Windcave.Element}

/-- The texts show these amounts. -/
def ShowAll (ps : Amounts) (ns : List ℤ) : Prop := List.Forall₂ (fun p n ↦ Shows p.2 n) ps ns

theorem ShowAll.short {ns : List ℤ} (h : ShowAll ps ns) : Short ps := by
  induction h with
  | nil => exact fun p hp ↦ absurd hp List.not_mem_nil
  | cons hp _ ih => exact List.forall_mem_cons.mpr ⟨hp.short, ih⟩

/-- What is printed for each element of a list. -/
theorem showAll_mapM {α : Type} {f : α → Except PyExc Amounts} {g : α → List ℤ} {l : List α}
    (h : ∀ a ∈ l, ∃ ps, f a = .ok ps ∧ ShowAll ps (g a)) :
    ∃ ps, (do return (← l.mapM f).flatten : Except PyExc Amounts) = .ok ps ∧
      ShowAll ps (l.flatMap g) := by
  induction l with
  | nil => exact ⟨[], rfl, .nil⟩
  | cons a l ih =>
      obtain ⟨⟨ps, hps, hshow⟩, hrest⟩ := List.forall_mem_cons.mp h
      obtain ⟨qs, hqs, hshows⟩ := ih hrest
      rw [mapM_cons_flatten, hps, hqs]
      exact ⟨ps ++ qs, rfl, List.rel_append hshow hshows⟩

theorem ofNat_ok {n : ℕ} (h : n < 2 ^ 52) : ∃ text, PyStr.ofNat n = .ok text := by
  have hlength : (Nat.toDigits 10 n).length ≤ 16 :=
    (Nat.length_toDigits_le_iff (by decide) (by decide)).mpr (by omega)
  have hmax : PyStr.intMaxStrDigits = 4300 := rfl
  rw [PyStr.ofNat, if_neg (by omega)]
  exact ⟨_, rfl⟩

/-- The amount of a line. -/
theorem cartAmounts_ok (isRefund : Bool) {line : RichLine} (hprice : Exact line.unitPriceCents)
    (hquantity : Exact line.quantity) (htotal : Exact line.lineTotalCents) :
    ∃ ps, cartAmounts isRefund line = .ok ps ∧ ShowAll ps [printedTotal isRefund line] := by
  obtain ⟨price, hprice, -⟩ := exists_of_map_ok (fixed2_hundredth hprice)
  obtain ⟨right, hright, hshows⟩ := lineAmount_ok isRefund htotal
  obtain ⟨quantity, hquantity⟩ := ofNat_ok hquantity
  rw [cartAmounts, hprice, hright, hquantity]
  exact ⟨_, rfl, .cons hshows .nil⟩

/-- What is printed of the lines of the cart, unless a text of Windcave replaces them. -/
def bodyCents (lxml : String → Option Windcave.Element) (t : POSTransaction) : List ℤ :=
  match windcaveReceipt lxml t with
  | some _ => []
  | none => t.cart.map (printedTotal (t.txnType = .refund))

/-- The amounts of the body. -/
theorem bodyAmounts_ok (lxml : String → Option Windcave.Element) (h : Small t) :
    ∃ ps, bodyAmounts lxml t = .ok ps ∧ ShowAll ps (bodyCents lxml t) := by
  unfold bodyAmounts bodyCents
  cases windcaveReceipt lxml t with
  | some rcpt => exact ⟨[], rfl, .nil⟩
  | none =>
      dsimp only
      rw [List.map_eq_flatMap]
      exact showAll_mapM fun line hline ↦ cartAmounts_ok (t.txnType = .refund)
        (h.lines line hline).1 (h.lines line hline).2.1 (h.lines line hline).2.2

/-- The totals. -/
theorem totalAmounts_ok (settings : StoreSettings) (h : Small t) :
    ∃ ps, totalAmounts settings t = .ok ps ∧
      ShowAll ps [t.subtotalCents, t.taxCents, t.totalCents] := by
  obtain ⟨subtotal, hsubtotal, hs⟩ := money_ok (t.txnType = .refund) h.subtotal
  obtain ⟨tax, htax, hv⟩ := money_ok (t.txnType = .refund) h.tax
  obtain ⟨total, htotal, ht⟩ := money_ok (t.txnType = .refund) h.total
  rw [totalAmounts, hsubtotal, htax, htotal]
  refine ⟨_, rfl, ?_⟩
  split
  · exact .cons hs (.cons hv (.cons ht .nil))
  · exact .cons hs (.cons hv (.cons ht .nil))

/-- What is printed of a tender: what was handed back, or what was given and the change. -/
def tenderCents (isRefund : Bool) (tender : Tender) : List ℤ :=
  match tender.type with
  | .card => []
  | .cash =>
      if isRefund then [tender.amountCents.natAbs]
      else [(tender.amountTenderedCents.filter (· ≠ 0)).getD tender.amountCents,
        tender.changeCents.getD 0]

/-- The amounts of a tender. -/
theorem tenderAmounts_ok (isRefund : Bool) {tender : Tender} (hamount : Exact tender.amountCents)
    (htendered : ∀ cents ∈ tender.amountTenderedCents, Exact cents)
    (hchange : ∀ cents ∈ tender.changeCents, Exact cents) :
    ∃ ps, tenderAmounts isRefund tender = .ok ps ∧ ShowAll ps (tenderCents isRefund tender) := by
  unfold tenderAmounts tenderCents
  cases tender.type with
  | card => exact ⟨[], rfl, .nil⟩
  | cash =>
      cases isRefund with
      | true =>
          obtain ⟨text, htext, hshows⟩ := money_ok false (exact_natAbs hamount)
          rw [htext]
          exact ⟨_, rfl, .cons hshows .nil⟩
      | false =>
          have hgiven : Exact ((tender.amountTenderedCents.filter (· ≠ 0)).getD
              tender.amountCents) := by
            cases h : tender.amountTenderedCents.filter (· ≠ 0) with
            | none => exact hamount
            | some cents => exact htendered cents (Option.mem_filter_iff.mp h).1
          have hback : Exact (tender.changeCents.getD 0) := by
            cases h : tender.changeCents with
            | none => exact Nat.two_pow_pos 52
            | some cents => exact hchange cents h
          obtain ⟨given, hgiven, hshows⟩ := money_ok false hgiven
          obtain ⟨back, hback, hshows'⟩ := money_ok false hback
          rw [hgiven, hback]
          exact ⟨_, rfl, .cons hshows (.cons hshows' .nil)⟩

/-- Every amount that a receipt prints to the right of a line, in their order. -/
def printedCents (lxml : String → Option Windcave.Element) (t : POSTransaction) : List ℤ :=
  bodyCents lxml t ++ [t.subtotalCents, t.taxCents, t.totalCents] ++
    (t.tenders.getD []).flatMap (tenderCents (t.txnType = .refund))

/-- **The amounts of a receipt** are those of the transaction. -/
theorem amounts_ok (lxml : String → Option Windcave.Element) (settings : StoreSettings)
    (h : Small t) :
    ∃ ps, amounts lxml settings t = .ok ps ∧ ShowAll ps (printedCents lxml t) := by
  obtain ⟨body, hbody, hlines⟩ := bodyAmounts_ok lxml h
  obtain ⟨totals, htotals, hshow⟩ := totalAmounts_ok settings h
  obtain ⟨tenders, htenders, hgiven⟩ := showAll_mapM (l := t.tenders.getD [])
    (f := tenderAmounts (t.txnType = .refund)) fun tender htender ↦
      tenderAmounts_ok (t.txnType = .refund) (h.tenders tender htender).1
        (h.tenders tender htender).2.1 (h.tenders tender htender).2.2
  refine ⟨body ++ totals ++ tenders, ?_, ?_⟩
  · rw [amounts, hbody, htotals]
    cases hpss : (t.tenders.getD []).mapM (tenderAmounts (t.txnType = .refund)) with
    | error e =>
        rw [hpss] at htenders
        cases htenders
    | ok pss =>
        rw [hpss] at htenders
        obtain rfl := Except.ok.inj htenders
        rfl
  · exact List.rel_append (List.rel_append hlines hshow) hgiven

/-- A minus before every amount is right where none is positive. -/
theorem sum_minus_iff (cart : List RichLine) :
    (cart.map (printedTotal true)).sum = (cart.map (·.lineTotalCents)).sum ↔
      ∀ l ∈ cart, l.lineTotalCents ≤ 0 := by
  have hle (l : RichLine) : printedTotal true l ≤ l.lineTotalCents := by
    rw [printedTotal, if_pos rfl]
    exact neg_le_of_abs_le (Int.abs_eq_natAbs _).le
  have hall (cart : List RichLine) :
      (cart.map (printedTotal true)).sum ≤ (cart.map (·.lineTotalCents)).sum :=
    List.sum_le_sum fun l _ ↦ hle l
  have heq (l : RichLine) : printedTotal true l = l.lineTotalCents ↔ l.lineTotalCents ≤ 0 := by
    rw [printedTotal, if_pos rfl, ← Int.abs_eq_natAbs, neg_eq_iff_eq_neg, abs_eq_neg_self]
  induction cart with
  | nil => exact iff_of_true rfl fun l hl ↦ absurd hl List.not_mem_nil
  | cons l cart ih =>
      rw [List.forall_mem_cons, ← heq, List.map_cons, List.map_cons, List.sum_cons, List.sum_cons]
      have hl := hle l
      have hrest := hall cart
      constructor
      · intro hsum
        exact ⟨by linarith, ih.mp (by linarith)⟩
      · rintro ⟨hfirst, hcart⟩
        rw [hfirst, ih.mpr hcart]

/-- The lines of a sale add up as they are printed; those of a refund do unless one of them is
printed with the wrong sign. -/
theorem sum_printedTotal (hadds : Sale.Adds t) :
    (t.cart.map (printedTotal (t.txnType = .refund))).sum = t.totalCents ↔
      (t.txnType = .refund → ∀ l ∈ t.cart, l.lineTotalCents ≤ 0) := by
  rw [hadds.lineTotals]
  by_cases hrefund : t.txnType = .refund
  · rw [decide_eq_true hrefund, forall_prop_of_true hrefund]
    exact sum_minus_iff t.cart
  · rw [decide_eq_false hrefund]
    exact iff_of_true rfl fun h ↦ absurd h hrefund

/-- The amounts stand on the lines of the receipt. -/
theorem formatReceipt_prints (uuid : Id → String) (parent : Option POSTransaction)
    {settings : StoreSettings} (hamounts : amounts lxml settings t = .ok ps)
    (hshort : Short ps) :
    ∃ text, formatReceipt uuid lxml settings t parent = .ok text ∧
      PrintsAmounts ps (lines text.toList) := by
  have hlaid := laid_middleLines lxml settings t
  rw [hamounts] at hlaid
  obtain ⟨ls, hls, hlays⟩ := hlaid.exists_ok
  obtain ⟨printed, hprinted, hsub⟩ := hlays.prints hshort
  have hne : headLines uuid settings t parent ++ ls ++ footLines uuid t ≠ [] :=
    List.append_ne_nil_of_left_ne_nil (List.append_ne_nil_of_left_ne_nil (List.cons_ne_nil _ _) _) _
  rw [formatReceipt_eq, hls]
  refine ⟨_, rfl, printed, hprinted, ?_⟩
  rw [lines_joined hne, List.flatMap_append, List.flatMap_append]
  exact (hsub.trans (List.sublist_append_right _ _)).trans (List.sublist_append_left _ _)

end Transactions

/-! ## Runs -/

/-- **Receipts add up.**  In every state of every run the receipt of a transaction whose amounts are
exact as floats is printed, and shows all its amounts as they are stored: the lines of the cart, the
totals and the tenders.  Subtotal and tax add up to the total; the lines of the cart, as they are
printed, do so exactly where no line of a refund has a positive total. -/
theorem receipt_adds_up (D : Deployment) {w : World} {c : Crew World Call Answer PyExc Request}
    (hw : ∀ x t, w.db.transaction x = some t → Sale.Adds t)
    (hrun : Crew.Run (D.system Sale.repricing) .free ⟨w, []⟩ c) {x : Id} {t : POSTransaction}
    (hrow : c.state.db.transaction x = some t) (hsmall : Small t) (uuid : Id → String)
    (lxml : String → Option Windcave.Element) (settings : StoreSettings)
    (parent : Option POSTransaction) :
    (∃ text ps, formatReceipt uuid lxml settings t parent = .ok text ∧
      amounts lxml settings t = .ok ps ∧ PrintsAmounts ps (lines text.toList) ∧
      ShowAll ps (printedCents lxml t)) ∧
    t.subtotalCents + t.taxCents = t.totalCents ∧
    ((t.cart.map (printedTotal (t.txnType = .refund))).sum = t.totalCents ↔
      (t.txnType = .refund → ∀ l ∈ t.cart, l.lineTotalCents ≤ 0)) := by
  have hadds := Sale.adds_run hw hrun x t hrow
  obtain ⟨ps, hamounts, hshow⟩ := amounts_ok lxml settings hsmall
  obtain ⟨text, htext, hprints⟩ := formatReceipt_prints uuid parent hamounts hshow.short
  exact ⟨⟨text, ps, htext, hamounts, hprints, hshow⟩, hadds.total.symm, sum_printedTotal hadds⟩

/-- A note of twenty. -/
def note : Tender where
  type := .cash
  amountCents := 1081
  amountTenderedCents := some 2000
  changeCents := some 919

/-- A mug that was paid with it. -/
def mugSold : POSTransaction :=
  { POSTransaction.sample .complete with paymentMethod := some .cash, tenders := some [note] }

/-- The refund of it. -/
def mugReturned : POSTransaction := (Refund.newRefund mugSold "alice" 0).build 1

theorem small_mugSold : Small mugSold where
  subtotal := by decide
  tax := by decide
  total := by decide
  lines := by decide
  tenders tender h := by
    obtain rfl : tender = note := List.mem_singleton.mp h
    refine ⟨by decide, fun cents hcents ↦ ?_, fun cents hcents ↦ ?_⟩
    · obtain rfl : 2000 = cents := Option.some.inj hcents
      decide
    · obtain rfl : 919 = cents := Option.some.inj hcents
      decide

theorem small_mugReturned : Small mugReturned where
  subtotal := by decide
  tax := by decide
  total := by decide
  lines := by decide
  tenders _ h := absurd h List.not_mem_nil

/-- Both are printed. -/
theorem receipt_adds_up_refund :
    (∃ text ps, formatReceipt (fun _ ↦ "0123456789ab") (fun _ ↦ none) {} mugSold none = .ok text ∧
      PrintsAmounts ps (lines text.toList) ∧
      ShowAll ps [1081, 1000, 81, 1081, 2000, 919]) ∧
    (∃ text ps, formatReceipt (fun _ ↦ "0123456789ab") (fun _ ↦ none) {} mugReturned
        (some mugSold) = .ok text ∧
      PrintsAmounts ps (lines text.toList) ∧ ShowAll ps [-1081, -1000, -81, -1081]) ∧
    (mugReturned.cart.map (printedTotal true)).sum = -1081 := by
  have hrun : Crew.Run (Deployment.sample.system Sale.repricing) .free
      ⟨World.sample mugSold, []⟩ _ :=
    .tail (.tail (.tail (.tail (.tail .refl (.start (.startRefund 0 "alice")))
      (.access (l := []) (r := []) rfl)) (.access (l := []) (r := []) rfl))
      (.access (l := []) (r := []) rfl)) (.access (l := []) (r := []) rfl)
  have hstart (x : Id) (t : POSTransaction)
      (h : (World.sample mugSold).db.transaction x = some t) : Sale.Adds t := by
    obtain rfl := List.mem_singleton.mp (Table.mem_of_get? h)
    constructor <;> decide
  obtain ⟨⟨text, ps, htext, -, hprints, hshow⟩, -⟩ := receipt_adds_up .sample hstart hrun (x := 0)
    (t := mugSold) rfl small_mugSold (fun _ ↦ "0123456789ab") (fun _ ↦ none) {} none
  obtain ⟨⟨text', ps', htext', -, hprints', hshow'⟩, -, hsum⟩ := receipt_adds_up .sample hstart hrun
    (x := 1) (t := mugReturned) rfl small_mugReturned (fun _ ↦ "0123456789ab") (fun _ ↦ none) {}
    (some mugSold)
  have hsold : printedCents (fun _ ↦ none) mugSold = [1081, 1000, 81, 1081, 2000, 919] := by
    decide
  have hreturned : printedCents (fun _ ↦ none) mugReturned = [-1081, -1000, -81, -1081] := by
    decide
  exact ⟨⟨text, ps, htext, hprints, hsold ▸ hshow⟩,
    ⟨text', ps', htext', hprints', hreturned ▸ hshow'⟩, hsum.mpr fun _ ↦ by decide⟩

end HightowerPos.Receipt
