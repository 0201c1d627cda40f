import HightowerPos.Data.Collect
import HightowerPos.Data.Columns
import HightowerPos.Services.Receipt

/-!
# The width of a receipt

The lines of a receipt are centred, cut or padded to the width of the paper, with the amount of a
padded line printed whole.  What is printed of a card is neither cut nor padded, so that the
receipt keeps within the paper exactly where that text does.
-/

namespace HightowerPos.Receipt

open Columns

/-! ## Single lines -/

section Line

variable {s label amount : String} {n w : ℕ} {c : Char}

@[simp] theorem toList_cut (s : String) (n : ℕ) : (cut s n).toList = s.toList.take n :=
  String.toList_ofList

@[simp] theorem toList_repeated (c : Char) (n : ℕ) : (repeated c n).toList = List.replicate n c :=
  String.toList_ofList

theorem fits_repeated : Fits n (repeated c n).toList := by
  refine fits_of_length ?_
  rw [toList_repeated, List.length_replicate]

theorem fits_cut : Fits n (cut s n).toList := by
  refine fits_of_length ?_
  rw [toList_cut]
  exact List.length_take_le n _

theorem fits_center : Fits w (center s w).toList := by
  unfold center
  dsimp only
  split
  · exact fits_cut
  · refine fits_of_length ?_
    have hone : (w - (PyStr.strip s).length) &&& w &&& 1 ≤ 1 := Nat.and_le_right
    have hmargin : (w - (PyStr.strip s).length) &&& w &&& 1 ≤ w - (PyStr.strip s).length :=
      Nat.le_trans Nat.and_le_left Nat.and_le_left
    rw [String.toList_append, String.toList_append, toList_repeated, toList_repeated,
      List.length_append, List.length_append, List.length_replicate, List.length_replicate,
      String.length_toList]
    omega

/-- A line as wide as the paper that ends with an amount, behind a label that is cut only where a
single blank is left between the two. -/
def Prints (label amount : String) (l : List Char) : Prop :=
  l.length = receiptWidth ∧ ∃ (kept : List Char) (gap : ℕ),
    l = kept ++ List.replicate gap ' ' ++ amount.toList ∧ kept <+: label.toList ∧ 0 < gap ∧
      (kept = label.toList ∨ gap = 1)

/-- **A padded line prints its amount whole**, if that leaves room for a blank. -/
theorem prints_padPair (h : amount.length < receiptWidth) :
    Prints label amount (padPair label amount receiptWidth).toList := by
  unfold Prints padPair
  split
  · next hlong =>
      have htake : (label.toList.take (receiptWidth - amount.length - 1)).length =
          receiptWidth - amount.length - 1 := by
        rw [List.length_take, String.length_toList]
        omega
      rw [String.toList_append, String.toList_append, toList_cut]
      refine ⟨?_, _, 1, rfl, List.take_prefix _ _, Nat.one_pos, .inr rfl⟩
      rw [List.length_append, List.length_append, htake, String.length_toList, String.length_toList]
      show _ + 1 + _ = _
      omega
  · next hshort =>
      rw [String.toList_append, String.toList_append, toList_repeated]
      refine ⟨?_, _, _, rfl, List.prefix_rfl, by omega, .inl rfl⟩
      rw [List.length_append, List.length_append, List.length_replicate, String.length_toList,
        String.length_toList]
      omega

theorem newline_notMem_padPair (hlabel : '\n' ∉ label.toList) (hamount : '\n' ∉ amount.toList) :
    '\n' ∉ (padPair label amount w).toList := by
  have htake (n : ℕ) : '\n' ∉ label.toList.take n := fun h ↦ hlabel (List.mem_of_mem_take h)
  have hblank (n : ℕ) : '\n' ∉ List.replicate n ' ' := fun h ↦
    absurd (List.eq_of_mem_replicate h) (by decide)
  unfold padPair
  split
  · rw [String.toList_append, String.toList_append, toList_cut, List.mem_append, List.mem_append]
    rintro ((h | h) | h)
    · exact htake _ h
    · exact absurd h (by decide)
    · exact hamount h
  · rw [String.toList_append, String.toList_append, toList_repeated, List.mem_append,
      List.mem_append]
    rintro ((h | h) | h)
    · exact hlabel h
    · exact hblank _ h
    · exact hamount h

end Line

/-! ## What amounts look like -/

section Money

variable {text : String} {cents : Cents} {signed isRefund : Bool} {n : ℕ} {line : RichLine}

theorem newline_notMem_money (h : money cents signed = .ok text) : '\n' ∉ text.toList := by
  have hdollar (x : PyFloat) (sign : String) (hsign : '\n' ∉ sign.toList) :
      '\n' ∉ (sign ++ x.fixed2).toList := by
    rw [String.toList_append, List.mem_append, not_or]
    exact ⟨hsign, x.newline_notMem_fixed2⟩
  have hplain (n : ℤ) (sign : String) (hsign : '\n' ∉ sign.toList)
      (h : (PyFloat.hundredth n).map (fun x ↦ sign ++ x.fixed2) = .ok text) :
      '\n' ∉ text.toList := by
    obtain ⟨x, -, rfl⟩ := exists_of_map_ok h
    exact hdollar x sign hsign
  unfold money at h
  split at h
  · exact hplain _ "-$" (by decide) h
  · exact hplain _ "$" (by decide) h

theorem newline_notMem_lineAmount (h : lineAmount isRefund line = .ok text) :
    '\n' ∉ text.toList := by
  unfold lineAmount at h
  split at h
  · obtain ⟨amount, hamount, rfl⟩ := exists_of_map_ok h
    rw [String.toList_append, List.mem_append, not_or]
    exact ⟨by decide, newline_notMem_money hamount⟩
  · exact newline_notMem_money h

theorem newline_notMem_ofNat (h : PyStr.ofNat n = .ok text) : '\n' ∉ text.toList := by
  unfold PyStr.ofNat at h
  split at h
  · cases h
  · cases h
    rw [String.toList_ofList]
    exact fun hmem ↦ absurd (Numeral.isDigit_toDigits hmem) (by decide)

end Money

/-! ## Amounts and the lines they stand on -/

/-- Labels and amounts, in the order in which they are printed. -/
abbrev Amounts := List (String × String)

/-- Some of the lines, in their order, print the amounts. -/
def PrintsAmounts (ps : Amounts) (ls : List (List Char)) : Prop :=
  ∃ printed, List.Forall₂ (fun p l ↦ Prints p.1 p.2 l) ps printed ∧ printed.Sublist ls

/-- The amounts leave room for a blank. -/
def Short (ps : Amounts) : Prop := ∀ p ∈ ps, p.2.length < receiptWidth

/-- Texts that print amounts which are short, and fit exactly where `C` holds. -/
structure Lays (C : Prop) (ps : Amounts) (ls : List String) : Prop where
  prints : Short ps → PrintsAmounts ps (ls.flatMap fun l ↦ lines l.toList)
  fits : Short ps → ((∀ l ∈ ls, Fits receiptWidth l.toList) ↔ C)

/-- Both fail in the same way, or the texts are laid for the amounts. -/
inductive Laid (C : Prop) : Except PyExc Amounts → Except PyExc (List String) → Prop
  | error (e : PyExc) : Laid C (.error e) (.error e)
  | ok {ps : Amounts} {ls : List String} (h : Lays C ps ls) : Laid C (.ok ps) (.ok ls)

section Laid

variable {C D : Prop} {ps qs : Amounts} {ls ms : List String} {l label amount : String}
  {x x' : Except PyExc Amounts} {y y' : Except PyExc (List String)}

theorem PrintsAmounts.append {ls ms : List (List Char)} (h : PrintsAmounts ps ls)
    (h' : PrintsAmounts qs ms) : PrintsAmounts (ps ++ qs) (ls ++ ms) := by
  obtain ⟨printed, hprinted, hsub⟩ := h
  obtain ⟨printed', hprinted', hsub'⟩ := h'
  exact ⟨printed ++ printed', List.rel_append hprinted hprinted', hsub.append hsub'⟩

theorem Lays.append (h : Lays C ps ls) (h' : Lays D qs ms) :
    Lays (C ∧ D) (ps ++ qs) (ls ++ ms) where
  prints hshort := by
    obtain ⟨hps, hqs⟩ := List.forall_mem_append.mp hshort
    rw [List.flatMap_append]
    exact (h.prints hps).append (h'.prints hqs)
  fits hshort := by
    obtain ⟨hps, hqs⟩ := List.forall_mem_append.mp hshort
    rw [List.forall_mem_append, h.fits hps, h'.fits hqs]

theorem Lays.congr (h : Lays C ps ls) (hCD : C ↔ D) : Lays D ps ls := propext hCD ▸ h

theorem lays_nil : Lays True [] [] where
  prints _ := ⟨[], .nil, .slnil⟩
  fits _ := ⟨fun _ ↦ trivial, fun _ ↦ nofun⟩

/-- A text without an amount. -/
theorem lays_text (l : String) : Lays (Fits receiptWidth l.toList) [] [l] where
  prints _ := ⟨[], .nil, List.nil_sublist _⟩
  fits _ := List.forall_mem_singleton

theorem lays_of_fits (h : Fits receiptWidth l.toList) : Lays True [] [l] :=
  (lays_text l).congr (iff_true_intro h)

theorem Lays.and_then (h : Lays True ps ls) (h' : Lays True qs ms) :
    Lays True (ps ++ qs) (ls ++ ms) := (h.append h').congr (iff_of_eq (and_self True))

/-- A line with an amount. -/
theorem lays_padPair (hlabel : '\n' ∉ label.toList) (hamount : '\n' ∉ amount.toList) :
    Lays True [(label, amount)] [padPair label amount receiptWidth] := by
  have hnewline := newline_notMem_padPair (w := receiptWidth) hlabel hamount
  constructor
  · intro hshort
    have hprints : Prints label amount _ := prints_padPair (hshort _ (.head _))
    rw [List.flatMap_singleton, lines_of_notMem hnewline]
    exact ⟨_, .cons hprints .nil, List.Sublist.refl _⟩
  · intro hshort
    have hprints : Prints label amount _ := prints_padPair (hshort _ (.head _))
    rw [List.forall_mem_singleton, fits_of_notMem hnewline, iff_true]
    exact hprints.1.le

theorem Laid.exists_ok (h : Laid C (.ok ps) y) : ∃ ls, y = .ok ls ∧ Lays C ps ls := by
  cases h with
  | ok h => exact ⟨_, rfl, h⟩

theorem Laid.append (h : Laid C x y) (h' : Laid D x' y') :
    Laid (C ∧ D) (do return (← x) ++ (← x')) (do return (← y) ++ (← y')) := by
  cases h with
  | error e => exact .error e
  | ok h =>
      cases h' with
      | error e => exact .error e
      | ok h' => exact .ok (h.append h')

theorem Laid.mapM {α : Type} {C : α → Prop} {f : α → Except PyExc Amounts}
    {g : α → Except PyExc (List String)} (h : ∀ a, Laid (C a) (f a) (g a)) (l : List α) :
    Laid (∀ a ∈ l, C a) (do return (← l.mapM f).flatten) (do return (← l.mapM g).flatten) := by
  induction l with
  | nil => exact .ok (lays_nil.congr (true_iff _ |>.mpr nofun))
  | cons a l ih =>
      rw [mapM_cons_flatten, mapM_cons_flatten, propext List.forall_mem_cons]
      exact (h a).append ih

end Laid

/-! ## The amounts of a receipt -/

/-- The amount of a line of the cart. -/
def cartAmounts (isRefund : Bool) (line : RichLine) : Except PyExc Amounts := do
  let unitPrice ← PyFloat.hundredth line.unitPriceCents
  let right ← lineAmount isRefund line
  return [("  Qty " ++ (← PyStr.ofNat line.quantity.natAbs) ++ " @ $" ++ unitPrice.fixed2, right)]

/-- The subtotal, the tax and the total. -/
def totalAmounts (settings : StoreSettings) (t : POSTransaction) : Except PyExc Amounts := do
  let isRefund := decide (t.txnType = .refund)
  let rateLabel := "(" ++ settings.taxRate.hundredfold.fixed2 ++ "%)"
  let subtotal ← money t.subtotalCents isRefund
  let tax ← money t.taxCents isRefund
  let total ← money t.totalCents isRefund
  return if isRefund then
      [("Refund subtotal", subtotal), ("Refund tax " ++ rateLabel, tax), ("REFUND TOTAL", total)]
    else [("Subtotal", subtotal), ("Tax " ++ rateLabel, tax), ("TOTAL", total)]

/-- The cash that went over the counter. -/
def tenderAmounts (isRefund : Bool) (tender : Tender) : Except PyExc Amounts :=
  match tender.type with
  | .card => .ok []
  | .cash => do
      if isRefund then return [("Cash returned", ← money tender.amountCents.natAbs)]
      else
        let tendered ← money ((tender.amountTenderedCents.filter (· ≠ 0)).getD tender.amountCents)
        let change ← money (tender.changeCents.getD 0)
        return [("Cash tendered", tendered), ("Change", change)]

/-- The amounts of the body, which a text of Windcave replaces. -/
def bodyAmounts (lxml : String → Option Windcave.Element) (t : POSTransaction) :
    Except PyExc Amounts :=
  match windcaveReceipt lxml t with
  | some _ => .ok []
  | none => do return (← t.cart.mapM (cartAmounts (t.txnType = .refund))).flatten

/-- Every amount of a receipt, with its label. -/
def amounts (lxml : String → Option Windcave.Element) (settings : StoreSettings)
    (t : POSTransaction) : Except PyExc Amounts := do
  let body ← bodyAmounts lxml t
  let totals ← totalAmounts settings t
  let tenders ← (t.tenders.getD []).mapM (tenderAmounts (t.txnType = .refund))
  return body ++ totals ++ tenders.flatten

/-- The brand and the last digits of a card. -/
def cardText (tender : Tender) : String :=
  (Checkout.orNone tender.cardBrand).getD "Card" ++ " ****" ++
    (Checkout.orNone tender.cardLast4).getD "----"

/-- What is printed of a card keeps within the paper, behind the words before it. -/
def CardFits (isRefund : Bool) (tender : Tender) : Prop :=
  tender.type = .card →
    FitsFrom receiptWidth (if isRefund then 13 else 6) (cardText tender).toList ∧
      ∀ authCode, Checkout.orNone tender.authCode = some authCode →
        FitsFrom receiptWidth 6 authCode.toList

section Parts

variable {lxml : String → Option Windcave.Element} {settings : StoreSettings} {t : POSTransaction}
  {uuid : Id → String} {parent : Option POSTransaction} {isRefund : Bool}

/-- A line of the cart: its header is cut. -/
theorem laid_cartLine (isRefund : Bool) (line : RichLine) :
    Laid True (cartAmounts isRefund line) (cartLine isRefund line) := by
  unfold cartAmounts cartLine
  cases PyFloat.hundredth line.unitPriceCents with
  | error e => exact .error e
  | ok unitPrice =>
      cases hright : lineAmount isRefund line with
      | error e => exact .error e
      | ok right =>
          cases hqty : PyStr.ofNat line.quantity.natAbs with
          | error e => exact .error e
          | ok qty =>
              have hlabel : '\n' ∉ ("  Qty " ++ qty ++ " @ $" ++ unitPrice.fixed2).toList := by
                rw [String.toList_append, String.toList_append, String.toList_append]
                simp only [List.mem_append, not_or]
                exact ⟨⟨⟨by decide, newline_notMem_ofNat hqty⟩, by decide⟩,
                  unitPrice.newline_notMem_fixed2⟩
              exact .ok ((lays_of_fits fits_cut).and_then
                (lays_padPair hlabel (newline_notMem_lineAmount hright)))

/-- The totals. -/
theorem laid_totalLines (settings : StoreSettings) (t : POSTransaction) :
    Laid True (totalAmounts settings t) (totalLines settings t) := by
  have hrate (s : String) (hs : '\n' ∉ s.toList) :
      '\n' ∉ (s ++ ("(" ++ settings.taxRate.hundredfold.fixed2 ++ "%)")).toList := by
    rw [String.toList_append, String.toList_append, String.toList_append]
    simp only [List.mem_append, not_or]
    exact ⟨hs, ⟨by decide, PyFloat.newline_notMem_fixed2 _⟩, by decide⟩
  have hlaid (signed : Bool) {a b c : String} (ha : '\n' ∉ a.toList) (hb : '\n' ∉ b.toList)
      (hc : '\n' ∉ c.toList) :
      Laid True
        (do
          let subtotal ← money t.subtotalCents signed
          let tax ← money t.taxCents signed
          let total ← money t.totalCents signed
          return [(a, subtotal), (b, tax), (c, total)])
        (do
          let subtotal ← money t.subtotalCents signed
          let tax ← money t.taxCents signed
          let total ← money t.totalCents signed
          return [repeated '-' receiptWidth, padPair a subtotal receiptWidth,
            padPair b tax receiptWidth, repeated '-' receiptWidth, padPair c total receiptWidth,
            ""]) := by
    cases hsubtotal : money t.subtotalCents signed with
    | error e => exact .error e
    | ok subtotal =>
        cases htax : money t.taxCents signed with
        | error e => exact .error e
        | ok tax =>
            cases htotal : money t.totalCents signed with
            | error e => exact .error e
            | ok total =>
                have hruler : Lays True [] [repeated '-' receiptWidth] :=
                  lays_of_fits fits_repeated
                have hrows := (lays_padPair ha (newline_notMem_money hsubtotal)).and_then
                  (lays_padPair hb (newline_notMem_money htax))
                have hlast := lays_padPair hc (newline_notMem_money htotal)
                exact .ok (((hruler.and_then hrows).and_then hruler).and_then
                  (hlast.and_then (lays_of_fits (by decide))))
  unfold totalAmounts totalLines
  by_cases hrefund : t.txnType = .refund
  · simp only [hrefund, decide_true, if_true]
    exact hlaid true (by decide) (hrate _ (by decide)) (by decide)
  · simp only [hrefund, decide_false, if_false, Bool.false_eq_true]
    exact hlaid false (by decide) (hrate _ (by decide)) (by decide)

/-- A text behind words that are on one line. -/
theorem fits_behind {words text : String} (h : '\n' ∉ words.toList) :
    Fits receiptWidth (words ++ text).toList ↔
      FitsFrom receiptWidth words.length text.toList := by
  rw [String.toList_append, fits_append h, String.length_toList]

/-- What is printed of a tender fits where the card does. -/
theorem laid_tenderLine (isRefund : Bool) (tender : Tender) :
    Laid (CardFits isRefund tender) (tenderAmounts isRefund tender)
      (tenderLine isRefund tender) := by
  unfold tenderAmounts tenderLine CardFits
  cases htype : tender.type with
  | card =>
      have htext (words : String) :
          words ++ (Checkout.orNone tender.cardBrand).getD "Card" ++ " ****" ++
            (Checkout.orNone tender.cardLast4).getD "----" = words ++ cardText tender := by
        unfold cardText
        simp only [String.append_assoc]
      have hpaid : Lays
          (FitsFrom receiptWidth (if isRefund then 13 else 6) (cardText tender).toList) []
          [(if isRefund then "Refunded to: " else "Paid: ") ++
            (Checkout.orNone tender.cardBrand).getD "Card" ++ " ****" ++
              (Checkout.orNone tender.cardLast4).getD "----"] := by
        refine (lays_text _).congr ?_
        rw [htext]
        cases isRefund with
        | false => exact fits_behind (by decide)
        | true => exact fits_behind (by decide)
      cases hauth : Checkout.orNone tender.authCode with
      | none => exact .ok (hpaid.congr ⟨fun h _ ↦ ⟨h, nofun⟩, fun h ↦ (h rfl).1⟩)
      | some authCode =>
          have hcode : Lays (FitsFrom receiptWidth 6 authCode.toList) [] ["Auth: " ++ authCode] :=
            (lays_text _).congr (fits_behind (by decide))
          refine .ok ((hpaid.append hcode).congr ⟨fun h _ ↦ ⟨h.1, ?_⟩, fun h ↦ ?_⟩)
          · intro code hcode
            rw [← Option.some.inj hcode]
            exact h.2
          · exact ⟨(h rfl).1, (h rfl).2 authCode rfl⟩
  | cash =>
      have hcash : (PaymentMethod.cash = .card →
          FitsFrom receiptWidth (if isRefund then 13 else 6) (cardText tender).toList ∧
            ∀ authCode, Checkout.orNone tender.authCode = some authCode →
              FitsFrom receiptWidth 6 authCode.toList) = True := eq_true nofun
      dsimp only
      rw [hcash]
      cases isRefund with
      | true =>
          cases hreturned : money tender.amountCents.natAbs with
          | error e => exact .error e
          | ok returned => exact .ok (lays_padPair (by decide) (newline_notMem_money hreturned))
      | false =>
          cases htendered : money
            ((tender.amountTenderedCents.filter (· ≠ 0)).getD tender.amountCents) with
          | error e => exact .error e
          | ok tendered =>
              cases hchange : money (tender.changeCents.getD 0) with
              | error e => exact .error e
              | ok change =>
                  exact .ok ((lays_padPair (by decide) (newline_notMem_money htendered)).and_then
                    (lays_padPair (by decide) (newline_notMem_money hchange)))

/-- A text of Windcave that replaces the body keeps within the paper. -/
def RcptFits (lxml : String → Option Windcave.Element) (t : POSTransaction) : Prop :=
  ∀ rcpt, windcaveReceipt lxml t = some rcpt → Fits receiptWidth rcpt.toList

/-- The body: a text of Windcave, or the lines of the cart. -/
theorem laid_bodyLines (lxml : String → Option Windcave.Element) (t : POSTransaction) :
    Laid (RcptFits lxml t) (bodyAmounts lxml t) (bodyLines lxml t) := by
  unfold RcptFits bodyAmounts bodyLines
  cases windcaveReceipt lxml t with
  | some rcpt =>
      refine .ok ((lays_text rcpt).congr ⟨fun h _ hrcpt ↦ ?_, fun h ↦ h rcpt rfl⟩)
      rw [← Option.some.inj hrcpt]
      exact h
  | none =>
      have hlines := Laid.mapM (laid_cartLine (t.txnType = .refund)) t.cart
      have hleft : (∀ line ∈ t.cart, True) = True := eq_true fun _ _ ↦ trivial
      have hright : (∀ rcpt : String, none = some rcpt → Fits receiptWidth rcpt.toList) = True :=
        eq_true nofun
      rw [hleft] at hlines
      rw [hright]
      exact hlines

theorem laid_tenderLines (t : POSTransaction) :
    Laid (∀ tender ∈ t.tenders.getD [], CardFits (t.txnType = .refund) tender)
      (do return (← (t.tenders.getD []).mapM (tenderAmounts (t.txnType = .refund))).flatten)
      (tenderLines (t.txnType = .refund) t.tenders) :=
  Laid.mapM (laid_tenderLine (t.txnType = .refund)) (t.tenders.getD [])

/-- The lines above the body are centred, or rulers. -/
theorem fits_headLines : ∀ l ∈ headLines uuid settings t parent, Fits receiptWidth l.toList := by
  unfold headLines
  dsimp only
  rw [List.forall_mem_cons, List.forall_mem_append, List.forall_mem_cons]
  refine ⟨fits_center, ?_, fits_repeated, ?_⟩
  · intro l hl
    obtain ⟨s, -, hs⟩ := List.mem_map.mp hl
    rw [← hs]
    exact fits_center
  · split
    · rw [List.forall_mem_append, List.forall_mem_cons, List.forall_mem_singleton]
      refine ⟨⟨fits_center, ?_⟩, fits_repeated⟩
      intro l hl
      obtain ⟨parent, -, hl⟩ := List.mem_flatMap.mp hl
      rcases List.mem_cons.mp hl with hl | hl
      · rw [hl]
        exact fits_center
      · rw [List.mem_singleton.mp hl]
        exact fits_center
    · exact nofun

/-- So are those below the tenders. -/
theorem fits_footLines : ∀ l ∈ footLines uuid t, Fits receiptWidth l.toList := by
  unfold footLines
  dsimp only
  rw [List.forall_mem_append, List.forall_mem_cons, List.forall_mem_cons, List.forall_mem_singleton]
  refine ⟨⟨fits_repeated, ?_⟩, fits_center, fits_center⟩
  split
  · exact nofun
  · exact List.forall_mem_singleton.mpr fits_center

end Parts

/-! ## The whole receipt -/

section Receipt

variable {lxml : String → Option Windcave.Element} {settings : StoreSettings} {t : POSTransaction}
  {uuid : Id → String} {parent : Option POSTransaction} {ps : Amounts}

/-- The lines between the head and the foot. -/
def middleLines (lxml : String → Option Windcave.Element) (settings : StoreSettings)
    (t : POSTransaction) : Except PyExc (List String) := do
  let body ← bodyLines lxml t
  let totals ← totalLines settings t
  let tenders ← tenderLines (t.txnType = .refund) t.tenders
  return body ++ totals ++ tenders

theorem laid_middleLines (lxml : String → Option Windcave.Element) (settings : StoreSettings)
    (t : POSTransaction) :
    Laid (RcptFits lxml t ∧ ∀ tender ∈ t.tenders.getD [], CardFits (t.txnType = .refund) tender)
      (amounts lxml settings t) (middleLines lxml settings t) := by
  have hparts := ((laid_bodyLines lxml t).append (laid_totalLines settings t)).append
    (laid_tenderLines t)
  rw [and_true] at hparts
  unfold amounts middleLines
  convert hparts using 1
  · cases bodyAmounts lxml t with
    | error e => rfl
    | ok body =>
        cases totalAmounts settings t with
        | error e => rfl
        | ok totals =>
            cases (t.tenders.getD []).mapM (tenderAmounts (t.txnType = .refund)) <;> rfl
  · cases bodyLines lxml t with
    | error e => rfl
    | ok body =>
        cases totalLines settings t with
        | error e => rfl
        | ok totals => cases tenderLines (t.txnType = .refund) t.tenders <;> rfl

theorem formatReceipt_eq :
    formatReceipt uuid lxml settings t parent = (middleLines lxml settings t).map fun ls ↦
      "\n".intercalate (headLines uuid settings t parent ++ ls ++ footLines uuid t) := by
  unfold formatReceipt middleLines
  cases bodyLines lxml t with
  | error e => rfl
  | ok body =>
      cases totalLines settings t with
      | error e => rfl
      | ok totals =>
          cases tenderLines (t.txnType = .refund) t.tenders with
          | error e => rfl
          | ok tenders =>
              show Except.ok _ = Except.ok _
              simp only [List.append_assoc]

/-- The lines of a receipt are those of the texts that are joined. -/
theorem lines_joined {ls : List String} (h : ls ≠ []) :
    lines ("\n".intercalate ls).toList = ls.flatMap fun l ↦ lines l.toList := by
  rw [String.toList_intercalate]
  show lines (['\n'].intercalate (ls.map String.toList)) = _
  rw [lines_intercalate (mt List.map_eq_nil_iff.mp h), List.flatMap_map]

/-- **A receipt keeps within the paper where its cards do.**  Every amount is printed whole at
the end of a line. -/
theorem receipt_fits_paper (hamounts : amounts lxml settings t = .ok ps)
    (hshort : Short ps) (hrcpt : RcptFits lxml t) :
    ∃ text, formatReceipt uuid lxml settings t parent = .ok text ∧
      (Fits receiptWidth text.toList ∧ PrintsAmounts ps (lines text.toList) ↔
        ∀ tender ∈ t.tenders.getD [], CardFits (t.txnType = .refund) tender) := by
  have hlaid := laid_middleLines lxml settings t
  rw [and_iff_right hrcpt, hamounts] at hlaid
  obtain ⟨ls, hls, hlays⟩ := hlaid.exists_ok
  rw [formatReceipt_eq, hls]
  refine ⟨_, rfl, ?_⟩
  have hne : headLines uuid settings t parent ++ ls ++ footLines uuid t ≠ [] :=
    List.append_ne_nil_of_left_ne_nil (List.append_ne_nil_of_left_ne_nil (List.cons_ne_nil _ _) _) _
  have hprints : PrintsAmounts ps (lines ("\n".intercalate
      (headLines uuid settings t parent ++ ls ++ footLines uuid t)).toList) := by
    obtain ⟨printed, hprinted, hsub⟩ := hlays.prints hshort
    rw [lines_joined hne, List.flatMap_append, List.flatMap_append]
    exact ⟨printed, hprinted, (hsub.trans (List.sublist_append_right _ _)).trans
      (List.sublist_append_left _ _)⟩
  rw [and_iff_left hprints, ← hlays.fits hshort]
  unfold Fits
  rw [lines_joined hne]
  simp only [List.mem_flatMap, List.mem_append]
  constructor
  · intro hall l hl line hline
    exact hall line ⟨l, .inl (.inr hl), hline⟩
  · rintro hall line ⟨l, (hl | hl) | hl, hline⟩
    · exact fits_headLines l hl line hline
    · exact hall l hl line hline
    · exact fits_footLines l hl line hline

/-- A card refund as the service stores it, with the brand of the card. -/
def cardRefund (brand : String) : POSTransaction where
  id := 1
  status := .complete
  txnType := .refund
  parentTransactionId := some 0
  cart := [{
    sku := "WIDGET-001", name := "Widget Mark I", warehouseId := "store", binId := "A-3-12",
    quantity := -2, isTaxable := true, unitPriceCents := 1999, taxCents := -324,
    lineTotalCents := -4322 }]
  subtotalCents := -3998
  taxCents := -324
  totalCents := -4322
  paymentMethod := some .card
  tenders := some [{
    type := .card, amountCents := -4322, cardBrand := some brand, cardLast4 := some "1111",
    authCode := some "000289" }]
  windcaveResponseXml := some "<Scr><Complete>1</Complete></Scr>"
  cashierId := "mike"
  terminalId := "t1"
  createdAt := 1778250191000000
  updatedAt := 1778250191000000

/-- What lxml makes of the reply that is stored with it. -/
def replyElement : Windcave.Element := .mk "Scr" [] none [.mk "Complete" [] (some "1") []]

/-- The amounts of such a refund. -/
def cardRefundAmounts : Amounts :=
  [("  Qty 2 @ $19.99", "-$43.22"), ("Refund subtotal", "-$39.98"),
    ("Refund tax (8.10%)", "-$3.24"), ("REFUND TOTAL", "-$43.22")]

/-- The receipt of a refund to a brand of ten letters has a line of 32 characters. -/
theorem mastercard_refund_too_wide :
    amounts (fun _ ↦ some replyElement) {} (cardRefund "Mastercard") = .ok cardRefundAmounts ∧
      (∀ p ∈ cardRefundAmounts, p.2.length ≤ 28) ∧
      windcaveReceipt (fun _ ↦ some replyElement) (cardRefund "Mastercard") = none ∧
      ∃ text, formatReceipt (fun _ ↦ "abc12345-6789") (fun _ ↦ some replyElement) {}
          (cardRefund "Mastercard") none = .ok text ∧
        "Refunded to: Mastercard ****1111".toList ∈ lines text.toList ∧
        ¬ Fits receiptWidth text.toList := by
  -- the receipt, parted before that line
  have htext : formatReceipt (fun _ ↦ "abc12345-6789") (fun _ ↦ some replyElement) {}
      (cardRefund "Mastercard") none = .ok ("\n".intercalate
        (["          Hightower           ", "==============================",
          "            REFUND            ", "==============================",
          "WIDGET-001 Widget Mark I", "  Qty 2 @ $19.99       -$43.22",
          "------------------------------", "Refund subtotal        -$39.98",
          "Refund tax (8.10%)      -$3.24", "------------------------------",
          "REFUND TOTAL           -$43.22", ""] ++ "Refunded to: Mastercard ****1111" ::
          ["Auth: 000289", "==============================", "   Refund txn: abc12345-678   ",
            "     2026-05-08 14:23:11      "])) := by decide +kernel
  have hline (front back : List String) : "Refunded to: Mastercard ****1111".toList ∈
      lines ("\n".intercalate (front ++ "Refunded to: Mastercard ****1111" :: back)).toList := by
    rw [lines_joined (List.append_ne_nil_of_right_ne_nil _ (List.cons_ne_nil _ _))]
    refine List.mem_flatMap.mpr ⟨_, List.mem_append_right _ (.head _), ?_⟩
    rw [lines_of_notMem (by decide)]
    exact .head _
  refine ⟨by decide +kernel, by decide +kernel, by decide +kernel, _, htext, hline _ _, ?_⟩
  intro hfits
  exact absurd (hfits _ (hline _ _)) (by decide)

theorem receipt_fits_paper_visa :
    ∃ text, formatReceipt (fun _ ↦ "abc12345-6789") (fun _ ↦ some replyElement) {}
        (cardRefund "Visa") none = .ok text ∧
      Fits receiptWidth text.toList ∧ PrintsAmounts cardRefundAmounts (lines text.toList) := by
  have hamounts : amounts (fun _ ↦ some replyElement) {} (cardRefund "Visa") =
      .ok cardRefundAmounts := by decide +kernel
  have hshort : Short cardRefundAmounts := by
    unfold Short
    decide +kernel
  have hread : windcaveReceipt (fun _ ↦ some replyElement) (cardRefund "Visa") = none := by
    decide +kernel
  have hrcpt : RcptFits (fun _ ↦ some replyElement) (cardRefund "Visa") := by
    unfold RcptFits
    rw [hread]
    exact nofun
  obtain ⟨text, htext, hfits⟩ := receipt_fits_paper hamounts hshort hrcpt
  refine ⟨text, htext, hfits.mpr fun tender htender ↦ ?_⟩
  rw [List.mem_singleton.mp htender]
  refine fun _ ↦ ⟨by decide +kernel, fun authCode hauth ↦ ?_⟩
  rw [← Option.some.inj hauth]
  decide +kernel

end Receipt

end HightowerPos.Receipt
