import HightowerPos.Register.TillModals
import HightowerPos.Services.TillPdf

/-!
# Amounts in the close report

An amount of the report can be read back.  The register writes the same, up to the first amount
whose hundredth part lies so close below an integer that its quotient is rounded up to it.
-/

namespace HightowerPos.Drawer

open Binary64 Numeral

/-! ## The quotient of the register -/

section Quotient

variable {a c k : ℕ}

/-- The quotient is truncated as it should be when the remainder leaves more room than half the
distance of the numbers around it. -/
theorem floor_quotient (ha : 0 < a) (hk : a < 100 * 2 ^ k) (hk' : k ≤ 53)
    (hrem : a % 100 + c ≤ 100) (hc : (2 : ℚ) ^ ((k : ℤ) - 53) / 2 < c / 100) :
    ⌊nearest ((a : ℚ) / 100)⌋₊ = a / 100 := by
  have hx : 0 < (a : ℚ) / 100 := by positivity
  have hlt : (a : ℚ) / 100 < 2 ^ k := by
    rw [div_lt_iff₀ (by norm_num), mul_comm]
    exact_mod_cast hk
  have hfloor : ⌊(a : ℚ) / 100⌋ = ((a / 100 : ℕ) : ℤ) := by
    rw [Int.floor_eq_iff]
    have hle : 100 * (a / 100) ≤ a := Nat.mul_div_le a 100
    have hgt : a < 100 * (a / 100) + 100 := Nat.lt_mul_div_succ a (by decide)
    rw [Int.cast_natCast, le_div_iff₀ (by norm_num), div_lt_iff₀ (by norm_num)]
    constructor
    · rw [mul_comm]
      exact_mod_cast hle
    · rw [add_mul, mul_comm]
      exact_mod_cast hgt
  have hroom : (c : ℚ) / 100 ≤ ⌊(a : ℚ) / 100⌋ + 1 - (a : ℚ) / 100 := by
    have hparts : a + c ≤ 100 * (a / 100) + 100 := by
      have hdiv := Nat.div_add_mod a 100
      omega
    have hcast : (a : ℚ) + c ≤ 100 * ((a / 100 : ℕ) : ℚ) + 100 := by exact_mod_cast hparts
    rw [hfloor, Int.cast_natCast]
    linarith
  have hulp := ulp_le hlt hx
  have hnearest := floor_nearest hx (lt_of_lt_of_le hlt (pow_le_pow_right₀ one_le_two hk'))
    (by linarith)
  rw [← Int.toNat_natCast (a / 100), ← hfloor, ← hnearest, Int.floor_toNat]

/-- Where the register's quotient is first rounded up to an integer. -/
def firstRoundedUp : ℕ := 100 * 2 ^ 49 + 96

/-- Below that amount the register's dollars are right. -/
theorem dollars_eq (hb : IsBinary64 (a : ℚ)) (ha : a < firstRoundedUp) :
    ⌊nearest ((a : ℚ) / 100)⌋₊ = a / 100 := by
  have hdvd (j : ℕ) (hl : 2 ^ (j + 52) ≤ a) (hr : a < 2 ^ (j + 53)) : 2 ^ j ∣ a := by
    have hcast : IsBinary64 (((a : ℕ) : ℤ) : ℚ) := by exact_mod_cast hb
    exact_mod_cast hcast.dvd (k := j) (by exact_mod_cast hl) (by exact_mod_cast hr)
  unfold firstRoundedUp at ha
  rcases Nat.eq_zero_or_pos a with rfl | hpos
  · rw [Nat.cast_zero, zero_div]
    exact congrArg Nat.floor (nearest_natCast (n := 0) (by decide)) |>.trans (by simp)
  rcases Nat.lt_or_ge a (2 ^ 53) with h53 | h53
  · exact floor_quotient (k := 47) (c := 1) hpos (by omega) (by decide) (by omega) (by norm_num)
  -- from here on the amounts are even, then multiples of four and of eight
  rcases Nat.lt_or_ge a (2 ^ 54) with h54 | h54
  · have heven := hdvd 1 h53 h54
    exact floor_quotient (k := 48) (c := 2) hpos (by omega) (by decide) (by omega) (by norm_num)
  rcases Nat.lt_or_ge a (2 ^ 55) with h55 | h55
  · have hfour := hdvd 2 h54 h55
    exact floor_quotient (k := 49) (c := 4) hpos (by omega) (by decide) (by omega) (by norm_num)
  have height := hdvd 3 h55 (by omega)
  rcases Nat.lt_or_ge a (100 * 2 ^ 49) with h49 | h49
  · exact floor_quotient (k := 49) (c := 4) hpos (by omega) (by decide) (by omega) (by norm_num)
  · have hrem : a % 100 = a - 100 * 2 ^ 49 := by omega
    obtain ⟨m, hm⟩ := height
    exact floor_quotient (k := 50) (c := 12) hpos (by omega) (by decide) (by omega) (by norm_num)

end Quotient

/-! ## What is written -/

/-- The text of an amount. -/
def amountText (n : Cents) : String :=
  let formatted := "$" ++ String.ofList (grouped (n.natAbs / 100)) ++ "." ++
    String.ofList (padded 2 (n.natAbs % 100))
  if n < 0 then "-" ++ formatted else formatted

/-- The report writes it, unless the dollars have too many digits. -/
theorem formatCents_eq_ok {n : Cents} (h : n.natAbs / 100 < 10 ^ PyStr.intMaxStrDigits) :
    TillPdf.formatCents n = .ok (amountText n) := by
  have hdigits := (Nat.length_toDigits_le_iff (by decide : 1 < 10)
    (by decide : 0 < PyStr.intMaxStrDigits)).mpr h
  have hgrouped : TillPdf.formatGrouped (n.natAbs / 100) =
      .ok (String.ofList (grouped (n.natAbs / 100))) := if_neg (Nat.not_lt.mpr hdigits)
  unfold TillPdf.formatCents
  dsimp only
  rw [hgrouped]
  rfl

theorem formatCents_eq_error {n : Cents} (h : 10 ^ PyStr.intMaxStrDigits ≤ n.natAbs / 100) :
    ∃ message, TillPdf.formatCents n = .error (.value message) := by
  have hdigits : PyStr.intMaxStrDigits < (Nat.toDigits 10 (n.natAbs / 100)).length := by
    by_contra hle
    have hlt := (Nat.length_toDigits_le_iff (by decide : 1 < 10)
      (by decide : 0 < PyStr.intMaxStrDigits)).mp (Nat.not_lt.mp hle)
    exact absurd h (Nat.not_le.mpr hlt)
  have hgrouped : TillPdf.formatGrouped (n.natAbs / 100) = .error _ := if_pos hdigits
  unfold TillPdf.formatCents
  dsimp only
  rw [hgrouped]
  exact ⟨_, rfl⟩

/-- The register writes it, up to the first amount whose dollars are rounded up. -/
theorem register_formatCents_eq {n : Cents} (hb : IsBinary64 (n.natAbs : ℚ))
    (h : n.natAbs < firstRoundedUp) : Register.formatCents n = amountText n := by
  unfold Register.formatCents
  rw [dollars_eq hb h]
  rfl

/-- What is left of the text when `$`, `,` and `.` are dropped. -/
theorem filter_amountText (n : Cents) :
    (amountText n).toList.filter (fun c ↦ c ∉ ['$', ',', '.']) =
      (if n < 0 then ['-'] else []) ++
        (Nat.toDigits 10 (n.natAbs / 100) ++ padded 2 (n.natAbs % 100)) := by
  have hdigits (l : List Char) (hl : ∀ c ∈ l, c.isDigit = true) :
      l.filter (fun c ↦ c ∉ ['$', ',', '.']) = l := by
    refine List.filter_eq_self.mpr fun c hc ↦ ?_
    have hdigit := hl c hc
    rw [decide_eq_true_eq]
    intro hmark
    rcases List.mem_cons.mp hmark with rfl | hmark
    · cases hdigit
    rcases List.mem_cons.mp hmark with rfl | hmark
    · cases hdigit
    rw [List.mem_singleton.mp hmark] at hdigit
    cases hdigit
  have hgrouped : (grouped (n.natAbs / 100)).filter (fun c ↦ c ∉ ['$', ',', '.']) =
      Nat.toDigits 10 (n.natAbs / 100) := by
    have hcomma := filter_grouped (n.natAbs / 100)
    rw [← hdigits _ fun c ↦ isDigit_toDigits, ← hcomma, List.filter_filter]
    refine List.filter_congr fun c _ ↦ ?_
    by_cases hc : c = ','
    · subst hc
      rfl
    · simp [hc]
  have hbody : ("$" ++ String.ofList (grouped (n.natAbs / 100)) ++ "." ++
      String.ofList (padded 2 (n.natAbs % 100))).toList.filter (fun c ↦ c ∉ ['$', ',', '.']) =
      Nat.toDigits 10 (n.natAbs / 100) ++ padded 2 (n.natAbs % 100) := by
    have hdollar : "$".toList.filter (fun c ↦ c ∉ ['$', ',', '.']) = [] := by decide
    have hpoint : ".".toList.filter (fun c ↦ c ∉ ['$', ',', '.']) = [] := by decide
    simp only [String.toList_append, String.toList_ofList, List.filter_append, hgrouped,
      hdigits _ fun c ↦ isDigit_padded, hdollar, hpoint, List.nil_append, List.append_nil]
  unfold amountText
  dsimp only
  split
  · rw [String.toList_append, List.filter_append, hbody]
    rfl
  · exact hbody

/-- **The text of an amount can be read back.** -/
theorem readSigned_amountText (n : Cents) :
    readSigned ['$', ',', '.'] (amountText n).toList = some n := by
  have hdigits : ∀ c ∈ Nat.toDigits 10 (n.natAbs / 100) ++ padded 2 (n.natAbs % 100),
      c.isDigit = true := by
    intro c hc
    rcases List.mem_append.mp hc with hc | hc
    · exact isDigit_toDigits hc
    · exact isDigit_padded hc
  have hvalue : value (Nat.toDigits 10 (n.natAbs / 100) ++ padded 2 (n.natAbs % 100)) =
      n.natAbs := by
    rw [value_append, value_toDigits, value_padded, length_padded (by omega) (by decide)]
    omega
  have hne : Nat.toDigits 10 (n.natAbs / 100) ++ padded 2 (n.natAbs % 100) ≠ [] :=
    List.append_ne_nil_of_left_ne_nil Nat.toDigits_ne_nil _
  have hfilter := filter_amountText n
  by_cases hn : n < 0
  · rw [if_pos hn, List.singleton_append] at hfilter
    rw [readSigned_neg hfilter hne hdigits, hvalue, Int.ofNat_natAbs_of_nonpos hn.le, neg_neg]
  · rw [if_neg hn, List.nil_append] at hfilter
    rw [readSigned_pos hfilter hne hdigits, hvalue, Int.natAbs_of_nonneg (not_lt.mp hn)]

/-! ## Amounts -/

/-- **Amounts of the close report can be read back**, so long as the dollars have not more digits
than Python writes: from then on it raises.  The fraction has two digits, and the dollars are
grouped in threes without leading zeros.  The register writes the same text for every number of
binary64 below the first one whose dollars are rounded up. -/
theorem amounts_read_back :
    (∀ n : Cents, n.natAbs / 100 < 10 ^ PyStr.intMaxStrDigits →
      ∃ text sign dollars fraction : String, TillPdf.formatCents n = .ok text ∧
        readSigned ['$', ',', '.'] text.toList = some n ∧
        text = sign ++ ("$" ++ dollars ++ "." ++ fraction) ∧ sign = (if n < 0 then "-" else "") ∧
        IsGrouped dollars.toList ∧ fraction.length = 2 ∧
        (∀ c ∈ fraction.toList, c.isDigit = true) ∧
        (IsBinary64 (n.natAbs : ℚ) → n.natAbs < firstRoundedUp →
          Register.formatCents n = text)) ∧
    (∀ n m text, TillPdf.formatCents n = .ok text → TillPdf.formatCents m = .ok text → n = m) ∧
    ∀ n : Cents, 10 ^ PyStr.intMaxStrDigits ≤ n.natAbs / 100 →
      ∃ message, TillPdf.formatCents n = .error (.value message) := by
  refine ⟨fun n hn ↦ ?_, fun n m text hn hm ↦ ?_, fun n ↦ formatCents_eq_error⟩
  · refine ⟨amountText n, if n < 0 then "-" else "", String.ofList (grouped (n.natAbs / 100)),
      String.ofList (padded 2 (n.natAbs % 100)), formatCents_eq_ok hn, readSigned_amountText n, ?_,
      rfl, ?_, ?_, ?_, register_formatCents_eq⟩
    · unfold amountText
      split
      · rfl
      · rw [String.empty_append]
    · rw [String.toList_ofList]
      exact isGrouped_grouped _
    · rw [String.length_ofList]
      exact length_padded (by omega) (by decide)
    · rw [String.toList_ofList]
      exact fun c ↦ isDigit_padded
  · have htext {k : Cents} (hk : TillPdf.formatCents k = .ok text) : text = amountText k := by
      by_cases hsmall : k.natAbs / 100 < 10 ^ PyStr.intMaxStrDigits
      · exact Except.ok.inj (hk.symm.trans (formatCents_eq_ok hsmall))
      · obtain ⟨message, herror⟩ := formatCents_eq_error (Nat.not_lt.mp hsmall)
        exact nomatch hk.symm.trans herror
    have hread := readSigned_amountText n
    rw [← htext hn, htext hm, readSigned_amountText m] at hread
    exact (Option.some.inj hread).symm

/-- An amount of more digits is not written, and the register's dollars are one too many at the
first amount whose quotient is rounded up. -/
theorem large_amounts_differ :
    (∃ n : Cents, ∀ text, TillPdf.formatCents n ≠ .ok text) ∧
    IsBinary64 (firstRoundedUp : ℚ) ∧
    TillPdf.formatCents firstRoundedUp = .ok "$562,949,953,421,312.96" ∧
    Register.formatCents firstRoundedUp = "$562,949,953,421,313.96" := by
  have hquotient (k : ℕ) : (100 * 10 ^ k : Cents).natAbs / 100 = 10 ^ k := by
    rw [Int.natAbs_mul, Int.natAbs_pow]
    exact Nat.mul_div_cancel_left _ (by decide)
  refine ⟨⟨100 * 10 ^ PyStr.intMaxStrDigits, fun text h ↦ ?_⟩, by decide +kernel,
    by decide +kernel, by decide +kernel⟩
  obtain ⟨message, herror⟩ := formatCents_eq_error (hquotient PyStr.intMaxStrDigits).ge
  exact nomatch h.symm.trans herror

end HightowerPos.Drawer
