import HightowerPos.Prices.Cents
import HightowerPos.Python.Float
import Mathlib.Data.List.TakeWhile
import Mathlib.Tactic.NormNum

/-!
# Amounts as texts

`f"{cents / 100:.2f}"` goes through a float.  For the amounts that a register meets the text is
that of the exact quotient (`fixed2_hundredth`), and `Decimal` reads it back (`parse_dollars`), with
the cents (`cents_dollars`).
-/

namespace HightowerPos

open Numeral

/-- Cents, written with two decimals. -/
def dollars (n : ℕ) : String :=
  String.ofList (Nat.toDigits 10 (n / 100)) ++ "." ++ String.ofList (padded 2 (n % 100))

/-! ## Through a float -/

section Floats

variable {n : ℕ}

/-- The float nearest to a quotient. -/
theorem nearest_hundredth (h : n < 2 ^ 52) :
    |Binary64.nearest (n / 100 : ℚ) - n / 100| ≤ 1 / 256 := by
  rcases Nat.eq_zero_or_pos n with rfl | hpos
  · have hzero : Binary64.nearest ((0 : ℕ) / 100 : ℚ) = 0 := by
      rw [Nat.cast_zero, zero_div]
      exact_mod_cast Binary64.nearest_natCast (n := 0) (by norm_num)
    rw [hzero]
    norm_num
  · have hq : (0 : ℚ) < n / 100 := by positivity
    have hlt : (n / 100 : ℚ) < 2 ^ 46 := by
      have : (n : ℚ) < 2 ^ 52 := by exact_mod_cast h
      rw [div_lt_iff₀ (by norm_num)]
      exact this.trans (by norm_num)
    -- a unit in the last place is 2 ^ (-7) at most
    have hulp : Binary64.ulp (n / 100 : ℚ) ≤ 2 ^ ((46 : ℤ) - 53) := Binary64.ulp_le (k := 46) hlt hq
    rw [show (2 : ℚ) ^ ((46 : ℤ) - 53) = 1 / 128 by norm_num] at hulp
    refine (Binary64.abs_nearest_sub_le (n / 100 : ℚ)).trans ?_
    linarith

theorem not_overflows_hundredth (h : n < 2 ^ 52) : ¬ Binary64.Overflows (n / 100 : ℚ) := by
  have hn : (n : ℚ) < 2 ^ 52 := by exact_mod_cast h
  have hnonneg : (0 : ℚ) ≤ n / 100 := by positivity
  obtain ⟨-, hr⟩ := abs_le.mp (nearest_hundredth h)
  rw [Binary64.Overflows, abs_of_nonneg (Binary64.nearest_nonneg hnonneg), not_le]
  calc Binary64.nearest (n / 100 : ℚ) ≤ n / 100 + 1 / 256 := by linarith
    _ < 2 ^ 52 := by linarith
    _ < 2 ^ 1024 := pow_lt_pow_right₀ one_lt_two (by norm_num)

/-- **An amount below 2^52 cents is printed exactly.** -/
theorem fixed2_hundredth {cents : ℤ} (h : cents.natAbs < 2 ^ 52) :
    (PyFloat.hundredth cents).map PyFloat.fixed2 =
      .ok ((if cents < 0 then "-" else "") ++ dollars cents.natAbs) := by
  have hover := not_overflows_hundredth h
  obtain ⟨hl, hr⟩ := abs_le.mp (nearest_hundredth h)
  have hround : roundEven (Binary64.nearest (cents.natAbs / 100 : ℚ) * 100) =
      (cents.natAbs : ℤ) := by
    refine roundEven_eq ?_ ?_
    · rw [Int.cast_natCast]
      linarith
    · rw [Int.cast_natCast]
      linarith
  rw [PyFloat.hundredth, if_neg hover, Except.map, PyFloat.nearest, dif_neg hover, PyFloat.fixed2]
  rw [hround, Int.toNat_natCast, dollars]
  by_cases hneg : cents < 0
  · simp [hneg, String.append_assoc]
  · simp [hneg, String.append_assoc]

end Floats

/-! ## Reading it back -/

section Reading

variable {n : ℕ}

/-- The characters of an amount. -/
theorem toList_dollars (n : ℕ) :
    (dollars n).toList = Nat.toDigits 10 (n / 100) ++ '.' :: padded 2 (n % 100) := by
  simp [dollars]

/-- The number that digits write. -/
theorem digitsValue_eq (l : List Char) : PyDecimal.digitsValue l = value l := by
  induction l using List.reverseRecOn with
  | nil => rfl
  | append_singleton l c ih =>
      have hlast : value [c] = c.toNat - 48 := by
        change 10 * 0 + (c.toNat - 48) = _
        omega
      rw [value_append, hlast, ← ih, PyDecimal.digitsValue, List.map_append, List.reverse_append]
      change (c.toNat - 48) + 10 * PyDecimal.digitsValue l = _
      rw [List.length_singleton, pow_one]
      omega

/-- The digits before and after the point. -/
theorem value_dollars (n : ℕ) :
    value (Nat.toDigits 10 (n / 100) ++ padded 2 (n % 100)) = n := by
  have hlength : (padded 2 (n % 100)).length = 2 := length_padded (by omega) (by decide)
  rw [value_append, value_toDigits, value_padded, hlength]
  omega

/-- A character of an amount. -/
theorem mem_dollars {c : Char} (h : c ∈ (dollars n).toList) : c.isDigit = true ∨ c = '.' := by
  rw [toList_dollars, List.mem_append, List.mem_cons] at h
  rcases h with h | rfl | h
  · exact .inl (isDigit_toDigits h)
  · exact .inr rfl
  · exact .inl (isDigit_padded h)

theorem toNat_of_mem_dollars {c : Char} (h : c ∈ (dollars n).toList) :
    c = '.' ∨ 48 ≤ c.toNat ∧ c.toNat ≤ 57 :=
  (mem_dollars h).symm.imp_right Char.isDigit_iff_toNat.mp

/-- The constructor reads the characters as they are. -/
theorem ascii_dollars (n : ℕ) : PyDecimal.ascii (dollars n).toList = some (dollars n).toList := by
  have hfilter : (dollars n).toList.filter (· ≠ '_') = (dollars n).toList := by
    refine List.filter_eq_self.mpr fun c hc ↦ ?_
    rw [decide_eq_true_eq]
    rintro rfl
    rcases toNat_of_mem_dollars hc with h | h
    · exact absurd h (by decide)
    · exact absurd h.2 (by decide)
  have hmap (l : List Char) (hl : ∀ c ∈ l, 0 < c.toNat ∧ c.toNat < 128) :
      (l.mapM fun c ↦ if 0 < c.toNat ∧ c.toNat < 128 then some c
        else if PyStr.isSpace c then some ' '
        else (PyStr.decimalValue c).map fun d ↦ Char.ofNat (48 + d)) = some l := by
    induction l with
    | nil => rfl
    | cons c l ih =>
        rw [List.mapM_cons, if_pos (hl c (.head _)), ih fun d hd ↦ hl d (List.mem_cons_of_mem _ hd)]
        rfl
  rw [PyDecimal.ascii, hfilter]
  refine hmap _ fun c hc ↦ ?_
  rcases toNat_of_mem_dollars hc with rfl | h
  · decide
  · omega

theorem not_isSpace_of_mem_dollars {c : Char} (h : c ∈ (dollars n).toList) :
    PyStr.isSpace c = false := by
  rcases toNat_of_mem_dollars h with rfl | h
  · decide
  · simp only [PyStr.isSpace, Bool.or_eq_false_iff, Bool.and_eq_false_iff, decide_eq_false_iff_not,
      beq_eq_false_iff_ne]
    omega

/-- There is nothing to strip from an amount. -/
theorem strip_dollars (n : ℕ) : PyStr.strip (dollars n) = dollars n := by
  have hdrop (l : List Char) (hl : ∀ c ∈ l, PyStr.isSpace c = false) :
      l.dropWhile PyStr.isSpace = l := by
    cases l with
    | nil => rfl
    | cons c l =>
        exact List.dropWhile_cons_of_neg (by rw [hl c (.head _)]; exact Bool.false_ne_true)
  have hspace : ∀ c ∈ (dollars n).toList, PyStr.isSpace c = false :=
    fun c ↦ not_isSpace_of_mem_dollars
  rw [PyStr.strip, hdrop _ hspace, hdrop _ fun c hc ↦ hspace c (List.mem_reverse.mp hc),
    List.reverse_reverse, String.ofList_toList]

/-- Digits before a point. -/
theorem takeWhile_point {l : List Char} (l' : List Char) (hl : ∀ c ∈ l, c.isDigit = true) :
    (l ++ '.' :: l').takeWhile PyDecimal.isDigit = l ∧
      (l ++ '.' :: l').dropWhile PyDecimal.isDigit = '.' :: l' := by
  have hl : ∀ c ∈ l, PyDecimal.isDigit c = true := hl
  have hdot : ¬ PyDecimal.isDigit '.' = true := Bool.false_ne_true
  constructor
  · rw [List.takeWhile_append_of_pos hl, List.takeWhile_cons_of_neg hdot, List.append_nil]
  · rw [List.dropWhile_append_of_pos hl, List.dropWhile_cons_of_neg hdot]

/-- An amount has the digits of its cents, and two of them are decimals. -/
theorem parseNumber_dollars (h : n < 10 ^ 26) :
    PyDecimal.parseNumber false (dollars n).toList = some (.finite ⟨n, -2⟩) := by
  obtain ⟨htake, hdrop⟩ :=
    takeWhile_point (padded 2 (n % 100)) fun c (hc : c ∈ Nat.toDigits 10 (n / 100)) ↦
      isDigit_toDigits hc
  have hpart : ∀ c ∈ padded 2 (n % 100), PyDecimal.isDigit c = true := fun c ↦ isDigit_padded
  have hlength : (padded 2 (n % 100)).length = 2 := length_padded (by omega) (by decide)
  have hfits : PyDecimal.fitsExactly ⟨n, -2⟩ = true := by
    have hlog : Nat.log 10 n ≤ 26 := (Nat.log_mono_right h.le).trans_eq (Nat.log_pow (by decide) 26)
    rw [PyDecimal.fitsExactly, Bool.and_eq_true, decide_eq_true_eq, decide_eq_true_eq,
      Int.natAbs_natCast]
    dsimp only
    omega
  rw [PyDecimal.parseNumber, toList_dollars, htake, hdrop]
  simp only [List.takeWhile_eq_self_iff.mpr hpart, List.dropWhile_eq_nil_iff.mpr hpart]
  rw [if_neg (by simp [Nat.toDigits_ne_nil]), digitsValue_eq, value_dollars, hlength]
  change (if PyDecimal.fitsExactly ⟨n, -2⟩ = true then _ else _) = _
  rw [if_pos hfits, if_neg Bool.false_ne_true]
  rfl

/-- A digit is no letter. -/
theorem toLower_digit {c : Char} (h : c.isDigit = true) : c.toLower = c := by
  refine dif_neg fun hupper ↦ ?_
  have hle : 'A'.toNat ≤ c.toNat := UInt32.le_iff_toNat_le.mp hupper.1
  exact absurd (hle.trans (Char.isDigit_iff_toNat.mp h).2) (by decide)

/-- **The constructor reads what is printed.** -/
theorem parse_dollars (h : n < 10 ^ 26) :
    PyDecimal.parse (dollars n) = some (.finite ⟨n, -2⟩) := by
  have hnumber := parseNumber_dollars h
  rw [PyDecimal.parse, strip_dollars, ascii_dollars, Option.bind_eq_bind, Option.bind_some]
  cases hcs : (dollars n).toList with
  | nil =>
      rw [toList_dollars] at hcs
      exact absurd hcs (by simp)
  | cons c cs =>
      -- the first character is a digit, and so neither a sign nor a letter
      have hc : c.isDigit = true := by
        rw [toList_dollars] at hcs
        have hhead := congrArg List.head? hcs
        rw [List.head?_append_of_ne_nil _ Nat.toDigits_ne_nil, List.head?_cons] at hhead
        exact isDigit_toDigits (List.mem_of_mem_head? hhead)
      have hne (d : Char) (hd : d.isDigit = false) : c ≠ d := by
        rintro rfl
        rw [hc] at hd
        cases hd
      have hsign : PyDecimal.splitSign (c :: cs) = (false, c :: cs) := by
        unfold PyDecimal.splitSign
        split
        · next heq => exact absurd (List.cons.inj heq).1 (hne '-' rfl)
        · next heq => exact absurd (List.cons.inj heq).1 (hne '+' rfl)
        · rfl
      have hlower : PyDecimal.lower (c :: cs) = c :: PyDecimal.lower cs := by
        rw [PyDecimal.lower, List.map_cons, toLower_digit hc]
        rfl
      rw [hsign]
      dsimp only
      rw [hlower, if_neg, if_neg, if_neg, ← hcs, hnumber]
      · exact fun heq ↦ hne 's' rfl (List.cons.inj heq.1).1
      · exact fun heq ↦ hne 'n' rfl (List.cons.inj heq.1).1
      · rintro (heq | heq)
        · exact hne 'i' rfl (List.cons.inj heq).1
        · exact hne 'i' rfl (List.cons.inj heq).1

/-- **The cents of an amount.** -/
theorem cents_dollars (h : n < 10 ^ 26) : (PyDecimal.finite ⟨n, -2⟩).cents = .ok n := by
  have hprecise : (⟨n, -2⟩ : Decimal).Precise :=
    ⟨n, 0, h.trans (by decide), by rw [pow_zero, mul_one]⟩
  have hvalue : PyDecimal.hundredfold ⟨n, -2⟩ = (n : Int) := by
    rw [PyDecimal.hundredfold, Decimal.toRat_mul_hundred hprecise, Decimal.toRat]
    have hexp : (10 : ℚ) ^ (-2 : Int) * 100 = 1 := by norm_num
    rw [mul_assoc, hexp, mul_one]
  rw [PyDecimal.cents_eq_ok_iff (Int.natCast_nonneg n), hvalue, round_intCast]
  refine ⟨rfl, ?_⟩
  have hlt : (n : Int) < 10 ^ 26 := by exact_mod_cast h
  exact hlt.trans (by decide)

end Reading

end HightowerPos
