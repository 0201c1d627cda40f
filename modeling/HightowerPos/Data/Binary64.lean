import HightowerPos.Data.Rounding
import Mathlib.Data.Int.Log
import Mathlib.Data.Rat.Floor
import Mathlib.Tactic.FieldSimp

/-!
# Binary64

The finite numbers of binary64 as rationals.  `Binary64.nearest` is the value that an operation
gives for an exact result, rounded to nearest with ties to even; it is a number of the format
unless it `Overflows`.
-/

namespace HightowerPos.Binary64

/-- The distance of the numbers of the format around `x`. -/
def ulp (x : ℚ) : ℚ := 2 ^ max (Int.log 2 |x| - 52) (-1074)

/-- The nearest number of the format. -/
def nearest (x : ℚ) : ℚ := roundEven (x / ulp x) * ulp x

/-- There is no finite number nearest to `x`. -/
def Overflows (x : ℚ) : Prop := 2 ^ 1024 ≤ |nearest x|

instance (x : ℚ) : Decidable (Overflows x) := inferInstanceAs (Decidable (_ ≤ _))

/-- `x` is a finite number of the format. -/
def IsBinary64 (x : ℚ) : Prop := nearest x = x ∧ |x| < 2 ^ 1024

instance (x : ℚ) : Decidable (IsBinary64 x) := inferInstanceAs (Decidable (_ ∧ _))

section

variable {x : ℚ} {n : ℤ} {k : ℕ}

theorem ulp_pos (x : ℚ) : 0 < ulp x := zpow_pos two_pos _

theorem abs_nearest_sub_le (x : ℚ) : |nearest x - x| ≤ ulp x / 2 := by
  have hpos := ulp_pos x
  have hx : x / ulp x * ulp x = x := div_mul_cancel₀ x hpos.ne'
  calc |nearest x - x| = |(roundEven (x / ulp x) : ℚ) - x / ulp x| * ulp x := by
        rw [← abs_of_pos hpos, ← abs_mul, sub_mul, abs_of_pos hpos, hx]
        rfl
    _ ≤ 1 / 2 * ulp x :=
        mul_le_mul_of_nonneg_right (nearestEven_roundEven _).near hpos.le
    _ = ulp x / 2 := by ring

/-- A multiple of the distance is a number of the format. -/
theorem nearest_of_grid (h : x = n * ulp x) : nearest x = x := by
  unfold nearest
  have hdiv : x / ulp x = n := by
    rw [div_eq_iff (ulp_pos x).ne']
    exact h
  rw [hdiv, roundEven_intCast, ← h]

/-- The numbers of the format are multiples of the distance. -/
theorem IsBinary64.grid (h : IsBinary64 x) : ∃ n : ℤ, x = n * ulp x :=
  ⟨roundEven (x / ulp x), h.1.symm⟩

/-- An upper bound on the distance. -/
theorem ulp_le (hk : x < 2 ^ k) (hx : 0 < x) : ulp x ≤ 2 ^ ((k : ℤ) - 53) := by
  have hlog : Int.log 2 x < (k : ℤ) :=
    (Int.lt_zpow_iff_log_lt one_lt_two hx).mp (by exact_mod_cast hk)
  unfold ulp
  rw [abs_of_pos hx]
  exact zpow_le_zpow_right₀ one_le_two (by omega)

/-- The distance in a binade of large numbers. -/
theorem ulp_eq (hl : 2 ^ (k + 52) ≤ x) (hr : x < 2 ^ (k + 53)) : ulp x = 2 ^ k := by
  have hx : 0 < x := lt_of_lt_of_le (by positivity) hl
  have hlow : ((k + 52 : ℕ) : ℤ) ≤ Int.log 2 x :=
    (Int.zpow_le_iff_le_log one_lt_two hx).mp (by exact_mod_cast hl)
  have hhigh : Int.log 2 x < ((k + 53 : ℕ) : ℤ) :=
    (Int.lt_zpow_iff_log_lt one_lt_two hx).mp (by exact_mod_cast hr)
  have hexponent : max (Int.log 2 x - 52) (-1074) = (k : ℤ) := by omega
  unfold ulp
  rw [abs_of_pos hx, hexponent, zpow_natCast]

/-- The integers of the format are multiples of the distance. -/
theorem IsBinary64.dvd (h : IsBinary64 (n : ℚ)) (hl : 2 ^ (k + 52) ≤ n) (hr : n < 2 ^ (k + 53)) :
    2 ^ k ∣ n := by
  obtain ⟨m, hm⟩ := h.grid
  rw [ulp_eq (by exact_mod_cast hl) (by exact_mod_cast hr)] at hm
  exact ⟨m, by rw [mul_comm]; exact_mod_cast hm⟩

/-- Small integers are numbers of the format. -/
theorem nearest_natCast {n : ℕ} (h : n < 2 ^ 53) : nearest (n : ℚ) = n := by
  rcases Nat.eq_zero_or_pos n with rfl | hpos
  · unfold nearest
    rw [Nat.cast_zero, zero_div]
    exact (congrArg (fun m : ℤ ↦ (m : ℚ) * ulp 0) (roundEven_intCast (K := ℚ) 0)).trans (by simp)
  · -- the distance is an inverse power of two
    have hlog : Int.log 2 (n : ℚ) < 53 :=
      (Int.lt_zpow_iff_log_lt one_lt_two (by exact_mod_cast hpos)).mp (by exact_mod_cast h)
    have hnonneg : 0 ≤ Int.log 2 (n : ℚ) := by
      rw [Int.log_natCast]
      exact Int.natCast_nonneg _
    obtain ⟨j, hj⟩ : ∃ j : ℕ, max (Int.log 2 (n : ℚ) - 52) (-1074) = -(j : ℤ) :=
      ⟨(52 - Int.log 2 (n : ℚ)).toNat, by omega⟩
    have hulp : ulp (n : ℚ) = (2 ^ j)⁻¹ := by
      unfold ulp
      rw [abs_of_nonneg (by positivity), hj, zpow_neg, zpow_natCast]
    refine nearest_of_grid (n := n * 2 ^ j) ?_
    rw [hulp]
    push_cast
    field_simp

/-- Rounding to an integer reaches the next power of two at most. -/
theorem natAbs_roundEven_le {k : ℕ} (h : |x| < 2 ^ k) : (roundEven x).natAbs ≤ 2 ^ k := by
  have hnear := (nearestEven_roundEven x).near
  have hlt : |(roundEven x : ℚ)| < 2 ^ k + 1 := by
    have htriangle := abs_sub_abs_le_abs_sub (roundEven x : ℚ) x
    linarith
  have hcast : ((roundEven x).natAbs : ℚ) < ((2 ^ k + 1 : ℕ) : ℚ) := by
    rw [Nat.cast_natAbs, Int.cast_abs, Nat.cast_add, Nat.cast_pow, Nat.cast_ofNat, Nat.cast_one]
    exact hlt
  exact Nat.lt_succ_iff.mp (Nat.cast_lt.mp hcast)

/-- A rounded number is not rounded again. -/
theorem nearest_nearest (x : ℚ) : nearest (nearest x) = nearest x := by
  rcases eq_or_ne (nearest x) 0 with hzero | hne
  · rw [hzero]
    exact nearest_natCast (n := 0) (by decide)
  set e := max (Int.log 2 |x| - 52) (-1074)
  set e' := max (Int.log 2 |nearest x| - 52) (-1074)
  set n := roundEven (x / ulp x)
  have hy : nearest x = n * 2 ^ e := rfl
  rcases le_or_gt e' e with hle | hgt
  · -- the distance around the result divides that around `x`
    refine nearest_of_grid (n := n * 2 ^ (e - e').toNat) ?_
    have hpow : (2 : ℚ) ^ e = 2 ^ (e - e').toNat * 2 ^ e' := by
      rw [← zpow_natCast, ← zpow_add₀ two_ne_zero, Int.toNat_of_nonneg (sub_nonneg.mpr hle),
        sub_add_cancel]
    rw [Int.cast_mul, Int.cast_pow, Int.cast_ofNat, mul_assoc]
    show nearest x = n * (2 ^ (e - e').toNat * 2 ^ e')
    rw [← hpow, hy]
  · -- the result is the next power of two
    have habs : |nearest x| = n.natAbs * 2 ^ e := by
      have hpos : (0 : ℚ) < 2 ^ e := zpow_pos two_pos e
      rw [hy, abs_mul, abs_of_pos hpos, Nat.cast_natAbs, Int.cast_abs]
    have hupper : n.natAbs ≤ 2 ^ 53 := by
      refine natAbs_roundEven_le ?_
      rw [abs_div, abs_of_pos (ulp_pos x), div_lt_iff₀ (ulp_pos x)]
      show |x| < 2 ^ 53 * 2 ^ e
      calc |x| < 2 ^ (Int.log 2 |x| + 1) := Int.lt_zpow_succ_log_self one_lt_two _
        _ ≤ 2 ^ (53 + e) := zpow_le_zpow_right₀ one_le_two (by omega)
        _ = 2 ^ 53 * 2 ^ e := zpow_add₀ two_ne_zero 53 e
    have hlower : 2 ^ 53 ≤ n.natAbs := by
      have hle : (2 : ℚ) ^ 53 * 2 ^ e ≤ n.natAbs * 2 ^ e := by
        calc (2 : ℚ) ^ 53 * 2 ^ e = 2 ^ (53 + e) := (zpow_add₀ two_ne_zero 53 e).symm
          _ ≤ 2 ^ Int.log 2 |nearest x| := zpow_le_zpow_right₀ one_le_two (by omega)
          _ ≤ |nearest x| := Int.zpow_log_le_self one_lt_two (abs_pos.mpr hne)
          _ = n.natAbs * 2 ^ e := habs
      exact_mod_cast le_of_mul_le_mul_right hle (zpow_pos two_pos e)
    have hn : n.natAbs = 2 ^ 53 := le_antisymm hupper hlower
    have hlog : e' = e + 1 := by
      have hpow : |nearest x| = ((2 : ℕ) : ℚ) ^ (53 + e) := by
        rw [habs, hn, Nat.cast_ofNat, zpow_add₀ two_ne_zero]
        norm_num
      have hlog : Int.log 2 |nearest x| = 53 + e := by
        rw [hpow]
        exact Int.log_zpow one_lt_two _
      omega
    refine nearest_of_grid (n := n / 2) ?_
    have heven : n = n / 2 * 2 := by omega
    have hstep : (2 : ℚ) ^ e' = 2 * 2 ^ e := by rw [hlog, zpow_add₀ two_ne_zero, zpow_one, mul_comm]
    show nearest x = (n / 2 : ℤ) * 2 ^ e'
    rw [hstep, ← mul_assoc, hy]
    congr 1
    exact_mod_cast heven

/-- **What an operation gives is a number of the format.** -/
theorem isBinary64_nearest (h : ¬ Overflows x) : IsBinary64 (nearest x) :=
  ⟨nearest_nearest x, not_le.mp h⟩

theorem nearest_nonneg (h : 0 ≤ x) : 0 ≤ nearest x := by
  have hpos := ulp_pos x
  have hquotient : ((0 : ℤ) : ℚ) ≤ x / ulp x := by
    rw [Int.cast_zero]
    exact div_nonneg h hpos.le
  exact mul_nonneg (Int.cast_nonneg (le_roundEven hquotient)) hpos.le

/-- The nearest number is not on the other side of an integer, where the distance is 1 at most. -/
theorem le_nearest (hn : (n : ℚ) ≤ x) (hx : 0 < x) (hk : x < 2 ^ 53) : (n : ℚ) ≤ nearest x := by
  have hlog : Int.log 2 x < 53 := (Int.lt_zpow_iff_log_lt one_lt_two hx).mp (by exact_mod_cast hk)
  obtain ⟨j, hj⟩ : ∃ j : ℕ, max (Int.log 2 x - 52) (-1074) = -(j : ℤ) :=
    ⟨(-max (Int.log 2 x - 52) (-1074)).toNat, by omega⟩
  have hulp : ulp x = (2 ^ j)⁻¹ := by
    unfold ulp
    rw [abs_of_pos hx, hj, zpow_neg, zpow_natCast]
  have hgrid : ((n * 2 ^ j : ℤ) : ℚ) ≤ x / ulp x := by
    rw [hulp, div_inv_eq_mul]
    push_cast
    exact mul_le_mul_of_nonneg_right hn (by positivity)
  calc (n : ℚ) = ((n * 2 ^ j : ℤ) : ℚ) * ulp x := by
        rw [hulp]
        push_cast
        field_simp
    _ ≤ nearest x :=
        mul_le_mul_of_nonneg_right (by exact_mod_cast le_roundEven hgrid) (ulp_pos x).le

/-- **Truncation after rounding**: it is that of the exact result, unless that lies within half
the distance below an integer. -/
theorem floor_nearest (hx : 0 < x) (hk : x < 2 ^ 53) (h : ulp x / 2 < ⌊x⌋ + 1 - x) :
    ⌊nearest x⌋ = ⌊x⌋ := by
  rw [Int.floor_eq_iff]
  refine ⟨le_nearest (Int.floor_le x) hx hk, ?_⟩
  have hnear := (abs_le.mp (abs_nearest_sub_le x)).2
  linarith

end

end HightowerPos.Binary64
