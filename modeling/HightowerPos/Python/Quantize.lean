import HightowerPos.Data.Rounding
import HightowerPos.Python.Decimal
import Mathlib.Data.Rat.Floor
import Mathlib.Tactic.FieldSimp
import Mathlib.Tactic.Positivity

/-!
# Decimals as rational numbers

The value of a decimal, and what the two roundings of `int((x * y).quantize(Decimal("1")))`
make of the exact product: the first one goes to 28 digits, a grid of integers or of
fractions that contains the halves, and the second one to an integer (`quantizeUnit_mul`).
-/

namespace HightowerPos

namespace Decimal

/-- The number. -/
def toRat (x : Decimal) : ℚ := x.coeff * 10 ^ x.exp

@[simp] theorem toRat_ofInt (n : Int) : (ofInt n).toRat = n := by simp [toRat, ofInt]

/-- Rounding a quotient of integers rounds the number. -/
theorem roundHalfEven_eq (n : Int) {d : Nat} (hd : 0 < d) :
    roundHalfEven n d = roundEven ((n : ℚ) / d) := by
  have hdq : (0 : ℚ) < d := by exact_mod_cast hd
  have hd₀ : (0 : Int) < d := by exact_mod_cast hd
  have hr₀ : 0 ≤ n % (d : Int) := Int.emod_nonneg n hd₀.ne'
  have hr₁ : n % (d : Int) < d := Int.emod_lt_of_pos n hd₀
  have hn : (n : ℚ) / d = ((n / (d : Int) : Int) : ℚ) + ((n % (d : Int) : Int) : ℚ) / d := by
    rw [eq_comm, ← mul_right_inj' hdq.ne', mul_add, mul_div_cancel₀ _ hdq.ne',
      mul_div_cancel₀ _ hdq.ne']
    exact_mod_cast Int.mul_ediv_add_emod n d
  generalize hq : n / (d : Int) = q at hn
  generalize hr : n % (d : Int) = r at hn hr₀ hr₁
  unfold roundHalfEven
  simp only [hq, hr]
  have hr₀q : (0 : ℚ) ≤ (r : ℚ) / d := by positivity
  have hr₁q : (r : ℚ) / d < 1 := by
    rw [div_lt_one hdq]
    exact_mod_cast hr₁
  by_cases hlow : 2 * r < d
  · have hlt : (r : ℚ) / d < 1 / 2 := by
      rw [div_lt_iff₀ hdq]
      have : (2 * r : ℚ) < d := by exact_mod_cast hlow
      linarith
    rw [if_pos hlow, hn]
    exact (roundEven_eq (by linarith) (by linarith)).symm
  · by_cases htie : 2 * r = d
    · have hhalf : (r : ℚ) / d = 1 / 2 := by
        rw [div_eq_iff hdq.ne']
        have : (2 * r : ℚ) = d := by exact_mod_cast htie
        linarith
      rw [if_neg hlow, hn, hhalf]
      rcases Int.emod_two_eq_zero_or_one q with he | ho
      · rw [if_pos ⟨htie, he⟩, roundEven_of_even he]
      · rw [if_neg (by omega), roundEven_of_odd ho]
    · have hgt : 1 / 2 < (r : ℚ) / d := by
        rw [lt_div_iff₀ hdq]
        have : (d : ℚ) < 2 * r := by exact_mod_cast (by omega : (d : Int) < 2 * r)
        linarith
      rw [if_neg hlow, if_neg (fun h ↦ htie h.1), hn, roundEven_eq]
      · push_cast
        linarith
      · push_cast
        linarith

/-- `10 ^ k` divides a number of which `10 ^ (k + m)` is the absolute value. -/
theorem natAbs_ten {c : Int} (h : c.natAbs = 10 ^ precision) : 10 * (c / 10) = c := by
  have hdvd : (10 : Int) ∣ c := by
    rw [← Int.natAbs_dvd_natAbs, h]
    exact dvd_pow_self 10 (by decide)
  exact Int.mul_ediv_cancel' hdvd

/-- The value after rounding to the precision. -/
theorem toRat_round {x : Decimal} (hk : excess x.coeff ≠ 0) :
    (round x).toRat = roundEven ((x.coeff : ℚ) / (10 ^ excess x.coeff : ℕ)) *
      10 ^ (x.exp + excess x.coeff) := by
  rw [← roundHalfEven_eq _ (by positivity)]
  unfold round
  simp only [hk, if_false]
  split
  · next hc =>
      simp only [toRat]
      rw [zpow_add_one₀ (by norm_num : (10 : ℚ) ≠ 0), mul_comm _ (10 : ℚ), ← mul_assoc]
      congr 1
      rw [mul_comm]
      exact_mod_cast natAbs_ten hc
  · rfl

/-- `quantize` rounds the value. -/
theorem quantizeUnit_eq (x : Decimal) :
    x.quantizeUnit = if (roundEven x.toRat).natAbs < 10 ^ precision then some (roundEven x.toRat)
      else none := by
  obtain ⟨c, e⟩ := x
  unfold quantizeUnit
  cases e with
  | ofNat e =>
      have hvalue : (⟨c, .ofNat e⟩ : Decimal).toRat = ((c * 10 ^ e : Int) : ℚ) := by
        simp [toRat]
      simp only [hvalue, roundEven_intCast]
  | negSucc e =>
      have hvalue : (⟨c, .negSucc e⟩ : Decimal).toRat = (c : ℚ) / (10 ^ (e + 1) : ℕ) := by
        simp [toRat, zpow_negSucc, div_eq_mul_inv]
      rw [hvalue, ← roundHalfEven_eq _ (by positivity)]

/-! ## The two roundings of a product -/

/-- A coefficient that is too long keeps all its digits but the excess. -/
theorem le_roundEven_excess {c : Int} (hk : excess c ≠ 0) :
    10 ^ (precision - 1) ≤ (roundEven ((c : ℚ) / (10 ^ excess c : ℕ))).natAbs := by
  have hpos : (0 : ℚ) < (10 ^ excess c : ℕ) := by positivity
  have hc : c.natAbs ≠ 0 := by
    intro h
    rw [excess, h] at hk
    exact hk rfl
  have hle : 10 ^ (precision - 1) * 10 ^ excess c ≤ c.natAbs := by
    rw [← pow_add]
    refine (Nat.pow_le_pow_right (by decide) ?_).trans (Nat.pow_log_le_self 10 hc)
    unfold excess at hk ⊢
    have : precision = 28 := rfl
    omega
  rcases le_total 0 c with hs | hs
  · have hpow : (((10 ^ (precision - 1) : ℕ) : Int) : ℚ) ≤ (c : ℚ) / (10 ^ excess c : ℕ) := by
      rw [le_div_iff₀ hpos]
      exact_mod_cast (by omega : ((10 ^ (precision - 1) * 10 ^ excess c : ℕ) : Int) ≤ c)
    have := le_roundEven hpow
    omega
  · have hpow : (c : ℚ) / (10 ^ excess c : ℕ) ≤ ((-(10 ^ (precision - 1) : ℕ) : Int) : ℚ) := by
      rw [div_le_iff₀ hpos]
      have hneg : c ≤ -((10 ^ (precision - 1) * 10 ^ excess c : ℕ) : Int) := by omega
      have hneg' : (c : ℚ) ≤ -(10 ^ (precision - 1) * 10 ^ excess c) := by exact_mod_cast hneg
      push_cast
      linarith
    have := roundEven_le hpow
    omega

/-- A product that is rounded to a coarser grid than the integers has too many digits. -/
theorem quantizeUnit_coarse {x : Decimal} (hk : excess x.coeff ≠ 0)
    (he : 0 < x.exp + excess x.coeff) : (round x).quantizeUnit = none := by
  obtain ⟨m, hm⟩ : ∃ m : ℕ, x.exp + excess x.coeff = ((m + 1 : ℕ) : Int) :=
    ⟨(x.exp + excess x.coeff - 1).toNat, by omega⟩
  have hvalue : (round x).toRat =
      ((roundEven ((x.coeff : ℚ) / (10 ^ excess x.coeff : ℕ)) * 10 ^ (m + 1) : Int) : ℚ) := by
    rw [toRat_round hk, hm, zpow_natCast]
    push_cast
    rfl
  rw [quantizeUnit_eq, hvalue, roundEven_intCast, if_neg]
  rw [Int.natAbs_mul, Int.natAbs_pow, not_lt]
  calc 10 ^ precision = 10 ^ (precision - 1) * 10 ^ 1 := rfl
    _ ≤ _ := Nat.mul_le_mul (le_roundEven_excess hk)
      (Nat.pow_le_pow_right (by decide) (by omega))

/-- A product of 28 digits at most is not rounded on the way. -/
theorem toRat_mul {x y : Decimal} (h : excess (x.coeff * y.coeff) = 0) :
    (mul x y).toRat = x.toRat * y.toRat := by
  unfold mul round
  simp only [h, if_true, toRat]
  rw [zpow_add₀ (by norm_num : (10 : ℚ) ≠ 0)]
  push_cast
  ring

end Decimal

/-- **A product that is rounded twice**: what is left of the exact one, rounded half up. -/
theorem quantizeUnit_mul {x y : Decimal} {n : Int} (h : (x.mul y).quantizeUnit = some n) :
    n = round (x.toRat * y.toRat) -
      (if TakenDown (x.toRat * y.toRat) (x.mul y).toRat then 1 else 0) +
      if TakenUp (x.toRat * y.toRat) (x.mul y).toRat then 1 else 0 := by
  have hten : (10 : ℚ) ≠ 0 := by norm_num
  have hexact : x.toRat * y.toRat = (⟨x.coeff * y.coeff, x.exp + y.exp⟩ : Decimal).toRat := by
    simp only [Decimal.toRat]
    rw [zpow_add₀ hten]
    push_cast
    ring
  rw [hexact]
  unfold Decimal.mul at h ⊢
  generalize (⟨x.coeff * y.coeff, x.exp + y.exp⟩ : Decimal) = z at h ⊢
  have hn : n = roundEven z.round.toRat := by
    rw [Decimal.quantizeUnit_eq] at h
    split at h
    · exact (Option.some.inj h).symm
    · cases h
  rw [hn]
  by_cases hk : Decimal.excess z.coeff = 0
  · have hsame : z.round = z := by
      unfold Decimal.round
      rw [if_pos hk]
    simp only [hsame, takenDown_self, not_takenUp_self, if_false, add_zero]
    exact roundEven_self _
  · have hz : (z.coeff : ℚ) / (10 ^ Decimal.excess z.coeff : ℕ) =
        z.toRat * 10 ^ (-(z.exp + Decimal.excess z.coeff)) := by
      rw [Decimal.toRat, neg_add, zpow_add₀ hten, mul_assoc, ← mul_assoc (10 ^ z.exp),
        ← zpow_add₀ hten, add_neg_cancel, zpow_zero, one_mul, zpow_neg, zpow_natCast,
        div_eq_mul_inv]
      push_cast
      rfl
    have hround := Decimal.toRat_round hk
    rw [hz] at hround
    obtain hpos | hzero | hneg := lt_trichotomy 0 (z.exp + Decimal.excess z.coeff)
    · rw [Decimal.quantizeUnit_coarse hk hpos] at h
      cases h
    · rw [← hzero, neg_zero, zpow_zero, mul_one, mul_one] at hround
      rw [hround, roundEven_intCast]
      exact roundEven_grid_one _
    · obtain ⟨m, hm⟩ : ∃ m : ℕ, -(z.exp + Decimal.excess z.coeff) = ((m + 1 : ℕ) : Int) :=
        ⟨(-(z.exp + Decimal.excess z.coeff) - 1).toNat, by omega⟩
      have hm' : z.exp + Decimal.excess z.coeff = -((m + 1 : ℕ) : Int) := by omega
      refine roundEven_grid z.toRat (N := 10 ^ (m + 1)) (by positivity) ?_ ?_
      · rw [pow_succ, Nat.mul_mod]
        simp
      · rw [hround, hm, hm', zpow_neg, zpow_natCast, div_eq_mul_inv]
        push_cast
        rfl

end HightowerPos
