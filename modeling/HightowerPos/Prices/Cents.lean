import HightowerPos.Python.DecimalText

/-!
# The cents of a price

`int((price * 100).quantize(Decimal("1"), rounding=ROUND_HALF_UP))` rounds the product half up
(`cents_eq_ok_iff`), and the product is exact for a price of 28 significant digits
(`toRat_mul_hundred`).
-/

namespace HightowerPos

namespace Decimal

/-- The number has at most 28 significant digits: the others are zeros at its end. -/
def Precise (x : Decimal) : Prop :=
  ∃ (c : Int) (k : Nat), c.natAbs < 10 ^ precision ∧ x.coeff = c * 10 ^ k

theorem toRat_nonneg_iff {x : Decimal} : 0 ≤ x.toRat ↔ 0 ≤ x.coeff := by
  have hten : (0 : ℚ) < 10 ^ x.exp := zpow_pos (by norm_num) _
  rw [toRat, mul_nonneg_iff_of_pos_right hten, Int.cast_nonneg_iff]

/-! ## The product -/

/-- Digits that are zeros are dropped without a loss. -/
theorem toRat_round_of_dvd {x : Decimal} (h : (10 : Int) ^ excess x.coeff ∣ x.coeff) :
    (round x).toRat = x.toRat := by
  by_cases hk : excess x.coeff = 0
  · unfold round
    simp only [hk, if_true]
  · obtain ⟨c, hc⟩ := h
    have hpos : (10 : ℚ) ^ excess x.coeff ≠ 0 := by positivity
    have hquot : (x.coeff : ℚ) / (10 ^ excess x.coeff : ℕ) = c := by
      rw [div_eq_iff (by exact_mod_cast hpos)]
      have hcast : (x.coeff : ℚ) = ((10 ^ excess x.coeff * c : Int) : ℚ) := congrArg _ hc
      rw [hcast]
      push_cast
      ring
    rw [toRat_round hk, hquot, roundEven_intCast, zpow_add₀ (by norm_num : (10 : ℚ) ≠ 0), toRat,
      mul_comm ((10 : ℚ) ^ x.exp), ← mul_assoc, zpow_natCast]
    congr 1
    rw [eq_comm, ← div_eq_iff hpos, ← hquot]
    push_cast
    rfl

/-- **A price of 28 significant digits is multiplied without a loss.** -/
theorem toRat_mul_hundred {x : Decimal} (h : x.Precise) :
    (x.mul (ofInt 100)).toRat = x.toRat * 100 := by
  obtain ⟨c, k, hc, hx⟩ := h
  have hcoeff : x.coeff * 100 = c * 10 ^ (k + 2) := by
    rw [hx, pow_add, mul_assoc]
    rfl
  have hexcess : excess (x.coeff * 100) ≤ k + 2 := by
    unfold excess
    rw [hcoeff, Int.natAbs_mul, Int.natAbs_pow]
    by_cases hzero : c.natAbs = 0
    · rw [hzero, Nat.zero_mul, Nat.log_zero_right]
      exact (Nat.sub_eq_zero_of_le (by decide)).trans_le (Nat.zero_le _)
    · have hlog : Nat.log 10 c.natAbs < precision := Nat.log_lt_of_lt_pow hzero hc
      have hshift : Nat.log 10 (c.natAbs * 10 ^ (k + 2)) = Nat.log 10 c.natAbs + (k + 2) := by
        generalize k + 2 = j
        induction j with
        | zero => rw [pow_zero, mul_one, add_zero]
        | succ j ih =>
            rw [pow_succ, ← mul_assoc, Nat.log_mul_base (by decide) (by positivity), ih]
            rfl
      change Nat.log 10 (c.natAbs * 10 ^ (k + 2)) + 1 - precision ≤ k + 2
      rw [hshift]
      omega
  have hdvd : (10 : Int) ^ excess (x.coeff * 100) ∣ x.coeff * 100 := by
    conv_rhs => rw [hcoeff]
    exact Dvd.dvd.mul_left (pow_dvd_pow 10 hexcess) c
  unfold mul
  rw [toRat_round_of_dvd (x := ⟨x.coeff * (ofInt 100).coeff, x.exp + (ofInt 100).exp⟩) hdvd]
  simp only [toRat, ofInt, add_zero]
  push_cast
  ring

theorem coeff_mul_nonneg {x y : Decimal} (hx : 0 ≤ x.coeff) (hy : 0 ≤ y.coeff) :
    0 ≤ (x.mul y).coeff := by
  have hprod : (0 : ℚ) ≤ ((x.coeff * y.coeff : Int) : ℚ) := by exact_mod_cast mul_nonneg hx hy
  rw [← toRat_nonneg_iff, mul]
  by_cases hk : excess (x.coeff * y.coeff) = 0
  · unfold round
    simp only [hk, if_true]
    exact toRat_nonneg_iff.mpr (mul_nonneg hx hy)
  · rw [toRat_round (x := ⟨x.coeff * y.coeff, x.exp + y.exp⟩) hk]
    have hround := le_roundEven (n := 0) (x := ((x.coeff * y.coeff : Int) : ℚ) /
      (10 ^ excess (x.coeff * y.coeff) : ℕ)) (by
        rw [Int.cast_zero]
        exact div_nonneg hprod (Nat.cast_nonneg _))
    exact mul_nonneg (Int.cast_nonneg hround) (zpow_nonneg (by norm_num) _)

end Decimal

/-! ## Rounding -/

section Rounding

open Decimal (precision)

variable {x : Decimal}

theorem roundHalfUp_eq {n : Int} (hn : 0 ≤ n) {d : Nat} (hd : 0 < d) :
    Decimal.roundHalfUp n d = round ((n : ℚ) / d) := by
  have hdq : (d : ℚ) ≠ 0 := by exact_mod_cast hd.ne'
  have hsum : (n : ℚ) / d + 1 / 2 = ((2 * n.natAbs + d : ℕ) : ℚ) / ((2 * d : ℕ) : ℚ) := by
    have hcast : (n : ℚ) = (n.natAbs : ℚ) := by
      rw [Nat.cast_natAbs, abs_of_nonneg hn]
    rw [hcast]
    push_cast
    field_simp
  unfold Decimal.roundHalfUp
  rw [if_neg (by omega), round_eq, hsum, Rat.floor_natCast_div_natCast]
  rfl

/-- `quantize` rounds the value. -/
theorem quantizeHalfUp_eq (hx : 0 ≤ x.coeff) :
    x.quantizeHalfUp =
      if (round x.toRat).natAbs < 10 ^ precision then some (round x.toRat) else none := by
  obtain ⟨c, e⟩ := x
  unfold Decimal.quantizeHalfUp
  cases e with
  | ofNat e =>
      have hvalue : (⟨c, .ofNat e⟩ : Decimal).toRat = ((c * 10 ^ e : Int) : ℚ) := by
        simp [Decimal.toRat]
      simp only [hvalue, round_intCast]
  | negSucc e =>
      have hvalue : (⟨c, .negSucc e⟩ : Decimal).toRat = (c : ℚ) / (10 ^ (e + 1) : ℕ) := by
        simp [Decimal.toRat, zpow_negSucc, div_eq_mul_inv]
      rw [hvalue, ← roundHalfUp_eq hx (by positivity)]

/-- What overflows is far beyond 28 digits. -/
theorem le_toRat_of_overflows (hx : 0 ≤ x.coeff) (h : x.overflows = true) :
    10 ^ precision ≤ x.toRat := by
  unfold Decimal.overflows at h
  rw [Bool.and_eq_true, decide_eq_true_eq, decide_eq_true_eq] at h
  have hpow : (10 : ℚ) ^ Nat.log 10 x.coeff.natAbs ≤ x.coeff := by
    have hle := Nat.pow_log_le_self 10 (Int.natAbs_ne_zero.mpr h.1)
    have hcast : ((x.coeff.natAbs : Int) : ℚ) = x.coeff := by rw [Int.natAbs_of_nonneg hx]
    rw [← hcast]
    exact_mod_cast hle
  have hexp : (precision : Int) ≤ Nat.log 10 x.coeff.natAbs + x.exp := by
    have hemax : (precision : Int) ≤ Decimal.emax := by decide
    omega
  calc (10 : ℚ) ^ precision = 10 ^ (precision : Int) := (zpow_natCast _ _).symm
    _ ≤ 10 ^ (Nat.log 10 x.coeff.natAbs + x.exp) := zpow_le_zpow_right₀ (by norm_num) hexp
    _ = 10 ^ Nat.log 10 x.coeff.natAbs * 10 ^ x.exp := by
      rw [zpow_add₀ (by norm_num), zpow_natCast]
    _ ≤ x.toRat := mul_le_mul_of_nonneg_right hpow (zpow_nonneg (by norm_num) _)

end Rounding

/-! ## Cents -/

namespace PyDecimal

variable {d : Decimal} {n : Cents}

/-- The product, as the default context rounds it. -/
def hundredfold (d : Decimal) : ℚ := (d.mul (.ofInt 100)).toRat

theorem hundredfold_nonneg (hd : 0 ≤ d.coeff) : 0 ≤ hundredfold d :=
  Decimal.toRat_nonneg_iff.mpr (Decimal.coeff_mul_nonneg hd (by decide))

/-- **The cents of a price**: the product rounded half up, if it has no more than 28 digits. -/
theorem cents_eq_ok_iff (hd : 0 ≤ d.coeff) :
    (finite d).cents = .ok n ↔ n = round (hundredfold d) ∧ n < 10 ^ Decimal.precision := by
  have hcoeff := Decimal.coeff_mul_nonneg hd (y := .ofInt 100) (by decide)
  have hround : 0 ≤ round (hundredfold d) := by
    rw [round_eq]
    exact Int.floor_nonneg.mpr (add_nonneg (hundredfold_nonneg hd) (by norm_num))
  have hbound : (round (hundredfold d)).natAbs < 10 ^ Decimal.precision ↔
      round (hundredfold d) < 10 ^ Decimal.precision := by
    rw [← Int.ofNat_lt, Int.natAbs_of_nonneg hround]
    exact Iff.rfl
  unfold cents
  dsimp only
  split
  · next hover =>
      refine ⟨fun h ↦ (by cases h), ?_⟩
      rintro ⟨rfl, hlt⟩
      have hle : ((10 ^ Decimal.precision : Int) : ℚ) ≤ hundredfold d := by
        push_cast
        exact le_toRat_of_overflows hcoeff hover
      have hfloor : (10 ^ Decimal.precision : Int) ≤ round (hundredfold d) := by
        rw [round_eq]
        exact Int.le_floor.mpr (hle.trans (by norm_num))
      exact absurd hfloor (not_le.mpr hlt)
  · have hquantize : (d.mul (.ofInt 100)).quantizeHalfUp =
        if (round (hundredfold d)).natAbs < 10 ^ Decimal.precision then
          some (round (hundredfold d)) else none := quantizeHalfUp_eq hcoeff
    rw [hquantize]
    by_cases hlt : (round (hundredfold d)).natAbs < 10 ^ Decimal.precision
    · rw [if_pos hlt]
      constructor
      · intro h
        cases h
        exact ⟨rfl, hbound.mp hlt⟩
      · rintro ⟨rfl, -⟩
        rfl
    · rw [if_neg hlt]
      refine ⟨fun h ↦ (by cases h), ?_⟩
      rintro ⟨rfl, hsmall⟩
      exact absurd (hbound.mpr hsmall) hlt

/-- The cents are below a bound when the product is, by half a cent. -/
theorem cents_lt_iff (hd : 0 ≤ d.coeff) {bound : Int} (hbound : bound ≤ 10 ^ Decimal.precision) :
    (∃ n, (finite d).cents = .ok n ∧ n < bound) ↔ hundredfold d < bound - 1 / 2 := by
  have hround : round (hundredfold d) < bound ↔ hundredfold d < bound - 1 / 2 := by
    rw [round_eq, Int.floor_lt, lt_sub_iff_add_lt]
  rw [← hround]
  constructor
  · rintro ⟨n, hn, hlt⟩
    rwa [← ((cents_eq_ok_iff hd).mp hn).1]
  · intro hlt
    exact ⟨_, (cents_eq_ok_iff hd).mpr ⟨rfl, hlt.trans_le hbound⟩, hlt⟩

/-- **The amount times 100, rounded half up.** -/
theorem cents_of_precise (hd : 0 ≤ d.coeff) (hprecise : d.Precise) (h : (finite d).cents = .ok n) :
    n = round (d.toRat * 100) := by
  rw [((cents_eq_ok_iff hd).mp h).1, hundredfold, Decimal.toRat_mul_hundred hprecise]

end PyDecimal

end HightowerPos
