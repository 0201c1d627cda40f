import Mathlib.Algebra.Order.Round
import Mathlib.Algebra.Order.Ring.Int
import Mathlib.Tactic.Linarith
import Mathlib.Tactic.Ring

/-!
# Two ways to round a half

Mathlib's `round` takes a half up.  `roundEven` takes it to the even neighbour, and is often
applied to a number that was rounded before, to a finer grid.  The two results differ by one
at most, and `roundEven_grid` says where: at a half above an even integer that is either
exact (or reached from above), which `roundEven` takes down, and at a half above an odd
integer that the first rounding has only just reached, which it takes up.
-/

namespace HightowerPos

variable {K : Type} [Field K] [LinearOrder K] [IsStrictOrderedRing K] [FloorRing K]

/-- `x` is a half above an even integer. -/
def EvenHalf (x : K) : Prop := Int.fract x = 1 / 2 ∧ ⌊x⌋ % 2 = 0

/-- `x` is a half above an odd integer. -/
def OddHalf (x : K) : Prop := Int.fract x = 1 / 2 ∧ ⌊x⌋ % 2 = 1

instance (x : K) : Decidable (EvenHalf x) := inferInstanceAs (Decidable (_ ∧ _))

instance (x : K) : Decidable (OddHalf x) := inferInstanceAs (Decidable (_ ∧ _))

/-- Round to the nearest integer, a half to the even one. -/
def roundEven (x : K) : ℤ := if EvenHalf x then ⌊x⌋ else round x

/-- `x` was first rounded to `y`: rounding `y` gives less than rounding `x` half up. -/
def TakenDown (x y : K) : Prop := EvenHalf x ∨ EvenHalf y ∧ y < x

/-- The same, when it gives more. -/
def TakenUp (x y : K) : Prop := OddHalf y ∧ x < y

instance (x y : K) : Decidable (TakenDown x y) := inferInstanceAs (Decidable (_ ∨ _))

instance (x y : K) : Decidable (TakenUp x y) := inferInstanceAs (Decidable (_ ∧ _))

section Half

variable {x : K} {n : ℤ}

theorem fract_add_half (n : ℤ) : Int.fract (n + 1 / 2 : K) = 1 / 2 := by
  rw [Int.fract_intCast_add, Int.fract_eq_self]
  constructor <;> norm_num

theorem floor_add_half (n : ℤ) : ⌊(n + 1 / 2 : K)⌋ = n := by
  rw [Int.floor_intCast_add, add_eq_left, Int.floor_eq_zero_iff]
  constructor <;> norm_num

omit [IsStrictOrderedRing K] in
/-- A half is its floor and a half. -/
theorem eq_of_fract (h : Int.fract x = 1 / 2) : x = ⌊x⌋ + 1 / 2 := by
  rw [← h, Int.floor_add_fract]

theorem evenHalf_iff : EvenHalf x ↔ ∃ q : ℤ, q % 2 = 0 ∧ x = q + 1 / 2 := by
  constructor
  · rintro ⟨hf, he⟩
    exact ⟨⌊x⌋, he, eq_of_fract hf⟩
  · rintro ⟨q, he, rfl⟩
    exact ⟨fract_add_half q, by rw [floor_add_half]; exact he⟩

theorem oddHalf_iff : OddHalf x ↔ ∃ q : ℤ, q % 2 = 1 ∧ x = q + 1 / 2 := by
  constructor
  · rintro ⟨hf, ho⟩
    exact ⟨⌊x⌋, ho, eq_of_fract hf⟩
  · rintro ⟨q, ho, rfl⟩
    exact ⟨fract_add_half q, by rw [floor_add_half]; exact ho⟩

theorem round_add_half (n : ℤ) : round (n + 1 / 2 : K) = n + 1 := by
  rw [round_eq_iff]
  constructor
  · push_cast
    linarith
  · push_cast
    linarith

theorem roundEven_of_even (h : n % 2 = 0) : roundEven (n + 1 / 2 : K) = n := by
  have heven : EvenHalf (n + 1 / 2 : K) := evenHalf_iff.mpr ⟨n, h, rfl⟩
  rw [roundEven, if_pos heven, floor_add_half]

theorem roundEven_of_odd (h : n % 2 = 1) : roundEven (n + 1 / 2 : K) = n + 1 := by
  have hnot : ¬ EvenHalf (n + 1 / 2 : K) := by
    rintro ⟨-, he⟩
    rw [floor_add_half] at he
    omega
  rw [roundEven, if_neg hnot, round_add_half]

/-- Away from a half there is one nearest integer. -/
theorem roundEven_eq (hl : (n - 1 / 2 : K) < x) (hr : x < n + 1 / 2) : roundEven x = n := by
  have hround : round x = n := round_eq_iff.mpr ⟨hl.le, hr⟩
  have hnot : ¬ EvenHalf x := by
    rw [evenHalf_iff]
    rintro ⟨q, -, rfl⟩
    rw [round_add_half] at hround
    subst hround
    push_cast at hl hr
    linarith
  rw [roundEven, if_neg hnot, hround]

@[simp] theorem roundEven_intCast (n : ℤ) : roundEven (n : K) = n :=
  roundEven_eq (by linarith) (by linarith)

end Half

/-! ## Rounding stays between integers -/

section Bounds

variable {x : K} {n : ℤ}

theorem floor_le_roundEven (x : K) : ⌊x⌋ ≤ roundEven x := by
  unfold roundEven
  split
  · exact le_refl _
  · rw [round_eq]
    exact Int.floor_le_floor (by linarith)

theorem roundEven_le_ceil (x : K) : roundEven x ≤ ⌈x⌉ := by
  unfold roundEven
  split
  · exact Int.floor_le_ceil x
  · have hle := round_le_add_half x
    have hlt : ((round x : ℤ) : K) < ⌈x⌉ + 1 := by
      have := Int.le_ceil x
      linarith
    exact Int.lt_add_one_iff.mp (by exact_mod_cast hlt)

theorem le_roundEven (h : (n : K) ≤ x) : n ≤ roundEven x :=
  (Int.le_floor.mpr h).trans (floor_le_roundEven x)

theorem roundEven_le (h : x ≤ (n : K)) : roundEven x ≤ n :=
  (roundEven_le_ceil x).trans (Int.ceil_le.mpr h)

end Bounds

/-! ## The nearest integer -/

/-- `n` is an integer nearest to `x`, and even where there are two. -/
structure NearestEven (x : K) (n : ℤ) : Prop where
  near : |(n : K) - x| ≤ 1 / 2
  tie : |(n : K) - x| = 1 / 2 → Even n

section Nearest

variable {x y : K}

theorem nearestEven_roundEven (x : K) : NearestEven x (roundEven x) := by
  by_cases heven : EvenHalf x
  · obtain ⟨q, hq, rfl⟩ := evenHalf_iff.mp heven
    rw [roundEven_of_even hq]
    refine ⟨?_, fun _ ↦ Int.even_iff.mpr hq⟩
    rw [sub_add_cancel_left, abs_neg, abs_of_pos (by norm_num)]
  · have hround : roundEven x = round x := if_neg heven
    rw [hround]
    refine ⟨?_, fun htie ↦ ?_⟩
    · rw [abs_sub_comm]
      exact abs_sub_round x
    · -- a tie that `round` takes up is one above an odd integer
      obtain ⟨hlow, hhigh⟩ := round_eq_iff.mp (rfl : round x = round x)
      have hx : x = ((round x - 1 : ℤ) : K) + 1 / 2 := by
        rcases abs_choice ((round x : K) - x) with h | h
        · rw [h] at htie
          push_cast
          linarith
        · rw [h] at htie
          linarith
      by_contra hodd
      refine heven (evenHalf_iff.mpr ⟨round x - 1, ?_, hx⟩)
      rw [Int.even_iff] at hodd
      omega

/-- There is one such integer, and more is never less. -/
theorem NearestEven.le {m n : ℤ} (hm : NearestEven x m) (hn : NearestEven y n) (h : x ≤ y) :
    m ≤ n := by
  by_contra hlt
  have hmn : (n : K) + 1 ≤ m := by exact_mod_cast not_le.mp hlt
  have hx := abs_le.mp hm.near
  have hy := abs_le.mp hn.near
  -- both are half an integer away from one number
  have hxm : (m : K) - x = 1 / 2 := by linarith
  have hny : (n : K) - y = -(1 / 2) := by linarith
  have hme := hm.tie (by rw [hxm, abs_of_pos (by norm_num)])
  have hne := hn.tie (by rw [hny, abs_neg, abs_of_pos (by norm_num)])
  have hsucc : m = n + 1 := by
    have : (m : K) = ((n + 1 : ℤ) : K) := by
      push_cast
      linarith
    exact_mod_cast this
  rw [Int.even_iff] at hme hne
  omega

end Nearest

/-! ## A number that was rounded before -/

section Grid

variable {x y : K}

/-- Rounding an exact number: half up and to even differ at the halves above an even
integer. -/
theorem roundEven_self (x : K) : roundEven x = round x - if EvenHalf x then 1 else 0 := by
  unfold roundEven
  split
  · next h =>
      obtain ⟨q, -, rfl⟩ := evenHalf_iff.mp h
      rw [floor_add_half, round_add_half]
      ring
  · ring

omit [IsStrictOrderedRing K] in
theorem not_takenUp_self (x : K) : ¬ TakenUp x x := fun h ↦ lt_irrefl _ h.2

omit [IsStrictOrderedRing K] in
theorem takenDown_self (x : K) : TakenDown x x ↔ EvenHalf x :=
  ⟨fun h ↦ h.elim id fun h ↦ absurd h.2 (lt_irrefl _), .inl⟩

/-- An integer is no half. -/
theorem not_evenHalf_intCast (n : ℤ) : ¬ EvenHalf (n : K) := by
  rintro ⟨h, -⟩
  rw [Int.fract_intCast] at h
  norm_num at h

theorem not_oddHalf_intCast (n : ℤ) : ¬ OddHalf (n : K) := by
  rintro ⟨h, -⟩
  rw [Int.fract_intCast] at h
  norm_num at h

/-- A number within a half of the integer `c`, with the upper end left out, that was rounded
to a number within a half of it. -/
theorem roundEven_near {c : ℤ} (hx : (c - 1 / 2 : K) ≤ x) (hx' : x < c + 1 / 2)
    (hy : (c - 1 / 2 : K) ≤ y) (hy' : y ≤ c + 1 / 2) (hsame : EvenHalf x → y = x) :
    roundEven y = c - (if TakenDown x y then 1 else 0) + if TakenUp x y then 1 else 0 := by
  have hround : round x = c := round_eq_iff.mpr ⟨hx, hx'⟩
  have hhalf {q : ℤ} (h : x = q + 1 / 2) : c = q + 1 := by
    rw [h, round_add_half] at hround
    exact hround.symm
  rcases hy.eq_or_lt with hy | hy
  · -- `y` is the lower end
    have hyc : y = ((c - 1 : ℤ) : K) + 1 / 2 := by
      rw [← hy]
      push_cast
      ring
    have hup : ¬ TakenUp x y := fun h ↦ absurd h.2 (not_lt.mpr (hy ▸ hx))
    rw [if_neg hup]
    rcases Int.emod_two_eq_zero_or_one (c - 1) with hc | hc
    · have heven : EvenHalf y := evenHalf_iff.mpr ⟨c - 1, hc, hyc⟩
      have hdown : TakenDown x y := by
        rcases (hy ▸ hx : y ≤ x).eq_or_lt with h | h
        · exact .inl (h ▸ heven)
        · exact .inr ⟨heven, h⟩
      rw [if_pos hdown, hyc, roundEven_of_even hc]
      ring
    · have hdown : ¬ TakenDown x y := by
        rintro (h | ⟨h, -⟩)
        · obtain ⟨q, hq, hxq⟩ := evenHalf_iff.mp h
          have := hhalf hxq
          omega
        · obtain ⟨q, hq, hyq⟩ := evenHalf_iff.mp h
          have hcq : c - 1 = q := by
            rw [hyc] at hyq
            exact_mod_cast add_right_cancel hyq
          omega
      rw [if_neg hdown, hyc, roundEven_of_odd hc]
      ring
  · rcases hy'.eq_or_lt with hy' | hy'
    · -- `y` is the upper end
      have hlt : x < y := hy' ▸ hx'
      have hdown : ¬ TakenDown x y := by
        rintro (h | ⟨-, h⟩)
        · exact absurd (hsame h) hlt.ne'
        · exact absurd h (not_lt.mpr hlt.le)
      rw [if_neg hdown]
      rcases Int.emod_two_eq_zero_or_one c with hc | hc
      · have hup : ¬ TakenUp x y := by
          rintro ⟨h, -⟩
          obtain ⟨q, hq, hyq⟩ := oddHalf_iff.mp h
          have hcq : c = q := by
            rw [hy'] at hyq
            exact_mod_cast add_right_cancel hyq
          omega
        rw [if_neg hup, hy', roundEven_of_even hc]
        ring
      · have hup : TakenUp x y := ⟨oddHalf_iff.mpr ⟨c, hc, hy'⟩, hlt⟩
        rw [if_pos hup, hy', roundEven_of_odd hc]
        ring
    · -- `y` is no half
      have hno {q : ℤ} (h : y = q + 1 / 2) : False := by
        rw [h] at hy hy'
        have h₁ : c < q + 1 := by exact_mod_cast (by linarith : (c : K) < q + 1)
        have h₂ : q < c := by exact_mod_cast (by linarith : (q : K) < c)
        omega
      have hdown : ¬ TakenDown x y := by
        rintro (h | ⟨h, -⟩)
        · obtain ⟨q, -, hxq⟩ := evenHalf_iff.mp h
          exact hno ((hsame h).trans hxq)
        · obtain ⟨q, -, hyq⟩ := evenHalf_iff.mp h
          exact hno hyq
      have hup : ¬ TakenUp x y := by
        rintro ⟨h, -⟩
        obtain ⟨q, -, hyq⟩ := oddHalf_iff.mp h
        exact hno hyq
      rw [if_neg hdown, if_neg hup, roundEven_eq hy hy']
      ring

/-- **A number that was rounded to a grid** that contains the halves. -/
theorem roundEven_grid (x : K) {N : ℕ} (hN : 0 < N) (heven : N % 2 = 0)
    (hy : y = roundEven (x * N) / N) :
    roundEven y = round x - (if TakenDown x y then 1 else 0) + if TakenUp x y then 1 else 0 := by
  have hpos : (0 : K) < N := by exact_mod_cast hN
  obtain ⟨h, hNh⟩ : ∃ h : ℕ, N = 2 * h := ⟨N / 2, by omega⟩
  obtain ⟨hx, hx'⟩ := round_eq_iff.mp (rfl : round x = round x)
  -- the halves around `x` are points of the grid
  have hcast (c : ℤ) : (c + 1 / 2 : K) * N = ((c * N + h : ℤ) : K) := by
    rw [hNh]
    push_cast
    ring
  have hlow : (round x - 1 / 2 : K) * N = (((round x - 1) * N + h : ℤ) : K) := by
    rw [← hcast (round x - 1)]
    push_cast
    ring
  refine roundEven_near hx hx' ?_ ?_ fun hhalf ↦ ?_
  · rw [hy, le_div_iff₀ hpos, hlow]
    exact_mod_cast le_roundEven (hlow ▸ mul_le_mul_of_nonneg_right hx hpos.le)
  · rw [hy, div_le_iff₀ hpos, hcast]
    exact_mod_cast roundEven_le (hcast (round x) ▸ mul_le_mul_of_nonneg_right hx'.le hpos.le)
  · obtain ⟨q, -, hq⟩ := evenHalf_iff.mp hhalf
    rw [hy, hq, hcast, roundEven_intCast, ← hcast, mul_div_cancel_right₀ _ hpos.ne']

/-- The grid of the integers. -/
theorem roundEven_grid_one (x : K) :
    roundEven x = round x - (if TakenDown x (roundEven x : K) then 1 else 0) +
      if TakenUp x (roundEven x : K) then 1 else 0 := by
  have hup : ¬ TakenUp x (roundEven x : K) := fun h ↦ not_oddHalf_intCast _ h.1
  have hdown : TakenDown x (roundEven x : K) ↔ EvenHalf x :=
    ⟨fun h ↦ h.elim id fun h ↦ absurd h.1 (not_evenHalf_intCast _), .inl⟩
  rw [if_neg hup, add_zero]
  simp only [hdown]
  exact roundEven_self x

end Grid

end HightowerPos
