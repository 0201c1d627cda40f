import HightowerPos.Data.Binary64
import HightowerPos.Data.Numeral
import HightowerPos.Errors

/-!
# Floats

What the service computes with `float`, and how it prints one.
-/

namespace HightowerPos

open Numeral

/-- A `float`: a finite one has a sign, also when it is zero. -/
inductive PyFloat
  | finite (negative : Bool) (magnitude : ℚ) (valid : 0 ≤ magnitude ∧ Binary64.IsBinary64 magnitude)
  | infinite (negative : Bool)
  | nan

namespace PyFloat

/-- The float nearest to a number, of which the sign and the magnitude are given. -/
def nearest (negative : Bool) (x : ℚ) (hx : 0 ≤ x) : PyFloat :=
  if h : Binary64.Overflows x then infinite negative
  else finite negative (Binary64.nearest x)
    ⟨Binary64.nearest_nonneg hx, Binary64.isBinary64_nearest h⟩

/-- `n / 100` for an integer. -/
def hundredth (n : ℤ) : Except PyExc PyFloat :=
  if Binary64.Overflows (n.natAbs / 100 : ℚ) then .error .overflow
  else .ok (nearest (n < 0) (n.natAbs / 100) (by positivity))

/-- `x * 100`. -/
def hundredfold : PyFloat → PyFloat
  | finite negative x hx => nearest negative (x * 100) (mul_nonneg hx.1 (by norm_num))
  | infinite negative => infinite negative
  | nan => nan

/-- `f"{x:.2f}"`, of the exact value. -/
def fixed2 : PyFloat → String
  | finite negative x _ =>
      let n := (roundEven (x * 100)).toNat
      (if negative then "-" else "") ++ String.ofList (Nat.toDigits 10 (n / 100)) ++ "." ++
        String.ofList (padded 2 (n % 100))
  | infinite negative => if negative then "-inf" else "inf"
  | nan => "nan"

example : (nearest false (81 / 1000) (by norm_num)).hundredfold.fixed2 = "8.10" := by
  decide +kernel

/-- Floats are printed on one line. -/
theorem newline_notMem_fixed2 (x : PyFloat) : '\n' ∉ x.fixed2.toList := by
  cases x with
  | finite negative x hx =>
      have hdigits (n : ℕ) : '\n' ∉ Nat.toDigits 10 n :=
        fun h ↦ absurd (isDigit_toDigits h) (by decide)
      have hpadded (n : ℕ) : '\n' ∉ padded 2 n :=
        fun h ↦ absurd (isDigit_padded h) (by decide)
      unfold fixed2
      dsimp only
      simp only [String.toList_append, String.toList_ofList, List.mem_append, hdigits, hpadded,
        or_false]
      cases negative <;> decide
  | infinite negative => cases negative <;> decide
  | nan => decide

end PyFloat

end HightowerPos
