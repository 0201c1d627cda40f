import Mathlib.Algebra.Order.Ring.Int
import Mathlib.Data.Nat.Log

/-!
# Decimal arithmetic

The part of Python's `decimal` that the tax computation uses: finite numbers, products
in the default context (28 significant digits, ties to the even digit), and
`quantize(Decimal("1"))`, which refuses a result of more than 28 digits.

A number is a coefficient and a power of ten.  Exponents are unbounded here: the
exponent limits of the default context lie far outside what a float and an amount in
cents can reach.
-/

namespace HightowerPos

/-- The finite decimal `coeff * 10 ^ exp`. -/
structure Decimal where
  coeff : Int
  exp : Int
deriving Repr, DecidableEq

namespace Decimal

/-- Significant digits of the default context. -/
def precision : Nat := 28

/-- `n / d` rounded to an integer, ties to the even one (`ROUND_HALF_EVEN`). -/
def roundHalfEven (n : Int) (d : Nat) : Int :=
  let q := n / d
  let r := n % d
  if 2 * r < d then q
  else if 2 * r = d ∧ q % 2 = 0 then q
  else q + 1

/-- The digits of a coefficient beyond the precision. -/
def excess (n : Int) : Nat := Nat.log 10 n.natAbs + 1 - precision

/-- Round to the precision of the context.  Rounding up can carry into a new digit,
which is then a zero and moves to the exponent. -/
def round (x : Decimal) : Decimal :=
  let k := excess x.coeff
  if k = 0 then x
  else
    let c := roundHalfEven x.coeff (10 ^ k)
    if c.natAbs = 10 ^ precision then ⟨c / 10, x.exp + k + 1⟩ else ⟨c, x.exp + k⟩

/-- The integer `n`. -/
def ofInt (n : Int) : Decimal := ⟨n, 0⟩

/-- `x * y` in the default context. -/
def mul (x y : Decimal) : Decimal := round ⟨x.coeff * y.coeff, x.exp + y.exp⟩

/-- `int(x.quantize(Decimal("1"), rounding=ROUND_HALF_EVEN))`; `none` is the
`InvalidOperation` of a result that does not fit the precision. -/
def quantizeUnit (x : Decimal) : Option Int :=
  let n := match x.exp with
    | .ofNat e => x.coeff * 10 ^ e
    | .negSucc e => roundHalfEven x.coeff (10 ^ (e + 1))
  if n.natAbs < 10 ^ precision then some n else none

/-- A tax of 8.1 % on 12.50 is 101.25 cents, and a tie goes to the even cent. -/
example : quantizeUnit (mul (ofInt 1250) ⟨81, -3⟩) = some 101 ∧
    quantizeUnit (mul (ofInt 50) ⟨81, -2⟩) = some 40 := by decide

end Decimal

end HightowerPos
