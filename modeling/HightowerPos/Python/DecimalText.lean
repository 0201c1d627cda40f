import HightowerPos.Python.Digits
import HightowerPos.Python.Quantize

/-!
# Decimals as they are written

`Decimal(text)` for any text, and the steps by which `import_csv` makes cents of it: the comparison
with zero, the product with 100 in the default context, and `quantize` with `ROUND_HALF_UP`.
-/

namespace HightowerPos

/-- What `Decimal(text)` returns.  The sign of a zero is left out, and so are the kind and the
payload of a NaN. -/
inductive PyDecimal
  | finite (d : Decimal)
  | infinity (negative : Bool)
  | nan
deriving Repr, DecidableEq

namespace PyDecimal

/-! ## Reading -/

/-- The characters that the constructor looks at: underscores are dropped, other decimal digits
become ASCII digits and other spaces blanks; `none` where another character remains. -/
def ascii (text : List Char) : Option (List Char) :=
  (text.filter (· ≠ '_')).mapM fun c ↦
    if 0 < c.toNat ∧ c.toNat < 128 then some c
    else if PyStr.isSpace c then some ' '
    else (PyStr.decimalValue c).map fun d ↦ Char.ofNat (48 + d)

def isDigit (c : Char) : Bool := '0' ≤ c && c ≤ '9'

/-- The number of a list of digits. -/
def digitsValue (digits : List Char) : Nat :=
  Nat.ofDigits 10 (digits.map fun c ↦ c.toNat - 48).reverse

/-- A sign, and what follows it. -/
def splitSign : List Char → Bool × List Char
  | '-' :: cs => (true, cs)
  | '+' :: cs => (false, cs)
  | cs => (false, cs)

/-- What follows the coefficient: nothing, or an exponent. -/
def parseExponent : List Char → Option Int
  | [] => some 0
  | e :: cs =>
      let (negative, digits) := splitSign cs
      if (e = 'e' ∨ e = 'E') ∧ digits ≠ [] ∧ digits.all isDigit then
        some (if negative then -(digitsValue digits : Int) else digitsValue digits)
      else none

/-- The limits of an exact conversion, `MAX_EMAX` and `MIN_ETINY`, which hold for zero too. -/
def fitsExactly (d : Decimal) : Bool :=
  d.exp + Nat.log 10 d.coeff.natAbs ≤ 999999999999999999 && -1999999999999999997 ≤ d.exp

/-- A number without its sign. -/
def parseNumber (negative : Bool) (cs : List Char) : Option PyDecimal :=
  let whole := cs.takeWhile isDigit
  let rest := cs.dropWhile isDigit
  let (part, rest) := match rest with
    | '.' :: rest => (rest.takeWhile isDigit, rest.dropWhile isDigit)
    | rest => ([], rest)
  if whole ++ part = [] then none
  else do
    let exp ← parseExponent rest
    let coeff := (digitsValue (whole ++ part) : Int)
    let d : Decimal := ⟨if negative then -coeff else coeff, exp - part.length⟩
    if fitsExactly d then some (.finite d) else none

/-- The letters of a special value, in lower case. -/
def lower (cs : List Char) : List Char := cs.map Char.toLower

/-- `Decimal(text)`; `none` is `InvalidOperation`. -/
def parse (text : String) : Option PyDecimal := do
  let cs ← ascii (PyStr.strip text).toList
  let (negative, cs) := splitSign cs
  if lower cs = "inf".toList ∨ lower cs = "infinity".toList then some (.infinity negative)
  else if (lower cs).take 3 = "nan".toList ∧ (cs.drop 3).all isDigit then some .nan
  else if (lower cs).take 4 = "snan".toList ∧ (cs.drop 4).all isDigit then some .nan
  else parseNumber negative cs

example : parse " +1_9.99e0 " = some (.finite ⟨1999, -2⟩) ∧
    parse "-Infinity" = some (.infinity true) ∧ parse "1e" = none ∧ parse "." = none ∧
    parse "sNaN12" = some .nan ∧ parse "0e1000000000000000000" = none := by decide +kernel

/-! ## Cents -/

/-- `price < 0`. -/
def isNegative : PyDecimal → Except PyExc Bool
  | .finite d => .ok (d.coeff < 0)
  | .infinity negative => .ok negative
  | .nan => .error .invalidOperation

end PyDecimal

namespace Decimal

/-- `Emax` of the default context. -/
def emax : Int := 999999

/-- `n / d` rounded to an integer, ties away from zero (`ROUND_HALF_UP`). -/
def roundHalfUp (n : Int) (d : Nat) : Int :=
  let m : Int := ((2 * n.natAbs + d) / (2 * d) : Nat)
  if n < 0 then -m else m

/-- `int(x.quantize(Decimal("1"), rounding=ROUND_HALF_UP))`; `none` is `InvalidOperation`. -/
def quantizeHalfUp (x : Decimal) : Option Int :=
  let n := match x.exp with
    | .ofNat e => x.coeff * 10 ^ e
    | .negSucc e => roundHalfUp x.coeff (10 ^ (e + 1))
  if n.natAbs < 10 ^ precision then some n else none

/-- The product overflows in the default context. -/
def overflows (x : Decimal) : Bool :=
  x.coeff ≠ 0 && emax < x.exp + Nat.log 10 x.coeff.natAbs

end Decimal

namespace PyDecimal

/-- `int((price * 100).quantize(Decimal("1"), rounding=ROUND_HALF_UP))`.  A product below the
least exponent of the context is kept as it is: it rounds to zero either way. -/
def cents : PyDecimal → Except PyExc Cents
  | .finite d =>
      let hundredfold := d.mul (.ofInt 100)
      if hundredfold.overflows then .error .decimalOverflow
      else match hundredfold.quantizeHalfUp with
        | some n => .ok n
        | none => .error .invalidOperation
  | .infinity _ | .nan => .error .invalidOperation

end PyDecimal

end HightowerPos
