import HightowerPos.Data.Numeral
import HightowerPos.Python.Digits

/-!
# The close report

The amounts of `services/till_pdf.py`.
-/

namespace HightowerPos.TillPdf

open Numeral

/-- `f"{n:,}"`. -/
def formatGrouped (n : Nat) : Except PyExc String :=
  if PyStr.intMaxStrDigits < (Nat.toDigits 10 n).length then
    .error (.value (s!"Exceeds the limit ({PyStr.intMaxStrDigits} digits) for integer string " ++
      "conversion; use sys.set_int_max_str_digits() to increase the limit"))
  else .ok (String.ofList (grouped n))

/-- `_format_cents`. -/
def formatCents (cents : Cents) : Except PyExc String := do
  let dollars := cents.natAbs / 100
  let rem := cents.natAbs % 100
  let formatted := "$" ++ (← formatGrouped dollars) ++ "." ++ String.ofList (padded 2 rem)
  return if cents < 0 then "-" ++ formatted else formatted

example : formatCents (-123456) = .ok "-$1,234.56" := by decide +kernel

end HightowerPos.TillPdf
