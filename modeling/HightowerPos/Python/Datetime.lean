import HightowerPos.Data.Numeral
import HightowerPos.Models

/-!
# Dates

`strftime` with the two formats of a receipt, for a `datetime` that is a `Time`.
-/

namespace HightowerPos.Time

open Numeral

/-- The year, the month and the day of a day that is counted from 1970-01-01.  Years are counted
from March within 400 years, so that a leap day is the last one. -/
def civil (days : Int) : Int × Nat × Nat :=
  let z := days + 719468
  let doe := (z % 146097).toNat
  let yoe := (doe - doe / 1460 + doe / 36524 - doe / 146096) / 365
  let doy := doe - (365 * yoe + yoe / 4 - yoe / 100)
  let mp := (5 * doy + 2) / 153
  let month := if mp < 10 then mp + 3 else mp - 9
  let year := yoe + z / 146097 * 400
  (if month ≤ 2 then year + 1 else year, month, doy - (153 * mp + 2) / 5 + 1)

/-- `f"{t:%Y-%m-%d}"`. -/
def date (t : Time) : String :=
  let (year, month, day) := civil (t / 86400000000)
  String.ofList (Nat.toDigits 10 year.toNat ++ '-' :: padded 2 month ++ '-' :: padded 2 day)

/-- `f"{t:%Y-%m-%d %H:%M:%S}"`. -/
def dateTime (t : Time) : String :=
  let seconds := (t / 1000000 % 86400).toNat
  date t ++ String.ofList (' ' :: padded 2 (seconds / 3600) ++ ':' ::
    padded 2 (seconds / 60 % 60) ++ ':' :: padded 2 (seconds % 60))

example : dateTime 1778250191000000 = "2026-05-08 14:23:11" := by decide +kernel

example : date 951782400000000 = "2000-02-29" := by decide +kernel

end HightowerPos.Time
