import HightowerPos.Errors
import Mathlib.Data.Nat.Digits.Defs

/-!
# Texts of digits

`str.strip`, `str.isdigit` and `int` on the texts that the Windcave client reads.  The tables
are those of Unicode 14, which Python 3.11 has: a digit such as `²` is one for `isdigit` and
none for `int`.
-/

namespace HightowerPos.PyStr

/-- `c.isspace()`. -/
def isSpace (c : Char) : Bool :=
  let n := c.toNat
  (9 ≤ n && n ≤ 13) || (0x1C ≤ n && n ≤ 0x20) || n == 0x85 || n == 0xA0 || n == 0x1680 ||
    (0x2000 ≤ n && n ≤ 0x200A) || n == 0x2028 || n == 0x2029 || n == 0x202F || n == 0x205F ||
    n == 0x3000

/-- `s.strip()`. -/
def strip (s : String) : String :=
  String.ofList ((s.toList.dropWhile isSpace).reverse.dropWhile isSpace).reverse

/-- The zeros of the rows of ten decimal digits. -/
def decimalZeros : List Nat :=
  [0x30, 0x660, 0x6F0, 0x7C0, 0x966, 0x9E6, 0xA66, 0xAE6, 0xB66, 0xBE6, 0xC66, 0xCE6, 0xD66,
    0xDE6, 0xE50, 0xED0, 0xF20, 0x1040, 0x1090, 0x17E0, 0x1810, 0x1946, 0x19D0, 0x1A80, 0x1A90,
    0x1B50, 0x1BB0, 0x1C40, 0x1C50, 0xA620, 0xA8D0, 0xA900, 0xA9D0, 0xA9F0, 0xAA50, 0xABF0,
    0xFF10, 0x104A0, 0x10D30, 0x11066, 0x110F0, 0x11136, 0x111D0, 0x112F0, 0x11450, 0x114D0,
    0x11650, 0x116C0, 0x11730, 0x118E0, 0x11950, 0x11C50, 0x11D50, 0x11DA0, 0x16A60, 0x16AC0,
    0x16B50, 0x1D7CE, 0x1D7D8, 0x1D7E2, 0x1D7EC, 0x1D7F6, 0x1E140, 0x1E2F0, 0x1E950, 0x1FBF0]

/-- The digits that are not decimal: the first of each row, and how many there are. -/
def otherDigits : List (Nat × Nat) :=
  [(0xB2, 2), (0xB9, 1), (0x1369, 9), (0x19DA, 1), (0x2070, 1), (0x2074, 6), (0x2080, 10),
    (0x2460, 9), (0x2474, 9), (0x2488, 9), (0x24EA, 1), (0x24F5, 9), (0x24FF, 1), (0x2776, 9),
    (0x2780, 9), (0x278A, 9), (0x10A40, 4), (0x10E60, 9), (0x11052, 9), (0x1F100, 11)]

/-- The value of a decimal digit. -/
def decimalValue (c : Char) : Option Nat :=
  decimalZeros.findSome? fun z ↦ if z ≤ c.toNat ∧ c.toNat < z + 10 then some (c.toNat - z) else none

/-- `s.isdigit()`. -/
def isDigit (s : String) : Bool :=
  s ≠ "" && s.toList.all fun c ↦ (decimalValue c).isSome ||
    otherDigits.any fun row ↦ row.1 ≤ c.toNat && c.toNat < row.1 + row.2

/-- `sys.get_int_max_str_digits()`. -/
def intMaxStrDigits : Nat := 4300

/-- `int(s)` for a text of digits. -/
def toInt (s : String) : Except PyExc Nat :=
  match s.toList.mapM decimalValue with
  | none => .error (.value s!"invalid literal for int() with base 10: '{s}'")
  | some digits =>
      if intMaxStrDigits < digits.length then
        .error (.value (s!"Exceeds the limit ({intMaxStrDigits} digits) for integer string " ++
          s!"conversion: value has {digits.length} digits; " ++
          "use sys.set_int_max_str_digits() to increase the limit"))
      else .ok (Nat.ofDigits 10 digits.reverse)

/-- `str(n)`. -/
def ofNat (n : Nat) : Except PyExc String :=
  if intMaxStrDigits < (Nat.toDigits 10 n).length then
    .error (.value (s!"Exceeds the limit ({intMaxStrDigits} digits) for integer string " ++
      "conversion; use sys.set_int_max_str_digits() to increase the limit"))
  else .ok (String.ofList (Nat.toDigits 10 n))

/-- `int(s) if s.isdigit() else None`. -/
def digitsOrNone (s : String) : Except PyExc (Option Nat) :=
  if isDigit s then (toInt s).map some else .ok none

example : digitsOrNone "0500" = .ok (some 500) := by decide +kernel

/-! ## When a text of digits is a number -/

/-- The number that a text is, when it has decimal digits only. -/
def number (s : String) : Option Nat :=
  if s = "" then none
  else (s.toList.mapM decimalValue).map fun digits ↦ Nat.ofDigits 10 digits.reverse

/-- What `isdigit` takes for digits, `int` reads. -/
def Convertible (s : String) : Prop :=
  isDigit s = true → (∀ c ∈ s.toList, (decimalValue c).isSome) ∧ s.length ≤ intMaxStrDigits

instance (s : String) : Decidable (Convertible s) :=
  decidable_of_iff (isDigit s = true →
    s.toList.all (fun c ↦ (decimalValue c).isSome) = true ∧ s.length ≤ intMaxStrDigits) (by
      rw [List.all_eq_true, Convertible])

theorem mapM_isSome_iff {α β : Type} {f : α → Option β} {l : List α} :
    (l.mapM f).isSome ↔ ∀ a ∈ l, (f a).isSome := by
  induction l with
  | nil => simp
  | cons a l ih =>
      rw [List.forall_mem_cons, ← ih, List.mapM_cons]
      cases f a with
      | none => simp
      | some b => cases l.mapM f <;> simp

theorem length_of_mapM {α β : Type} {f : α → Option β} {l : List α} {l' : List β}
    (h : l.mapM f = some l') : l'.length = l.length := by
  induction l generalizing l' with
  | nil =>
      cases h
      rfl
  | cons a l ih =>
      rw [List.mapM_cons] at h
      cases ha : f a with
      | none =>
          rw [ha] at h
          cases h
      | some b =>
          cases hl : l.mapM f with
          | none =>
              rw [ha, hl] at h
              cases h
          | some bs =>
              rw [ha, hl] at h
              cases h
              rw [List.length_cons, List.length_cons, ih hl]

/-- A text that is not one of digits is no number. -/
theorem number_of_not_isDigit {s : String} (h : isDigit s = false) : number s = none := by
  unfold number
  split
  · rfl
  · next hne =>
      cases hdigits : s.toList.mapM decimalValue with
      | none => rfl
      | some digits =>
          have hall := mapM_isSome_iff.mp (Option.isSome_of_eq_some hdigits)
          rw [isDigit, decide_eq_true hne, Bool.true_and, List.all_eq_false] at h
          obtain ⟨c, hc, hnot⟩ := h
          rw [hall c hc, Bool.true_or] at hnot
          exact absurd rfl hnot

/-- What the guarded conversion returns. -/
theorem digitsOrNone_of_convertible {s : String} (h : Convertible s) :
    digitsOrNone s = .ok (number s) := by
  unfold digitsOrNone
  cases hdigit : isDigit s with
  | false => rw [if_neg Bool.false_ne_true, number_of_not_isDigit hdigit]
  | true =>
      obtain ⟨hall, hlength⟩ := h hdigit
      obtain ⟨digits, hdigits⟩ := Option.isSome_iff_exists.mp (mapM_isSome_iff.mpr hall)
      have hne : s ≠ "" := by
        rintro rfl
        cases hdigit
      have hshort : ¬ intMaxStrDigits < digits.length := by
        rw [length_of_mapM hdigits, String.length_toList]
        exact Nat.not_lt.mpr hlength
      rw [if_pos rfl, toInt, hdigits, number, if_neg hne, hdigits]
      dsimp only
      rw [if_neg hshort]
      rfl

/-- Otherwise the conversion raises `ValueError`. -/
theorem digitsOrNone_of_not_convertible {s : String} (h : ¬ Convertible s) :
    ∃ message, digitsOrNone s = .error (.value message) := by
  unfold Convertible at h
  rw [Classical.not_imp] at h
  obtain ⟨hdigit, hnot⟩ := h
  unfold digitsOrNone toInt
  rw [if_pos hdigit]
  cases hdigits : s.toList.mapM decimalValue with
  | none => exact ⟨_, rfl⟩
  | some digits =>
      have hall := mapM_isSome_iff.mp (Option.isSome_of_eq_some hdigits)
      have hlong : intMaxStrDigits < digits.length := by
        rw [length_of_mapM hdigits, String.length_toList]
        exact Nat.lt_of_not_le fun hle ↦ hnot ⟨hall, hle⟩
      dsimp only
      rw [if_pos hlong]
      exact ⟨_, rfl⟩

end HightowerPos.PyStr
