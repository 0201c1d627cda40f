import HightowerPos.Python.Csv
import Mathlib.Data.List.Basic

/-!
# UTF-8 texts

What is encoded in UTF-8 is decoded again: a decoder that replaces what is not UTF-8 replaces
nothing of it (`decodeFrom_encode`), and `utf-8-sig` drops a signature (`decodeSig_signature`).
-/

namespace HightowerPos.Utf8

/-- `text.encode("utf-8")`. -/
def encode (text : List Char) : List UInt8 := text.flatMap String.utf8EncodeChar

/-- The signature that `utf-8-sig` writes. -/
def signature : List UInt8 := [0xEF, 0xBB, 0xBF]

section Decoding

variable {v : Nat} {bs : List UInt8}

theorem decodeFrom_cons (p : Option Pending) (b : UInt8) (bs : List UInt8) :
    decodeFrom p (b :: bs) = (step p b.toNat).1 ++ decodeFrom (step p b.toNat).2 bs := by
  cases p <;> rfl

theorem toNat_ofNat {n : Nat} (h : n < 256) : (UInt8.ofNat n).toNat = n := by
  rw [UInt8.toNat_ofNat']
  exact Nat.mod_eq_of_lt h

/-- The next octet of a sequence that lacks more than one. -/
theorem step_more {p : Pending} {b : Nat} (hlow : p.low ≤ b) (hhigh : b ≤ p.high)
    (hlacks : p.lacks ≠ 1) :
    step (some p) b = ([], some { value := p.value * 64 + (b - 0x80), lacks := p.lacks - 1 }) := by
  rw [step, if_pos ⟨hlow, hhigh⟩]
  dsimp only
  rw [if_neg hlacks]

/-- The last octet of a sequence. -/
theorem step_last {p : Pending} {b : Nat} (hlow : p.low ≤ b) (hhigh : b ≤ p.high)
    (hlacks : p.lacks = 1) :
    step (some p) b = ([Char.ofNat (p.value * 64 + (b - 0x80))], none) := by
  rw [step, if_pos ⟨hlow, hhigh⟩]
  dsimp only
  rw [if_pos hlacks]

/-- A sequence of two octets. -/
theorem decodeFrom_two (h : 0x7F < v) (h' : v ≤ 0x7FF) :
    decodeFrom none (UInt8.ofNat (v / 64 % 0x20 + 0xC0) :: UInt8.ofNat (v % 0x40 + 0x80) :: bs) =
      Char.ofNat v :: decodeFrom none bs := by
  have hfirst : start (v / 64 % 0x20 + 0xC0) =
      ([], some { value := v / 64 % 0x20 + 0xC0 - 0xC0, lacks := 1 }) := by
    rw [start, if_neg (by omega), if_pos (by omega)]
  rw [decodeFrom_cons, toNat_ofNat (by omega), step, hfirst, decodeFrom_cons,
    toNat_ofNat (by omega), step_last (by dsimp only; omega) (by dsimp only; omega) rfl]
  dsimp only
  rw [List.nil_append, List.singleton_append,
    show (v / 64 % 0x20 + 0xC0 - 0xC0) * 64 + (v % 0x40 + 0x80 - 0x80) = v by omega]

/-- A sequence of three octets, which is not that of a surrogate. -/
theorem decodeFrom_three (h : 0x7FF < v) (h' : v ≤ 0xFFFF) (hvalid : v < 0xD800 ∨ 0xDFFF < v) :
    decodeFrom none (UInt8.ofNat (v / 4096 % 0x10 + 0xE0) ::
      UInt8.ofNat (v / 64 % 0x40 + 0x80) :: UInt8.ofNat (v % 0x40 + 0x80) :: bs) =
      Char.ofNat v :: decodeFrom none bs := by
  -- the bounds of the second octet depend on the first
  obtain ⟨low, high, hlow, hhigh, hfirst⟩ : ∃ low high, low ≤ v / 64 % 0x40 + 0x80 ∧
      v / 64 % 0x40 + 0x80 ≤ high ∧ start (v / 4096 % 0x10 + 0xE0) =
        ([], some { value := v / 4096, lacks := 2, low := low, high := high }) := by
    by_cases hE0 : v / 4096 = 0
    · refine ⟨0xA0, 0xBF, by omega, by omega, ?_⟩
      rw [start, if_neg (by omega), if_neg (by omega), if_pos (by omega), hE0]
    by_cases hED : v / 4096 = 0xD
    · refine ⟨0x80, 0x9F, by omega, by omega, ?_⟩
      rw [start, if_neg (by omega), if_neg (by omega), if_neg (by omega), if_pos (by omega), hED]
    · refine ⟨0x80, 0xBF, by omega, by omega, ?_⟩
      rw [start, if_neg (by omega), if_neg (by omega), if_neg (by omega), if_neg (by omega),
        if_pos (by omega), show v / 4096 % 0x10 + 0xE0 - 0xE0 = v / 4096 by omega]
  rw [decodeFrom_cons, toNat_ofNat (by omega), step, hfirst, decodeFrom_cons,
    toNat_ofNat (by omega), step_more hlow hhigh (by dsimp only; decide), decodeFrom_cons,
    toNat_ofNat (by omega), step_last (by dsimp only; omega) (by dsimp only; omega) rfl]
  dsimp only
  rw [List.nil_append, List.nil_append, List.singleton_append,
    show (v / 4096 * 64 + (v / 64 % 0x40 + 0x80 - 0x80)) * 64 + (v % 0x40 + 0x80 - 0x80) = v by
      omega]

/-- A sequence of four octets. -/
theorem decodeFrom_four (h : 0xFFFF < v) (h' : v < 0x110000) :
    decodeFrom none (UInt8.ofNat (v / 262144 % 0x08 + 0xF0) ::
      UInt8.ofNat (v / 4096 % 0x40 + 0x80) :: UInt8.ofNat (v / 64 % 0x40 + 0x80) ::
      UInt8.ofNat (v % 0x40 + 0x80) :: bs) = Char.ofNat v :: decodeFrom none bs := by
  obtain ⟨low, high, hlow, hhigh, hfirst⟩ : ∃ low high, low ≤ v / 4096 % 0x40 + 0x80 ∧
      v / 4096 % 0x40 + 0x80 ≤ high ∧ start (v / 262144 % 0x08 + 0xF0) =
        ([], some { value := v / 262144, lacks := 3, low := low, high := high }) := by
    by_cases hF0 : v / 262144 = 0
    · refine ⟨0x90, 0xBF, by omega, by omega, ?_⟩
      rw [start, if_neg (by omega), if_neg (by omega), if_neg (by omega), if_neg (by omega),
        if_neg (by omega), if_pos (by omega), hF0]
    by_cases hF4 : v / 262144 = 4
    · refine ⟨0x80, 0x8F, by omega, by omega, ?_⟩
      rw [start, if_neg (by omega), if_neg (by omega), if_neg (by omega), if_neg (by omega),
        if_neg (by omega), if_neg (by omega), if_pos (by omega), hF4]
    · refine ⟨0x80, 0xBF, by omega, by omega, ?_⟩
      rw [start, if_neg (by omega), if_neg (by omega), if_neg (by omega), if_neg (by omega),
        if_neg (by omega), if_neg (by omega), if_neg (by omega), if_pos (by omega),
        show v / 262144 % 0x08 + 0xF0 - 0xF0 = v / 262144 by omega]
  rw [decodeFrom_cons, toNat_ofNat (by omega), step, hfirst, decodeFrom_cons,
    toNat_ofNat (by omega), step_more hlow hhigh (by dsimp only; decide), decodeFrom_cons,
    toNat_ofNat (by omega),
    step_more (by dsimp only; omega) (by dsimp only; omega) (by dsimp only; decide),
    decodeFrom_cons,
    toNat_ofNat (by omega), step_last (by dsimp only; omega) (by dsimp only; omega) rfl]
  dsimp only
  rw [List.nil_append, List.nil_append, List.nil_append, List.singleton_append,
    show ((v / 262144 * 64 + (v / 4096 % 0x40 + 0x80 - 0x80)) * 64 +
      (v / 64 % 0x40 + 0x80 - 0x80)) * 64 + (v % 0x40 + 0x80 - 0x80) = v by omega]

/-- One character. -/
theorem decodeFrom_char (c : Char) :
    decodeFrom none (String.utf8EncodeChar c ++ bs) = c :: decodeFrom none bs := by
  have hvalid : c.val.toNat < 0xD800 ∨ 0xDFFF < c.val.toNat ∧ c.val.toNat < 0x110000 := c.valid
  have hc : Char.ofNat c.val.toNat = c := Char.ofNat_toNat c
  unfold String.utf8EncodeChar
  dsimp only
  generalize c.val.toNat = v at hvalid hc ⊢
  rw [← hc]
  split
  · next h =>
      rw [List.singleton_append, decodeFrom_cons, toNat_ofNat (by omega), step, start,
        if_pos (by omega), List.singleton_append]
  · next h₁ =>
      split
      · next h₂ => exact decodeFrom_two (Nat.not_le.mp h₁) h₂
      · next h₂ =>
          split
          · next h₃ => exact decodeFrom_three (Nat.not_le.mp h₂) h₃ (by omega)
          · next h₃ => exact decodeFrom_four (Nat.not_le.mp h₃) (by omega)

/-- **What is encoded is decoded.** -/
theorem decodeFrom_encode (text : List Char) : decodeFrom none (encode text) = text := by
  induction text with
  | nil => rfl
  | cons c text ih =>
      rw [encode, List.flatMap_cons, decodeFrom_char]
      exact congrArg (c :: ·) ih

/-- A text with a signature. -/
theorem decodeSig_signature (text : List Char) : decodeSig (signature ++ encode text) = text :=
  decodeFrom_encode text

/-- The character whose octets the signature has. -/
def mark : Char := Char.ofNat 0xFEFF

/-- A text without one, which does not start with its character. -/
theorem decodeSig_encode {text : List Char} (h : text.head? ≠ some mark) :
    decodeSig (encode text) = text := by
  have hdecode := decodeFrom_encode text
  unfold decodeSig
  split
  · next bs heq =>
      -- these octets would be that character
      rw [heq] at hdecode
      have hmark : decodeFrom none (0xEF :: 0xBB :: 0xBF :: bs) = mark :: decodeFrom none bs := rfl
      rw [← hdecode, hmark] at h
      exact absurd rfl h
  · exact hdecode

end Decoding

end HightowerPos.Utf8
