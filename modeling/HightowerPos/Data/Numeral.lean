import Mathlib.Data.List.Basic
import Mathlib.Data.Nat.Digits.Defs
import Mathlib.Tactic.Ring

/-!
# Decimal numerals

Numerals as `Nat.toDigits 10` writes them, padded on the left or with their digits grouped in
threes from the right.  Every way of writing can be read back (`value`).
-/

namespace HightowerPos.Numeral

/-- The number that digits write. -/
def value (l : List Char) : ℕ := l.foldl (fun v c ↦ 10 * v + (c.toNat - 48)) 0

/-- A numeral of `w` digits at least. -/
def padded (w n : ℕ) : List Char := (Nat.toDigits 10 n).leftpad w '0'

/-- Digits in reverse order, with a comma between groups of three. -/
def groupReversed : List Char → List Char
  | a :: b :: c :: d :: l => a :: b :: c :: ',' :: groupReversed (d :: l)
  | l => l

/-- A numeral with its digits grouped in threes from the right. -/
def grouped (n : ℕ) : List Char := (groupReversed (Nat.toDigits 10 n).reverse).reverse

/-- Groups of three digits behind a first one of one to three, without a leading zero. -/
def IsGrouped (s : List Char) : Prop :=
  ∃ (first : List Char) (rest : List (List Char)), s = first ++ (rest.map (',' :: ·)).flatten ∧
    (1 ≤ first.length ∧ first.length ≤ 3) ∧ (∀ g ∈ rest, g.length = 3) ∧
    (∀ c ∈ first ++ rest.flatten, c.isDigit = true) ∧
    (first.head? = some '0' → first = ['0'] ∧ rest = [])

/-- Read a signed numeral, without the marks that it holds. -/
def readSigned (marks : List Char) (s : List Char) : Option ℤ :=
  match s.filter (· ∉ marks) with
  | '-' :: l => if l ≠ [] ∧ l.all Char.isDigit then some (-(value l)) else none
  | l => if l ≠ [] ∧ l.all Char.isDigit then some (value l) else none

section

variable {l l' : List Char} {n w : ℕ}

/-! ### Values -/

theorem foldl_digits (v : ℕ) (l : List Char) :
    l.foldl (fun v c ↦ 10 * v + (c.toNat - 48)) v = v * 10 ^ l.length + value l := by
  unfold value
  induction l generalizing v with
  | nil => simp
  | cons c l ih =>
      rw [List.foldl_cons, List.foldl_cons, ih (10 * v + _), ih (10 * 0 + _), List.length_cons,
        pow_succ]
      ring

theorem value_append : value (l ++ l') = value l * 10 ^ l'.length + value l' := by
  unfold value
  rw [List.foldl_append, foldl_digits]
  rfl

theorem value_toDigits (n : ℕ) : value (Nat.toDigits 10 n) = n := by
  induction n using Nat.strong_induction_on with
  | _ n ih =>
      rw [Nat.toDigits_eq_if (by decide)]
      split
      · next hn =>
          show 10 * 0 + (n.digitChar.toNat - 48) = n
          rw [Nat.toNat_digitChar_sub_48_of_lt_ten hn, Nat.mul_zero, Nat.zero_add]
      · next hn =>
          rw [value_append, ih (n / 10) (by omega)]
          show n / 10 * 10 ^ 1 + (10 * 0 + ((n % 10).digitChar.toNat - 48)) = n
          rw [Nat.toNat_digitChar_sub_48_of_lt_ten (by omega)]
          omega

theorem value_padded (w n : ℕ) : value (padded w n) = n := by
  have hzeros (k : ℕ) : value (List.replicate k '0') = 0 := by
    induction k with
    | zero => rfl
    | succ k ih => rw [List.replicate_succ', value_append, ih]; rfl
  unfold padded List.leftpad
  rw [value_append, hzeros, value_toDigits, Nat.zero_mul, Nat.zero_add]

theorem length_padded (h : n < 10 ^ w) (hw : 0 < w) : (padded w n).length = w := by
  have hlength := (Nat.length_toDigits_le_iff (by decide : 1 < 10) hw).mpr h
  unfold padded
  rw [List.length_leftpad]
  omega

/-! ### Digits -/

theorem isDigit_toDigits {c : Char} (h : c ∈ Nat.toDigits 10 n) : c.isDigit = true :=
  Nat.isDigit_of_mem_toDigits (by decide) (by decide) h

theorem isDigit_padded {c : Char} (h : c ∈ padded w n) : c.isDigit = true := by
  rcases List.mem_append.mp h with h | h
  · rw [List.eq_of_mem_replicate h]
    rfl
  · exact isDigit_toDigits h

/-- A numeral other than that of zero has no leading zero. -/
theorem head?_toDigits (h : n ≠ 0) : (Nat.toDigits 10 n).head? ≠ some '0' := by
  induction n using Nat.strong_induction_on with
  | _ n ih =>
      rw [Nat.toDigits_eq_if (by decide)]
      split
      · rw [List.head?_cons, ne_eq, Option.some.injEq, Nat.digitChar_eq_zero]
        exact h
      · next hn =>
          rw [List.head?_append_of_ne_nil _ Nat.toDigits_ne_nil]
          exact ih (n / 10) (by omega) (by omega)

/-! ### Reading -/

/-- A text that has these digits behind a minus sign. -/
theorem readSigned_neg {marks s : List Char} (h : s.filter (· ∉ marks) = '-' :: l) (hne : l ≠ [])
    (hl : ∀ c ∈ l, c.isDigit = true) : readSigned marks s = some (-(value l : ℤ)) := by
  unfold readSigned
  rw [h]
  exact if_pos ⟨hne, List.all_eq_true.mpr hl⟩

/-- A text that has these digits only. -/
theorem readSigned_pos {marks s : List Char} (h : s.filter (· ∉ marks) = l) (hne : l ≠ [])
    (hl : ∀ c ∈ l, c.isDigit = true) : readSigned marks s = some (value l : ℤ) := by
  unfold readSigned
  rw [h]
  split
  · -- a minus sign is no digit
    exact absurd (hl '-' (.head _)) (by decide)
  · exact if_pos ⟨hne, List.all_eq_true.mpr hl⟩

/-! ### Groups -/

theorem filter_groupReversed (h : ',' ∉ l) : (groupReversed l).filter (· ≠ ',') = l := by
  have hkeep (l : List Char) (hl : ',' ∉ l) : l.filter (· ≠ ',') = l := by
    refine List.filter_eq_self.mpr fun c hc ↦ ?_
    rw [decide_eq_true_eq]
    rintro rfl
    exact hl hc
  fun_induction groupReversed l with
  | case1 a b c d l ih =>
      simp only [List.mem_cons, not_or] at h
      obtain ⟨ha, hb, hc, hd, hl⟩ := h
      have hrest := ih (by simp only [List.mem_cons, not_or]; exact ⟨hd, hl⟩)
      simp only [List.filter_cons, hrest]
      simp [Ne.symm ha, Ne.symm hb, Ne.symm hc]
  | case2 l => exact hkeep l h

/-- Without its commas a grouped numeral is the numeral. -/
theorem filter_grouped (n : ℕ) : (grouped n).filter (· ≠ ',') = Nat.toDigits 10 n := by
  unfold grouped
  rw [List.filter_reverse, filter_groupReversed, List.reverse_reverse]
  intro h
  exact absurd (isDigit_toDigits (List.mem_reverse.mp h)) (by decide)

/-- The groups of digits in reverse order. -/
theorem groups_of_groupReversed (h : l ≠ []) :
    ∃ (rest : List (List Char)) (first : List Char),
      groupReversed l = (rest.map (· ++ [','])).flatten ++ first ∧
      l = rest.flatten ++ first ∧ (∀ g ∈ rest, g.length = 3) ∧
      1 ≤ first.length ∧ first.length ≤ 3 := by
  fun_induction groupReversed l with
  | case1 a b c d l ih =>
      obtain ⟨rest, first, hgroups, hdigits, hrest, hfirst⟩ := ih (by simp)
      refine ⟨[a, b, c] :: rest, first, ?_, ?_, List.forall_mem_cons.mpr ⟨rfl, hrest⟩, hfirst⟩
      · rw [hgroups]
        rfl
      · rw [hdigits]
        rfl
  | case2 l hshort =>
      refine ⟨[], l, rfl, rfl, nofun, List.length_pos_of_ne_nil h, ?_⟩
      match l, hshort with
      | [], _ => exact Nat.zero_le _
      | [_], _ => exact Nat.le_of_ble_eq_true rfl
      | [_, _], _ => exact Nat.le_of_ble_eq_true rfl
      | [_, _, _], _ => exact Nat.le_refl 3
      | a :: b :: c :: d :: l, hshort => exact (hshort a b c d l rfl).elim

/-- **A grouped numeral has groups of three from the right, and no leading zero.** -/
theorem isGrouped_grouped (n : ℕ) : IsGrouped (grouped n) := by
  obtain ⟨rest, first, hgroups, hdigits, hrest, hfirst⟩ :=
    groups_of_groupReversed (List.reverse_ne_nil_iff.mpr (Nat.toDigits_ne_nil (n := n) (b := 10)))
  have hall : Nat.toDigits 10 n = first.reverse ++ ((rest.map List.reverse).reverse).flatten := by
    rw [← List.reverse_reverse (Nat.toDigits 10 n), hdigits, List.reverse_append,
      List.reverse_flatten]
  refine ⟨first.reverse, (rest.map List.reverse).reverse, ?_, ?_, ?_, ?_, ?_⟩
  · unfold grouped
    rw [hgroups, List.reverse_append, List.reverse_flatten, List.map_map, List.map_reverse,
      List.map_map]
    congr 3
    refine List.map_congr_left fun g _ ↦ ?_
    simp
  · rwa [List.length_reverse]
  · intro g hg
    obtain ⟨g', hg', rfl⟩ := List.mem_map.mp (List.mem_reverse.mp hg)
    rw [List.length_reverse]
    exact hrest g' hg'
  · intro c hc
    rw [← hall] at hc
    exact isDigit_toDigits hc
  · intro hzero
    have hne : first.reverse ≠ [] := by
      intro hnil
      rw [hnil] at hzero
      cases hzero
    have hn : n = 0 := by
      by_contra hn
      refine head?_toDigits hn ?_
      rw [hall, List.head?_append_of_ne_nil _ hne, hzero]
    subst hn
    have hone : first.reverse.length + ((rest.map List.reverse).reverse).flatten.length = 1 := by
      rw [← List.length_append, ← hall]
      rfl
    have hpos := List.length_pos_of_ne_nil hne
    have hempty : rest = [] := by
      cases rest with
      | nil => rfl
      | cons g rest =>
          have hg := hrest g (.head _)
          simp only [List.map_cons, List.reverse_cons, List.flatten_append, List.length_append,
            List.flatten_cons, List.flatten_nil, List.length_reverse, List.length_nil] at hone
          omega
    subst hempty
    exact ⟨by rw [List.map_nil, List.reverse_nil, List.flatten_nil, List.append_nil] at hall
              exact hall.symm, rfl⟩

end

end HightowerPos.Numeral
