import Mathlib.Data.List.Basic

/-!
# Texts in columns

The lines of a text, and texts that keep within so many columns (`Fits`), also when they are set
behind others on a line (`FitsFrom`).
-/

namespace HightowerPos.Columns

/-- The lines of a text. -/
def lines (s : List Char) : List (List Char) := s.splitOn '\n'

/-- No line is longer than `w`. -/
def Fits (w : ℕ) (s : List Char) : Prop := ∀ l ∈ lines s, l.length ≤ w

/-- No line is longer than `w` when the text is set behind `k` characters. -/
def FitsFrom (w k : ℕ) (s : List Char) : Prop :=
  k + (lines s).headI.length ≤ w ∧ ∀ l ∈ (lines s).tail, l.length ≤ w

instance (w : ℕ) (s : List Char) : Decidable (Fits w s) := inferInstanceAs (Decidable (∀ _ ∈ _, _))

instance (w k : ℕ) (s : List Char) : Decidable (FitsFrom w k s) :=
  inferInstanceAs (Decidable (_ ∧ _))

section

variable {s t : List Char} {ls : List (List Char)} {w k : ℕ}

theorem lines_of_notMem (h : '\n' ∉ s) : lines s = [s] := List.splitOn_eq_singleton h

theorem lines_append_cons (s t : List Char) : lines (s ++ '\n' :: t) = lines s ++ lines t :=
  List.splitOn_append_cons_self s t

/-- Joined texts have the lines of each of them. -/
theorem lines_intercalate (h : ls ≠ []) : lines (['\n'].intercalate ls) = ls.flatMap lines := by
  induction ls with
  | nil => exact absurd rfl h
  | cons s ls ih =>
      cases ls with
      | nil => rw [List.intercalate_singleton, List.flatMap_singleton]
      | cons t ls =>
          rw [List.intercalate_cons_cons, List.append_assoc, List.singleton_append,
            lines_append_cons, ih (List.cons_ne_nil t ls), ← List.flatMap_cons]

/-- A text set behind another without a line break: its first line is longer. -/
theorem lines_append (h : '\n' ∉ s) :
    lines (s ++ t) = (s ++ (lines t).headI) :: (lines t).tail := by
  induction s with
  | nil =>
      obtain ⟨l, ls, hl⟩ := List.exists_cons_of_ne_nil (List.splitOn_ne_nil '\n' t)
      show lines t = (lines t).headI :: (lines t).tail
      unfold lines
      rw [hl]
      rfl
  | cons c s ih =>
      rw [List.mem_cons, not_or] at h
      unfold lines at ih ⊢
      rw [List.cons_append, List.splitOn_cons_eq_if_modifyHead, ih h.2, if_neg]
      · rfl
      · rw [beq_iff_eq]
        exact Ne.symm h.1

/-- A line is no longer than the text. -/
theorem fits_of_length (h : s.length ≤ w) : Fits w s := by
  intro l hl
  suffices hlines : ∀ l ∈ lines s, l.length ≤ s.length from
    Nat.le_trans (hlines l hl) h
  clear h hl l
  induction s with
  | nil => exact fun l hl ↦ (List.mem_singleton.mp hl) ▸ Nat.le_refl _
  | cons c s ih =>
      unfold lines at ih ⊢
      rw [List.splitOn_cons_eq_if_modifyHead]
      split
      · rintro l (_ | ⟨_, hl⟩)
        · exact Nat.zero_le _
        · exact Nat.le_trans (ih l hl) (Nat.le_succ _)
      · obtain ⟨l, ls, hls⟩ := List.exists_cons_of_ne_nil (List.splitOn_ne_nil '\n' s)
        rw [hls] at ih ⊢
        rintro l' (_ | ⟨_, hl'⟩)
        · exact Nat.succ_le_succ (ih l (.head _))
        · exact Nat.le_trans (ih l' (.tail _ hl')) (Nat.le_succ _)

theorem fits_of_notMem (h : '\n' ∉ s) : Fits w s ↔ s.length ≤ w := by
  unfold Fits
  rw [lines_of_notMem h]
  exact List.forall_mem_singleton

/-- A text behind another fits when it does from the column after it. -/
theorem fits_append (h : '\n' ∉ s) : Fits w (s ++ t) ↔ FitsFrom w s.length t := by
  unfold Fits FitsFrom
  rw [lines_append h, List.forall_mem_cons, List.length_append]

end

end HightowerPos.Columns
