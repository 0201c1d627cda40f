import Mathlib.Data.List.Nodup

/-!
# Lists with distinct keys

An entry of a list is found by its key.  Where the keys are distinct, a key stands at one place,
and what is done to the entries with that key is done there (`map_at`, `flatMap_at`).
-/

namespace HightowerPos

variable {α κ : Type} {key : α → κ} {l l₁ l₂ new : List α} {x : α} {k : κ}

/-- An entry parts a list with distinct keys. -/
theorem parts_of_mem (h : (l.map key).Nodup) (hx : x ∈ l) :
    ∃ l₁ l₂, l = l₁ ++ x :: l₂ ∧ key x ∉ l₁.map key ∧ key x ∉ l₂.map key := by
  obtain ⟨l₁, l₂, rfl⟩ := List.append_of_mem hx
  rw [List.map_append, List.map_cons] at h
  obtain ⟨-, hright, hdisjoint⟩ := List.nodup_append'.mp h
  exact ⟨l₁, l₂, rfl, fun hmem ↦ hdisjoint hmem (.head _), (List.nodup_cons.mp hright).1⟩

section Decidable

variable [DecidableEq κ]

/-- What is done to a key that is not there. -/
theorem map_of_notMem {f : α → α} (h : k ∉ l.map key) :
    l.map (fun y ↦ if key y = k then f y else y) = l := by
  refine (List.map_congr_left fun y hy ↦ ?_).trans (List.map_id l)
  exact if_neg fun hk ↦ h (List.mem_map.mpr ⟨y, hy, hk⟩)

theorem flatMap_of_notMem (h : k ∉ l.map key) :
    l.flatMap (fun y ↦ if key y = k then new else [y]) = l := by
  induction l with
  | nil => rfl
  | cons y l ih =>
      rw [List.map_cons, List.mem_cons, not_or] at h
      rw [List.flatMap_cons, if_neg (Ne.symm h.1), ih h.2]
      rfl

theorem filter_of_notMem (h : k ∉ l.map key) : l.filter (fun y ↦ key y ≠ k) = l := by
  refine List.filter_eq_self.mpr fun y hy ↦ ?_
  rw [decide_eq_true_eq]
  exact fun hk ↦ h (List.mem_map.mpr ⟨y, hy, hk⟩)

/-- A change of the entries with a key is a change at its place. -/
theorem map_at {f : α → α} (h₁ : key x ∉ l₁.map key) (h₂ : key x ∉ l₂.map key) :
    (l₁ ++ x :: l₂).map (fun y ↦ if key y = key x then f y else y) = l₁ ++ f x :: l₂ := by
  rw [List.map_append, List.map_cons, map_of_notMem h₁, map_of_notMem h₂, if_pos rfl]

/-- The entries with a key are replaced at its place. -/
theorem flatMap_at (h₁ : key x ∉ l₁.map key) (h₂ : key x ∉ l₂.map key) :
    (l₁ ++ x :: l₂).flatMap (fun y ↦ if key y = key x then new else [y]) = l₁ ++ (new ++ l₂) := by
  rw [List.flatMap_append, List.flatMap_cons, flatMap_of_notMem h₁, flatMap_of_notMem h₂,
    if_pos rfl]

/-- The entry that is found under its key. -/
theorem find?_at (h₁ : key x ∉ l₁.map key) :
    (l₁ ++ x :: l₂).find? (fun y ↦ key y = key x) = some x := by
  have hleft : l₁.find? (fun y ↦ key y = key x) = none := by
    refine List.find?_eq_none.mpr fun y hy ↦ ?_
    rw [decide_eq_true_eq]
    exact fun hk ↦ h₁ (List.mem_map.mpr ⟨y, hy, hk⟩)
  rw [List.find?_append, hleft, Option.none_or]
  exact List.find?_cons_of_pos (decide_eq_true rfl)

end Decidable

/-- A change that keeps the keys. -/
theorem map_key {f : α → α} (hf : ∀ y, key (f y) = key y) : (l.map f).map key = l.map key := by
  rw [List.map_map]
  exact List.map_congr_left fun y _ ↦ hf y

/-- New keys in the place of one. -/
theorem nodup_splice (h : ((l₁ ++ x :: l₂).map key).Nodup) (hnew : (new.map key).Nodup)
    (hfresh : ∀ k ∈ new.map key, k ∉ (l₁ ++ x :: l₂).map key) :
    ((l₁ ++ (new ++ l₂)).map key).Nodup := by
  simp only [List.map_append, List.map_cons] at h hfresh ⊢
  obtain ⟨hleft, hright, hdisjoint⟩ := List.nodup_append'.mp h
  refine List.nodup_append'.mpr ⟨hleft, List.nodup_append'.mpr
    ⟨hnew, (List.nodup_cons.mp hright).2, fun k hk hk' ↦ ?_⟩, fun k hk hk' ↦ ?_⟩
  · exact hfresh k hk (List.mem_append_right _ (.tail _ hk'))
  · rcases List.mem_append.mp hk' with hk' | hk'
    · exact hfresh k hk' (List.mem_append_left _ hk)
    · exact hdisjoint hk (.tail _ hk')

end HightowerPos
