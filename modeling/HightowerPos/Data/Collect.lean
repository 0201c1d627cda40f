import Mathlib.Data.List.Forall2

/-!
# Lists that are read element by element

`List.mapM` in `Except`: it succeeds when each element does (`mapM_eq_ok_iff`).
-/

namespace HightowerPos

variable {α β γ ε : Type} {f : α → Except ε β} {l : List α} {l' : List β}

theorem exists_of_isOk {x : Except ε α} (h : x.isOk = true) : ∃ y, x = .ok y := by
  cases x with
  | error e => cases h
  | ok y => exact ⟨y, rfl⟩

theorem exists_of_map_ok {x : Except ε α} {g : α → γ} {z : γ} (h : x.map g = .ok z) :
    ∃ y, x = .ok y ∧ g y = z := by
  cases x with
  | error e => cases h
  | ok y =>
      cases h
      exact ⟨y, rfl, rfl⟩

/-- **The list is read when each element is.** -/
theorem mapM_eq_ok_iff : l.mapM f = .ok l' ↔ List.Forall₂ (fun x y ↦ f x = .ok y) l l' := by
  induction l generalizing l' with
  | nil =>
      rw [List.mapM_nil, List.forall₂_nil_left_iff]
      exact ⟨fun h ↦ (Except.ok.inj h).symm, fun h ↦ congrArg Except.ok h.symm⟩
  | cons x l ih =>
      rw [List.mapM_cons, List.forall₂_cons_left_iff]
      constructor
      · intro h
        cases hx : f x with
        | error e =>
            rw [hx] at h
            cases h
        | ok y =>
            cases hl : l.mapM f with
            | error e =>
                rw [hx, hl] at h
                cases h
            | ok ys =>
                rw [hx, hl] at h
                cases h
                exact ⟨y, ys, rfl, ih.mp hl, rfl⟩
      · rintro ⟨y, ys, hx, hl, rfl⟩
        rw [hx, ih.mpr hl]
        rfl

/-- Lists that are read for each element, and joined. -/
theorem mapM_cons_flatten {f : α → Except ε (List β)} (x : α) (l : List α) :
    (do return (← (x :: l).mapM f).flatten : Except ε (List β)) =
      (do return (← f x) ++ (← (do return (← l.mapM f).flatten : Except ε (List β)))) := by
  rw [List.mapM_cons]
  cases f x with
  | error e => rfl
  | ok y => cases l.mapM f <;> rfl

theorem exists_mapM_eq_ok_iff : (∃ l', l.mapM f = .ok l') ↔ ∀ x ∈ l, ∃ y, f x = .ok y := by
  simp only [mapM_eq_ok_iff]
  induction l with
  | nil => exact ⟨fun _ _ hx ↦ absurd hx List.not_mem_nil, fun _ ↦ ⟨[], .nil⟩⟩
  | cons x l ih =>
      rw [List.forall_mem_cons, ← ih]
      constructor
      · rintro ⟨_, hxy | ⟨hxy, hl⟩⟩
        exact ⟨⟨_, hxy⟩, _, hl⟩
      · rintro ⟨⟨y, hxy⟩, l', hl⟩
        exact ⟨y :: l', .cons hxy hl⟩

/-- What is selected from two lists that agree element by element. -/
theorem filterMap_eq_of_forall₂ {R : α → β → Prop} {g : α → Option γ} {g' : β → Option γ}
    (hg : ∀ x y, R x y → g x = g' y) (h : List.Forall₂ R l l') :
    l.filterMap g = l'.filterMap g' := by
  induction h with
  | nil => rfl
  | cons hxy _ ih => rw [List.filterMap_cons, List.filterMap_cons, hg _ _ hxy, ih]

end HightowerPos
