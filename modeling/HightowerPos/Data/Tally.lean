import HightowerPos.Data.Table

/-!
# Totals by owner

The rows of a table may belong to an owner, the account that a row is posted to for
instance.  `Table.tally` sums a weight over the rows of one owner.  A running counter is
right when it equals a tally; the lemmas say how a tally moves when a row is added, changed
or given its owner.
-/

namespace HightowerPos.Table

variable {K V S : Type} {key : V → K} {owner : V → Option S} {g : V → Int}

variable [DecidableEq S]

/-- The sum of a weight over the rows that belong to `s`. -/
def tally (t : Table V key) (owner : V → Option S) (g : V → Int) (s : S) : Int :=
  t.total fun v ↦ if owner v = some s then g v else 0

/-- A tally of some rows only is a sum over the owner's rows among them. -/
theorem tally_filter (t : Table V key) (s : S) (p : V → Prop) [DecidablePred p] :
    t.tally owner (fun v ↦ if p v then g v else 0) s =
      ((t.select fun v ↦ owner v = some s ∧ p v).map g).sum := by
  obtain ⟨rows, hnd⟩ := t
  simp only [tally, total, select]
  clear hnd
  induction rows with
  | nil => rfl
  | cons v rows ih =>
      rw [List.map_cons, List.sum_cons, ih, List.filter_cons]
      by_cases h : owner v = some s <;> by_cases hp : p v <;> simp [h, hp]

/-- A tally of ones counts the owner's rows. -/
theorem tally_indicator (owner : V → Option S) (t : Table V key) (s : S) (p : V → Prop)
    [DecidablePred p] :
    t.tally owner (fun v ↦ if p v then 1 else 0) s =
      (t.select fun v ↦ owner v = some s ∧ p v).length := by
  rw [tally_filter, List.map_const', List.sum_replicate_int, Int.mul_one]

theorem tally_eq_zero {t : Table V key} {s : S} (h : ∀ v ∈ t.rows, owner v ≠ some s) :
    t.tally owner g s = 0 := by
  rw [tally, total, List.sum_eq_zero]
  intro x hx
  obtain ⟨v, hv, rfl⟩ := List.mem_map.mp hx
  exact if_neg (h v hv)

/-- A row that belongs to nobody. -/
theorem tally_add {key : V → Nat} {t : Table V key} {d : Draft V key} {s : S}
    (h : ∀ k, owner (d.build k) = none) : (t.add d).tally owner g s = t.tally owner g s := by
  rw [tally, total_add, h, if_neg nofun, Int.add_zero]
  rfl

section Keyed

variable [DecidableEq K] {t : Table V key} {k : K} {u : Update V key} {v : V} {s : S}

/-- A change that keeps the owner of a row, and its weight once it has an owner. -/
theorem tally_modify
    (h : ∀ v, t.get? k = some v → owner (u.set v) = owner v ∧
      (owner v ≠ none → g (u.set v) = g v)) :
    (t.modify k u).tally owner g s = t.tally owner g s := by
  refine total_modify_eq fun v hv ↦ ?_
  obtain ⟨howner, hg⟩ := h v hv
  rw [howner]
  by_cases hs : owner v = some s
  · rw [if_pos hs, if_pos hs]
    exact hg (by rw [hs]; nofun)
  · rw [if_neg hs, if_neg hs]

/-- A row that is given its owner counts for that owner from then on. -/
theorem tally_own (owner : V → Option S) {s₀ : S} (h : t.get? k = some v) (hnone : owner v = none)
    (hown : owner (u.set v) = some s₀) :
    (t.modify k u).tally owner g s =
      t.tally owner g s + if s = s₀ then g (u.set v) else 0 := by
  rw [tally, total_modify h, hown, hnone, if_neg (by nofun : none ≠ some s), Int.sub_zero]
  by_cases hs : s = s₀
  · rw [if_pos (congrArg some hs.symm), if_pos hs]
    rfl
  · rw [if_neg hs, if_neg fun h ↦ hs (Option.some.inj h).symm]
    rfl

end Keyed

end HightowerPos.Table
