import Mathlib.Algebra.BigOperators.Group.List.Basic
import Mathlib.Algebra.Order.Ring.Int
import Mathlib.Data.List.Nodup

/-!
# Tables with a primary key

A `Table` is a list of rows in insertion order, no two of which have the same key.
Rows are added as a `Draft`, which gets its key when it is stored, and changed by an
`Update`, which cannot touch the key; both carry the proof, so that a table stays
well formed by construction.

`Table.total` sums an integer weight over the rows; counting the rows with a property
is the case of a weight that is `0` or `1`.
-/

namespace HightowerPos

variable {K V : Type}

/-- The columns one statement assigns: a function on rows that keeps the key. -/
structure Update (V : Type) (key : V → K) where
  set : V → V
  keeps : ∀ v, key (set v) = key v := by intro; rfl

namespace Update

variable {key : V → K}

/-- Assign nothing. -/
protected def id : Update V key where
  set v := v

/-- Assign the columns of `u`, then those of `u'`. -/
def andThen (u u' : Update V key) : Update V key where
  set v := u'.set (u.set v)
  keeps v := (u'.keeps _).trans (u.keeps v)

@[simp] theorem id_set (v : V) : (Update.id : Update V key).set v = v := rfl

@[simp] theorem andThen_set (u u' : Update V key) (v : V) :
    (u.andThen u').set v = u'.set (u.set v) := rfl

end Update

/-- A row that waits for its key. -/
structure Draft (V : Type) (key : V → K) where
  build : K → V
  keyed : ∀ k, key (build k) = k := by intro; rfl

/-- Rows with distinct keys, in insertion order. -/
structure Table (V : Type) (key : V → K) where
  rows : List V
  nodup : (rows.map key).Nodup

namespace Table

variable {key : V → K}

/-- A table without rows. -/
def empty : Table V key := ⟨[], .nil⟩

/-- A table with one row. -/
def single (v : V) : Table V key := ⟨[v], List.nodup_singleton _⟩

/-- The rows with a property, in insertion order. -/
def select (t : Table V key) (p : V → Bool) : List V := t.rows.filter p

/-- The first row with a property. -/
def first? (t : Table V key) (p : V → Bool) : Option V := t.rows.find? p

/-- The sum of a weight over the rows. -/
def total (t : Table V key) (g : V → Int) : Int := (t.rows.map g).sum

/-- When one row at most has a weight, and that is at most `b`, so is the total. -/
theorem total_le {t : Table V key} {g : V → Int} {b : Int} (hb : 0 ≤ b)
    (hle : ∀ v ∈ t.rows, g v ≤ b)
    (hone : ∀ v ∈ t.rows, ∀ v' ∈ t.rows, key v ≠ key v' → g v = 0 ∨ g v' = 0) :
    t.total g ≤ b := by
  obtain ⟨rows, hnd⟩ := t
  simp only [total] at *
  induction rows with
  | nil => simpa using hb
  | cons w rows ih =>
      obtain ⟨hw, hnd'⟩ := List.nodup_cons.mp hnd
      rw [List.map_cons, List.sum_cons]
      by_cases hzero : g w = 0
      · rw [hzero, Int.zero_add]
        exact ih hnd' (fun v hv ↦ hle v (List.mem_cons_of_mem _ hv))
          fun v hv v' hv' ↦ hone v (List.mem_cons_of_mem _ hv) v' (List.mem_cons_of_mem _ hv')
      · -- the head is the row with the weight
        have hrest : ∀ x ∈ rows.map g, x = 0 := by
          intro x hx
          obtain ⟨v, hv, rfl⟩ := List.mem_map.mp hx
          have hne : key w ≠ key v := fun hk ↦ hw (hk ▸ List.mem_map_of_mem hv)
          exact (hone w (.head _) v (List.mem_cons_of_mem _ hv) hne).resolve_left hzero
        rw [List.sum_eq_zero hrest, Int.add_zero]
        exact hle w (.head _)

section Keyed

variable [DecidableEq K]

/-- The row under a key. -/
def get? (t : Table V key) (k : K) : Option V := t.rows.find? fun v ↦ key v = k

/-- Change the row under a key, if there is one. -/
def modify (t : Table V key) (k : K) (u : Update V key) : Table V key where
  rows := t.rows.map fun v ↦ if key v = k then u.set v else v
  nodup := by
    have : ∀ v, key (if key v = k then u.set v else v) = key v := fun v ↦ by
      split
      · exact u.keeps v
      · rfl
    simpa only [List.map_map, Function.comp_def, this] using t.nodup

theorem mem_of_get? {t : Table V key} {k : K} {v : V} (h : t.get? k = some v) : v ∈ t.rows :=
  List.mem_of_find?_eq_some h

theorem key_of_get? {t : Table V key} {k : K} {v : V} (h : t.get? k = some v) : key v = k := by
  simpa only [decide_eq_true_eq] using List.find?_some h

/-- A row is found under its own key. -/
theorem get?_of_mem {t : Table V key} {v : V} (h : v ∈ t.rows) : t.get? (key v) = some v := by
  cases hw : t.get? (key v) with
  | none =>
      have := List.find?_eq_none.mp hw v h
      simp only [decide_true, not_true_eq_false] at this
  | some w => rw [List.inj_on_of_nodup_map t.nodup (mem_of_get? hw) h (key_of_get? hw)]

theorem get?_eq_some_iff {t : Table V key} {k : K} {v : V} :
    t.get? k = some v ↔ v ∈ t.rows ∧ key v = k :=
  ⟨fun h ↦ ⟨mem_of_get? h, key_of_get? h⟩, fun ⟨h, hk⟩ ↦ hk ▸ get?_of_mem h⟩

theorem get?_eq_none_iff {t : Table V key} {k : K} :
    t.get? k = none ↔ ∀ v ∈ t.rows, key v ≠ k := by
  simp [get?]

/-! ## Changing a row -/

theorem mem_modify {t : Table V key} {k : K} {u : Update V key} {w : V} :
    w ∈ (t.modify k u).rows ↔ ∃ v ∈ t.rows, (if key v = k then u.set v else v) = w := by
  simp [modify]

/-- The changed row. -/
theorem get?_modify_self {t : Table V key} {k : K} {u : Update V key} :
    (t.modify k u).get? k = (t.get? k).map u.set := by
  cases h : t.get? k with
  | none =>
      refine get?_eq_none_iff.mpr fun w hw hkw ↦ ?_
      obtain ⟨v, hv, rfl⟩ := mem_modify.mp hw
      have hne := get?_eq_none_iff.mp h v hv
      rw [if_neg hne] at hkw
      exact hne hkw
  | some v =>
      obtain ⟨hv, rfl⟩ := get?_eq_some_iff.mp h
      exact get?_eq_some_iff.mpr ⟨mem_modify.mpr ⟨v, hv, if_pos rfl⟩, u.keeps v⟩

/-- The other rows are unchanged. -/
theorem get?_modify_ne {t : Table V key} {k k' : K} {u : Update V key} (h : k' ≠ k) :
    (t.modify k u).get? k' = t.get? k' := by
  cases h' : t.get? k' with
  | none =>
      refine get?_eq_none_iff.mpr fun w hw hkw ↦ ?_
      obtain ⟨v, hv, rfl⟩ := mem_modify.mp hw
      have hne := get?_eq_none_iff.mp h' v hv
      split at hkw
      · exact hne ((u.keeps v).symm.trans hkw)
      · exact hne hkw
  | some v =>
      obtain ⟨hv, rfl⟩ := get?_eq_some_iff.mp h'
      exact get?_eq_some_iff.mpr ⟨mem_modify.mpr ⟨v, hv, if_neg h⟩, rfl⟩

theorem get?_modify {t : Table V key} {k k' : K} {u : Update V key} :
    (t.modify k u).get? k' = if k' = k then (t.get? k).map u.set else t.get? k' := by
  split
  · next h => subst h; exact get?_modify_self
  · next h => exact get?_modify_ne h

/-- A row after a change: it is the changed one, or it was there. -/
theorem of_get?_modify {t : Table V key} {k k' : K} {u : Update V key} {w : V}
    (h : (t.modify k u).get? k' = some w) :
    (k' = k ∧ ∃ v, t.get? k = some v ∧ w = u.set v) ∨ (k' ≠ k ∧ t.get? k' = some w) := by
  rw [get?_modify] at h
  split at h
  · next hk =>
      obtain ⟨v, hv, hw⟩ := Option.map_eq_some_iff.mp h
      exact .inl ⟨hk, v, hv, hw.symm⟩
  · next hk => exact .inr ⟨hk, h⟩

/-- A change to a row that is not there changes nothing. -/
theorem modify_eq_self {t : Table V key} {k : K} {u : Update V key} (h : t.get? k = none) :
    t.modify k u = t := by
  have hrows : (t.modify k u).rows = t.rows := by
    refine (List.map_congr_left fun v hv ↦ ?_).trans (List.map_id _)
    exact if_neg (get?_eq_none_iff.mp h v hv)
  cases t
  simpa only [modify, mk.injEq] using hrows

/-- Two changes that do the same to the row. -/
theorem modify_congr {t : Table V key} {k : K} {u u' : Update V key}
    (h : ∀ v, t.get? k = some v → u.set v = u'.set v) : t.modify k u = t.modify k u' := by
  simp only [modify, mk.injEq]
  refine List.map_congr_left fun v hv ↦ ?_
  split
  · next hk => exact h v (get?_eq_some_iff.mpr ⟨hv, hk⟩)
  · rfl

/-- Two changes to one row are one. -/
theorem modify_modify {t : Table V key} {k : K} {u u' : Update V key} :
    (t.modify k u).modify k u' =
      t.modify k (u.andThen u') := by
  simp only [modify, List.map_map, mk.injEq, Update.andThen_set]
  refine List.map_congr_left fun v _ ↦ ?_
  simp only [Function.comp_apply]
  by_cases h : key v = k
  · simp only [if_pos h, u.keeps]
  · simp only [if_neg h]

/-- A change moves a total by what it does to the weight of its row. -/
theorem total_modify {t : Table V key} {k : K} {u : Update V key} {g : V → Int} {v : V}
    (h : t.get? k = some v) :
    (t.modify k u).total g = t.total g + (g (u.set v) - g v) := by
  obtain ⟨rows, hnd⟩ := t
  obtain ⟨hv, rfl⟩ := get?_eq_some_iff.mp h
  simp only [total, modify]
  clear h
  induction rows with
  | nil => cases hv
  | cons w rows ih =>
      obtain ⟨hw, hnd'⟩ := List.nodup_cons.mp hnd
      simp only [List.map_cons, List.sum_cons]
      rcases List.mem_cons.mp hv with rfl | hmem
      · -- the row is the head, and no other row has its key
        have hrest : (rows.map fun x ↦ if key x = key v then u.set x else x) = rows := by
          refine (List.map_congr_left fun x hx ↦ ?_).trans (List.map_id _)
          exact if_neg fun hkx : key x = key v ↦ hw (hkx ▸ List.mem_map_of_mem hx)
        rw [hrest, if_pos rfl]
        omega
      · have hne : key w ≠ key v := fun hk ↦ hw (hk ▸ List.mem_map_of_mem hmem)
        rw [if_neg hne, ih hnd' hmem]
        omega

/-- A change that keeps the weight of its row keeps the total. -/
theorem total_modify_eq {t : Table V key} {k : K} {u : Update V key} {g : V → Int}
    (h : ∀ v, t.get? k = some v → g (u.set v) = g v) :
    (t.modify k u).total g = t.total g := by
  cases hk : t.get? k with
  | none => rw [modify_eq_self hk]
  | some v => rw [total_modify hk, h v hk, Int.sub_self, Int.add_zero]

/-! ## Adding a row -/

/-- Store a draft under a key that is not taken. -/
def insert (t : Table V key) (k : K) (d : Draft V key) (h : t.get? k = none) :
    Table V key where
  rows := t.rows ++ [d.build k]
  nodup := by
    rw [List.map_append, List.map_singleton, d.keyed]
    refine List.Nodup.append t.nodup (List.nodup_singleton _) ?_
    rintro k' hk' hmem
    obtain rfl := List.mem_singleton.mp hmem
    obtain ⟨v, hv, hkv⟩ := List.mem_map.mp hk'
    exact get?_eq_none_iff.mp h v hv hkv

theorem get?_insert {t : Table V key} {k k' : K} {d : Draft V key} {h : t.get? k = none} :
    (t.insert k d h).get? k' = if k' = k then some (d.build k) else t.get? k' := by
  split
  · next hk =>
      subst hk
      exact get?_eq_some_iff.mpr ⟨by simp [insert], d.keyed _⟩
  · next hk =>
      simp only [get?, insert, List.find?_append, List.find?_singleton, d.keyed,
        decide_eq_true_eq]
      rw [if_neg (Ne.symm hk), Option.or_none]

/-- `INSERT … ON CONFLICT DO UPDATE`: store the draft, or change the row that is there. -/
def upsert (t : Table V key) (k : K) (d : Draft V key) (u : Update V key) : Table V key :=
  if h : t.get? k = none then t.insert k d h else t.modify k u

theorem get?_upsert {t : Table V key} {k k' : K} {d : Draft V key} {u : Update V key} :
    (t.upsert k d u).get? k' =
      if k' = k then some (((t.get? k).map u.set).getD (d.build k)) else t.get? k' := by
  unfold upsert
  split
  · next h => rw [get?_insert, h, Option.map_none, Option.getD_none]
  · next h =>
      obtain ⟨v, hv⟩ := Option.ne_none_iff_exists'.mp h
      rw [get?_modify, hv, Option.map_some, Option.getD_some]

theorem total_insert {t : Table V key} {k : K} {d : Draft V key} {h : t.get? k = none}
    {g : V → Int} : (t.insert k d h).total g = t.total g + g (d.build k) := by
  simp [total, insert]

/-! ## Removing a row -/

/-- `DELETE`: remove the row under a key, if there is one. -/
def erase (t : Table V key) (k : K) : Table V key where
  rows := t.rows.filter fun v ↦ key v ≠ k
  nodup := t.nodup.sublist (List.filter_sublist.map key)

theorem get?_erase {t : Table V key} {k k' : K} :
    (t.erase k).get? k' = if k' = k then none else t.get? k' := by
  split
  · next hk =>
      subst hk
      refine get?_eq_none_iff.mpr fun v hv ↦ ?_
      simpa using (List.mem_filter.mp hv).2
  · next hk =>
      cases h : t.get? k' with
      | none =>
          refine get?_eq_none_iff.mpr fun v hv ↦ ?_
          exact get?_eq_none_iff.mp h v (List.mem_filter.mp hv).1
      | some v =>
          obtain ⟨hv, rfl⟩ := get?_eq_some_iff.mp h
          exact get?_eq_some_iff.mpr ⟨List.mem_filter.mpr ⟨hv, by simpa using hk⟩, rfl⟩

end Keyed

/-! ## Fresh keys -/

section Fresh

variable {key : V → Nat}

/-- A key that no row has. -/
def fresh (t : Table V key) : Nat := t.rows.foldr (fun v n ↦ max (key v + 1) n) 0

theorem lt_fresh {t : Table V key} {v : V} (h : v ∈ t.rows) : key v < t.fresh := by
  simp only [fresh]
  revert h
  induction t.rows with
  | nil => exact nofun
  | cons w rows ih =>
      intro h
      simp only [List.foldr_cons]
      rcases List.mem_cons.mp h with rfl | hmem
      · omega
      · have := ih hmem
        omega

theorem get?_fresh (t : Table V key) : t.get? t.fresh = none :=
  get?_eq_none_iff.mpr fun _ hv ↦ Nat.ne_of_lt (lt_fresh hv)

/-- Store a draft under a fresh key. -/
def add (t : Table V key) (d : Draft V key) : Table V key := t.insert t.fresh d t.get?_fresh

theorem get?_add {t : Table V key} {k : Nat} {d : Draft V key} :
    (t.add d).get? k = if k = t.fresh then some (d.build t.fresh) else t.get? k := get?_insert

/-- A row after one was added: it is the new one, or it was there. -/
theorem of_get?_add {t : Table V key} {k : Nat} {d : Draft V key} {v : V}
    (h : (t.add d).get? k = some v) :
    (k = t.fresh ∧ v = d.build t.fresh) ∨ (k ≠ t.fresh ∧ t.get? k = some v) := by
  rw [get?_add] at h
  split at h
  · next hk => exact .inl ⟨hk, (Option.some.inj h).symm⟩
  · next hk => exact .inr ⟨hk, h⟩

/-- What was stored stays. -/
theorem get?_add_of_some {t : Table V key} {k : Nat} {d : Draft V key} {v : V}
    (h : t.get? k = some v) : (t.add d).get? k = some v := by
  rw [get?_add, if_neg, h]
  rintro rfl
  rw [get?_fresh] at h
  cases h

@[simp] theorem total_add {t : Table V key} {d : Draft V key} {g : V → Int} :
    (t.add d).total g = t.total g + g (d.build t.fresh) := total_insert

end Fresh

end Table

end HightowerPos
