import Mathlib.Data.List.Sort

/-!
# Pages of a list that grows

A list is read page by page, until a page is not full, and it may have changed from one page to the
next.  As long as rows only get in, and none gets out, every row that was there at the first page is
on one of the pages: a row can move down, but not up.
-/

namespace HightowerPos.Paging

variable {σ V K : Type}

/-- `LIMIT` and `OFFSET`. -/
def page (l : List V) (limit offset : ℕ) : List V := (l.drop offset).take limit

theorem map_page (f : V → K) (l : List V) (limit offset : ℕ) :
    (page l limit offset).map f = page (l.map f) limit offset := by
  rw [page, List.map_take, List.map_drop]
  rfl

section Rows

variable [DecidableEq K] {l l' : List K} {k : K} {limit offset : ℕ}

/-- A row moves down, if at all. -/
theorem idxOf_le_of_sublist (h : l.Sublist l') (hnd : l'.Nodup) (hk : k ∈ l) :
    l.idxOf k ≤ l'.idxOf k := by
  induction h with
  | slnil => exact le_rfl
  | cons a h ih =>
      obtain ⟨ha, hnd⟩ := List.nodup_cons.mp hnd
      have hne : a ≠ k := fun heq ↦ ha (heq ▸ h.subset hk)
      rw [List.idxOf_cons_ne _ hne]
      exact (ih hnd hk).trans (Nat.le_succ _)
  | cons_cons a h ih =>
      by_cases hne : a = k
      · rw [hne, List.idxOf_cons_self]
        exact Nat.zero_le _
      · rw [List.idxOf_cons_ne _ hne, List.idxOf_cons_ne _ hne]
        apply Nat.succ_le_succ
        exact ih hnd.of_cons ((List.mem_cons.mp hk).resolve_left fun heq ↦ hne heq.symm)

theorem mem_page (hk : k ∈ l) (hle : offset ≤ l.idxOf k) (hlt : l.idxOf k < offset + limit) :
    k ∈ page l limit offset := by
  apply List.mem_of_getElem? (i := l.idxOf k - offset)
  rw [page, List.getElem?_take_of_lt (by omega), List.getElem?_drop, Nat.add_sub_cancel' hle]
  exact List.getElem?_idxOf hk

end Rows

/-- Sorting is stable, so that it keeps sublists. -/
theorem sublist_insertionSort {r : V → V → Prop} [DecidableRel r] [Std.Total r] [IsTrans V r]
    {l l' : List V} (h : l.Sublist l') : (l.insertionSort r).Sublist (l'.insertionSort r) := by
  induction h with
  | slnil => exact .slnil
  | cons a h ih => exact ih.trans (List.sublist_orderedInsert a _)
  | cons_cons a h ih => exact ih.orderedInsert_sublist a (List.pairwise_insertionSort r _)

/-- The pages that are read at one state after the other; the last one is not full. -/
inductive Pages (view : σ → List V) (Later : σ → σ → Prop) (limit : ℕ) :
    ℕ → σ → List (List V) → Prop
  | last {offset : ℕ} {s : σ} (h : (page (view s) limit offset).length < limit) :
      Pages view Later limit offset s [page (view s) limit offset]
  | next {offset : ℕ} {s s' : σ} {pages : List (List V)} (hlater : Later s s')
      (h : Pages view Later limit (offset + limit) s' pages) :
      Pages view Later limit offset s (page (view s) limit offset :: pages)

/-- **No row is missed.** -/
theorem Pages.covers [DecidableEq K] {view : σ → List V} {Later : σ → σ → Prop} {limit offset : ℕ}
    {s : σ} {pages : List (List V)} (h : Pages view Later limit offset s pages) (key : V → K)
    {I : σ → Prop} (hnd : ∀ s, ((view s).map key).Nodup)
    (hlater : ∀ s s', I s → Later s s' →
      I s' ∧ ((view s).map key).Sublist ((view s').map key)) (hI : I s)
    {k : K} (hk : k ∈ (view s).map key) (hle : offset ≤ ((view s).map key).idxOf k) :
    ∃ p ∈ pages, k ∈ p.map key := by
  induction h with
  | @last offset s hfull =>
      refine ⟨_, List.mem_singleton_self _, ?_⟩
      rw [map_page]
      apply mem_page hk hle
      have hidx := List.idxOf_lt_length_of_mem hk
      rw [List.length_map] at hidx
      rw [page, List.length_take, List.length_drop] at hfull
      omega
  | @next offset s s' pages hl h ih =>
      by_cases hlt : ((view s).map key).idxOf k < offset + limit
      · refine ⟨_, List.mem_cons_self, ?_⟩
        rw [map_page]
        exact mem_page hk hle hlt
      · obtain ⟨hI', hsub⟩ := hlater s s' hI hl
        have hmoved := idxOf_le_of_sublist hsub (hnd s') hk
        obtain ⟨p, hp, hkp⟩ := ih hI' (hsub.subset hk) (by omega)
        exact ⟨p, List.mem_cons_of_mem _ hp, hkp⟩

end HightowerPos.Paging
