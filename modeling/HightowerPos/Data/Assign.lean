import Mathlib.Data.List.Forall2
import Mathlib.Logic.Function.Basic

/-!
# The last assignment wins

Pairs of keys and values are assigned one at a time to a map (`assign`).  A key that they do not
name keeps its value, and one that they name has the last (`assign_eq`).
-/

namespace HightowerPos

variable {K V : Type} [DecidableEq K]

/-- Assign the pairs, one at a time. -/
def assign (m : K → Option V) (l : List (K × V)) : K → Option V :=
  l.foldl (fun m kv ↦ Function.update m kv.1 (some kv.2)) m

/-- The last value that the pairs give to the key. -/
def lastValue (l : List (K × V)) (k : K) : Option V :=
  (l.reverse.find? fun kv ↦ kv.1 = k).map (·.2)

section Assign

variable {m : K → Option V} {l l' : List (K × V)} {k : K} {v : V}

@[simp] theorem assign_nil : assign m [] = m := rfl

@[simp] theorem assign_cons {kv : K × V} :
    assign m (kv :: l) = assign (Function.update m kv.1 (some kv.2)) l := rfl

theorem assign_append : assign m (l ++ l') = assign (assign m l) l' := List.foldl_append

theorem lastValue_cons {kv : K × V} :
    lastValue (kv :: l) k = (lastValue l k).or (if kv.1 = k then some kv.2 else none) := by
  unfold lastValue
  rw [List.reverse_cons, List.find?_append]
  cases l.reverse.find? fun kv ↦ kv.1 = k with
  | some kv' => rfl
  | none => by_cases h : kv.1 = k <;> simp [h]

theorem lastValue_append : lastValue (l ++ l') k = (lastValue l' k).or (lastValue l k) := by
  unfold lastValue
  rw [List.reverse_append, List.find?_append]
  cases l'.reverse.find? fun kv ↦ kv.1 = k <;> rfl

/-- **The last assignment wins**, and a key that is not named keeps its value. -/
theorem assign_eq (m : K → Option V) (l : List (K × V)) (k : K) :
    assign m l k = (lastValue l k).or (m k) := by
  induction l generalizing m with
  | nil => rfl
  | cons kv l ih =>
      rw [assign_cons, ih, lastValue_cons, Option.or_assoc]
      by_cases h : kv.1 = k
      · subst h
        rw [Function.update_self, if_pos rfl, Option.some_or]
      · rw [Function.update_of_ne (Ne.symm h), if_neg h, Option.none_or]

theorem lastValue_eq_none_iff : lastValue l k = none ↔ k ∉ l.map (·.1) := by
  induction l with
  | nil => simp [lastValue]
  | cons kv l ih =>
      rw [lastValue_cons, Option.or_eq_none_iff, ih]
      by_cases h : kv.1 = k
      · simp [h]
      · simp [h, Ne.symm h]

theorem mem_of_lastValue (h : lastValue l k = some v) : (k, v) ∈ l := by
  obtain ⟨⟨k', v'⟩, hfind, hv⟩ := Option.map_eq_some_iff.mp h
  have hk : k' = k := by simpa using List.find?_some hfind
  subst hk hv
  exact List.mem_reverse.mp (List.mem_of_find?_eq_some hfind)

end Assign

end HightowerPos
