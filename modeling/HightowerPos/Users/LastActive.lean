import HightowerPos.Async.Crew
import HightowerPos.Service
import HightowerPos.Services.Users

/-!
# The last active user

`deactivate_user` refuses to deactivate the last active user, but its count is read before
its commit, and another deactivation may commit in between.  A commit deactivates one user at
most, so that the guard is enough wherever it still passes at the commit; where it does not,
nobody is left (`never_locked_out_iff`).
-/

namespace HightowerPos.Users

open Async

/-- The user routes, each request in a thread of its own. -/
def system : System World Call Answer PyExc Request where
  handle := handle
  send := World.send
  reply _ _ _ := True
  drift := World.Drift

/-- The user is active. -/
def Active (w : World) (x : String) : Prop :=
  ∃ u, w.db.posUsers.get? x = some u ∧ u.isActive = true

/-- Somebody is active. -/
def SomeoneActive (w : World) : Prop := ∃ x, Active w x

/-- Nobody is deactivated, or one user is and nobody is added. -/
def DeactivatesOne (w w' : World) : Prop :=
  (∀ y, Active w y → Active w' y) ∨ ∃ x, ∀ y, Active w' y ↔ y ≠ x ∧ Active w y

/-- Where a user is deactivated, the guard of `deactivate_user` passes. -/
def Guarded (c c' : Crew World Call Answer PyExc Request) : Prop :=
  ∀ x, Active c.state x → ¬ Active c'.state x → ¬ activeCount c.state.db ≤ 1

/-! ## What a request may do -/

section Moves

variable {w : World}

theorem deactivatesOne_of_same {w' : World} (h : w'.db.posUsers = w.db.posUsers) :
    DeactivatesOne w w' := by
  refine .inl fun y hy ↦ ?_
  unfold Active
  rw [h]
  exact hy

theorem deactivatesOne_deactivated (x : String) :
    DeactivatesOne w (w.updateUser x deactivated) := by
  refine .inr ⟨x, fun y ↦ ?_⟩
  unfold Active World.updateUser
  by_cases hy : y = x
  · subst hy
    rw [Table.get?_modify_self]
    refine iff_of_false ?_ fun h ↦ h.1 rfl
    rintro ⟨u, hu, hactive⟩
    obtain ⟨v, -, rfl⟩ := Option.map_eq_some_iff.mp hu
    cases hactive
  · rw [Table.get?_modify_ne hy]
    exact (and_iff_right hy).symm

theorem deactivatesOne_addUser {x : String} {d : Draft POSUser POSUser.username}
    (h : w.db.posUsers.get? x = none) : DeactivatesOne w (w.addUser x d h) := by
  refine .inl fun y hy ↦ ?_
  have hne : y ≠ x := by
    rintro rfl
    obtain ⟨u, hu, -⟩ := hy
    rw [h] at hu
    cases hu
  unfold Active World.addUser
  rw [Table.get?_insert, if_neg hne]
  exact hy

theorem guarantees_deactivateUser (token : Option String) (username : String) :
    (deactivateUser token username).Guarantees World.send (fun _ ↦ True) DeactivatesOne
      fun _ ↦ True := by
  unfold deactivateUser
  rw [Prog.read_bind]
  intro w _
  refine ⟨deactivatesOne_of_same rfl, ?_⟩
  dsimp only
  cases getAuth w token with
  | error e => trivial
  | ok ctx =>
      simp only [App.ofExcept, Prog.pure_bind]
      cases checkDeactivate w ctx username with
      | error e => trivial
      | ok target =>
          cases target with
          | none => trivial
          | some user => exact fun _ _ ↦ ⟨deactivatesOne_deactivated _, trivial⟩

theorem guarantees_createUser (token : Option String) (username displayName : String) :
    (createUser token username displayName).Guarantees World.send (fun _ ↦ True) DeactivatesOne
      fun _ ↦ True := by
  unfold createUser
  rw [Prog.read_bind]
  intro w _
  refine ⟨deactivatesOne_of_same rfl, ?_⟩
  dsimp only
  cases getAuth w token with
  | error e => trivial
  | ok ctx =>
      simp only [App.ofExcept, Prog.pure_bind]
      split
      · trivial
      · intro w' _
        by_cases hnone : w'.db.posUsers.get? username = none
        · simp only [dif_pos hnone]
          exact ⟨deactivatesOne_addUser hnone, trivial⟩
        · simp only [dif_neg hnone]

/-- A request deactivates one user at most at each of its accesses. -/
theorem guarantees_handle (i : Request) :
    (handle i).Guarantees World.send (fun _ ↦ True) DeactivatesOne fun _ ↦ True := by
  cases i with
  | deactivateUser token username => exact guarantees_deactivateUser token username
  | createUser token username displayName => exact guarantees_createUser token username displayName

end Moves

/-! ## The count of active users -/

section Count

variable {w w' : World}

/-- The active users are those that are counted. -/
theorem mem_active {u : POSUser} :
    u ∈ w.db.posUsers.select (·.isActive) ↔
      w.db.posUsers.get? u.username = some u ∧ u.isActive = true := by
  rw [Table.select, List.mem_filter, Table.get?_eq_some_iff]
  simp

/-- A second active user. -/
theorem exists_other (h : 1 < activeCount w.db) (x : String) : ∃ y, y ≠ x ∧ Active w y := by
  have hnodup : ((w.db.posUsers.select (·.isActive)).map POSUser.username).Nodup :=
    w.db.posUsers.nodup.sublist (List.filter_sublist.map _)
  have hactive (u : POSUser) (hu : u ∈ w.db.posUsers.select (·.isActive)) : Active w u.username :=
    ⟨u, mem_active.mp hu⟩
  unfold activeCount at h
  generalize w.db.posUsers.select (·.isActive) = l at h hnodup hactive
  match l with
  | [] => cases h
  | [u] => exact absurd h (lt_irrefl 1)
  | u :: v :: l =>
      have hne : u.username ≠ v.username := by
        intro huv
        simp [huv] at hnodup
      by_cases hx : u.username = x
      · exact ⟨v.username, fun hv ↦ hne (hx.trans hv.symm), hactive v (by simp)⟩
      · exact ⟨u.username, hx, hactive u (by simp)⟩

/-- The only active user. -/
theorem eq_of_count (h : activeCount w.db ≤ 1) {x y : String} (hx : Active w x)
    (hy : Active w y) : x = y := by
  by_contra hne
  obtain ⟨u, hu, hua⟩ := hx
  obtain ⟨v, hv, hva⟩ := hy
  obtain rfl := Table.key_of_get? hu
  obtain rfl := Table.key_of_get? hv
  have hu' := mem_active.mpr ⟨hu, hua⟩
  have hv' := mem_active.mpr ⟨hv, hva⟩
  unfold activeCount at h
  generalize w.db.posUsers.select (·.isActive) = l at h hu' hv'
  match l with
  | [] => cases hu'
  | [a] =>
      rw [List.mem_singleton.mp hu', List.mem_singleton.mp hv'] at hne
      exact hne rfl
  | _ :: _ :: _ => simp at h

end Count

/-! ## Runs -/

section Runs

variable {c c' : Crew World Call Answer PyExc Request}

/-- A move leaves somebody active when it is guarded, and only then. -/
theorem DeactivatesOne.someoneActive_iff (hmove : DeactivatesOne c.state c'.state)
    (h : SomeoneActive c.state) : SomeoneActive c'.state ↔ Guarded c c' := by
  constructor
  · rintro ⟨y, hy⟩ x hx hx' hcount
    rcases hmove with hkeep | ⟨x', hmove⟩
    · exact hx' (hkeep x hx)
    · -- who is active afterwards was active before
      obtain rfl := eq_of_count hcount hx ((hmove y).mp hy).2
      exact hx' hy
  · intro hguard
    obtain ⟨x, hx⟩ := h
    by_cases hx' : Active c'.state x
    · exact ⟨x, hx'⟩
    · obtain ⟨y, hne, hy⟩ := exists_other (not_le.mp (hguard x hx hx')) x
      rcases hmove with hkeep | ⟨x', hmove⟩
      · exact absurd (hkeep x hx) hx'
      · have hxx : x = x' := by
          by_contra hne'
          exact hx' ((hmove x).mpr ⟨hne', hx⟩)
        subst hxx
        exact ⟨y, (hmove y).mpr ⟨hne, hy⟩⟩

/-- What a step of the user routes does. -/
theorem deactivatesOne_step (hkeeps : c.Keeps system DeactivatesOne)
    (hs : Crew.Step system .free c c') :
    c'.Keeps system DeactivatesOne ∧ DeactivatesOne c.state c'.state := by
  obtain ⟨hkeeps', hsame | hmove | hdrift⟩ := hkeeps.step guarantees_handle hs
  · exact ⟨hkeeps', deactivatesOne_of_same (by rw [hsame])⟩
  · exact ⟨hkeeps', hmove⟩
  · exact ⟨hkeeps', deactivatesOne_of_same (by rw [hdrift.db])⟩

/-- A run from any threads. -/
theorem someoneActive_run {cs : List (Crew World Call Answer PyExc Request)}
    (hkeeps : c.Keeps system DeactivatesOne) (h : SomeoneActive c.state)
    (hrun : List.IsChain (Crew.Step system .free) (c :: cs)) :
    (∀ c' ∈ cs, SomeoneActive c'.state) ↔ List.IsChain Guarded (c :: cs) := by
  induction cs generalizing c with
  | nil => exact iff_of_true nofun (.singleton c)
  | cons c₁ cs ih =>
      obtain ⟨hs, hrun⟩ := List.isChain_cons_cons.mp hrun
      obtain ⟨hkeeps', hmove⟩ := deactivatesOne_step hkeeps hs
      rw [List.forall_mem_cons, List.isChain_cons_cons, hmove.someoneActive_iff h]
      refine and_congr_right fun hguard ↦ ?_
      exact ih hkeeps' ((hmove.someoneActive_iff h).mpr hguard) hrun

end Runs

/-- **The system is never locked out**, in a run from a state in which somebody is active,
exactly when every step that deactivates a user is made where the guard still passes. -/
theorem never_locked_out_iff {w : World} (h : SomeoneActive w)
    {cs : List (Crew World Call Answer PyExc Request)}
    (hrun : List.IsChain (Crew.Step system .free) (⟨w, []⟩ :: cs)) :
    (∀ c ∈ cs, SomeoneActive c.state) ↔ List.IsChain Guarded (⟨w, []⟩ :: cs) :=
  someoneActive_run nofun h hrun

/-! ## Two cashiers -/

/-- Two active cashiers, both logged in. -/
def staffed : World where
  db := { Db.sample (.sample .complete) with
    posUsers := ⟨[{ username := "alice" }, { username := "bob" }], by decide⟩
    posSessions := ⟨[⟨"a", "alice", 1⟩, ⟨"b", "bob", 1⟩], by decide⟩ }
  now := 0

/-- The crew after the deactivation of Bob has made its accesses. -/
def bobLeaves : List (Crew World Call Answer PyExc Request) :=
  let request : Request := .deactivateUser (some "a") "bob"
  let commit : App Unit := App.commit fun w ↦ w.updateUser "bob" deactivated
  [⟨staffed, [(request, handle request)]⟩, ⟨staffed, [(request, commit)]⟩,
    ⟨staffed.updateUser "bob" deactivated, [(request, .pure ())]⟩]

/-- Alice deactivates Bob, and is still there. -/
theorem never_locked_out_iff_two : bobLeaves.Forall fun c ↦ SomeoneActive c.state := by
  have hrun : List.IsChain (Crew.Step system .free) (⟨staffed, []⟩ :: bobLeaves) := by
    refine .cons_cons (.start _) (.cons_cons ?_ (.cons_cons ?_ (.singleton _)))
    · exact .access (l := []) (r := []) rfl
    · exact .access (l := []) (r := []) rfl
  rw [List.forall_iff_forall_mem]
  refine (never_locked_out_iff ⟨"alice", _, rfl, rfl⟩ hrun).mpr ?_
  refine .cons_cons ?_ (.cons_cons ?_ (.cons_cons ?_ (.singleton _)))
  · exact fun x hx hn ↦ absurd hx hn
  · exact fun x hx hn ↦ absurd hx hn
  · exact fun x _ _ ↦ by decide

/-- **Two cashiers who deactivate each other** both pass the guard, and nobody is left. -/
theorem locked_out : ∃ c, Crew.Run system .free ⟨staffed, []⟩ c ∧ ¬ SomeoneActive c.state := by
  let first : Request := .deactivateUser (some "a") "bob"
  let second : Request := .deactivateUser (some "b") "alice"
  refine ⟨⟨(staffed.updateUser "bob" deactivated).updateUser "alice" deactivated,
    [(first, .pure ()), (second, .pure ())]⟩, ?_, ?_⟩
  · refine .head (.start first) (.head (.start second) ?_)
    -- both have made their checks before either commits
    refine .head (.access (l := []) (r := [(second, handle second)]) rfl) ?_
    refine .head (.access (l := [(first, _)]) (r := []) rfl) ?_
    refine .head (.access (l := []) (r := [(second, _)]) rfl) ?_
    exact .single (.access (l := [(first, _)]) (r := []) rfl)
  · rintro ⟨x, u, hu, hactive⟩
    have hnone : activeCount
        ((staffed.updateUser "bob" deactivated).updateUser "alice" deactivated).db = 0 := by
      decide
    obtain rfl := Table.key_of_get? hu
    have hmem := mem_active.mpr ⟨hu, hactive⟩
    rw [activeCount, List.length_eq_zero_iff] at hnone
    rw [hnone] at hmem
    cases hmem

end HightowerPos.Users
