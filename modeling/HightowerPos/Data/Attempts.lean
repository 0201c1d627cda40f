import Mathlib.Data.List.DropRight
import Mathlib.Data.Nat.Basic

/-!
# Attempts on a schedule

Something is attempted until it succeeds or has failed `limit` times; after each failure it is
left alone for as long as the schedule says, and once it is closed it can be opened again.  An
`Account` is what has to be known of it.  What is true of every history that an account allows
is read off here: `attempts` counts the failures since the last opening (`Path.attempts_eq`),
two attempts are as far apart as the schedule says (`Path.spaced`), and between two openings at
most one succeeds (`Path.succeeds_once`).
-/

namespace HightowerPos.Attempts

/-- How long to wait after the `k`-th failure, and the number of failures that close. -/
structure Schedule where
  limit : Nat
  wait : Nat → Int
  wait_nonneg : ∀ k, 0 ≤ wait k

/-- Something that happens, and when. -/
inductive Mark
  | posted (t : Int)
  | failed (t : Int)
  | succeeded (t : Int)
  | reopened (t : Int)
deriving Repr, DecidableEq

namespace Mark

def isFailed : Mark → Bool
  | .failed _ => true
  | _ => false

def isSucceeded : Mark → Bool
  | .succeeded _ => true
  | _ => false

def isReopened : Mark → Bool
  | .reopened _ => true
  | _ => false

end Mark

inductive Phase
  | waiting
  | trying
  | delivered
  | dead
deriving Repr, DecidableEq

/-- `due` is when the next attempt may start, `clock` the time of the last mark. -/
structure Account where
  attempts : Nat
  due : Int
  phase : Phase
  clock : Int
deriving Repr, DecidableEq

namespace Account

/-- A new account. -/
def opened (t : Int) : Account := ⟨0, t, .waiting, t⟩

/-- After a failure. -/
def fail (S : Schedule) (a : Account) (t : Int) : Account :=
  if S.limit ≤ a.attempts + 1 then ⟨a.attempts + 1, a.due, .dead, t⟩
  else ⟨a.attempts + 1, t + S.wait (a.attempts + 1), .waiting, t⟩

/-- What may happen to an account. -/
inductive Step (S : Schedule) (a : Account) : Mark → Account → Prop
  | posted {t : Int} (hp : a.phase = .waiting) (hdue : a.due ≤ t) (ht : a.clock ≤ t) :
      Step S a (.posted t) { a with phase := .trying, clock := t }
  | failed {t : Int} (hp : a.phase = .trying) (ht : a.clock ≤ t) :
      Step S a (.failed t) (a.fail S t)
  | succeeded {t : Int} (hp : a.phase = .trying) (ht : a.clock ≤ t) :
      Step S a (.succeeded t) { a with phase := .delivered, clock := t }
  | reopened {t : Int} (hp : a.phase = .delivered ∨ a.phase = .dead) (ht : a.clock ≤ t) :
      Step S a (.reopened t) (opened t)

/-- Any number of marks. -/
inductive Path (S : Schedule) (a : Account) : List Mark → Account → Prop
  | nil : Path S a [] a
  | snoc {ms : List Mark} {m : Mark} {a' a'' : Account} (h : Path S a ms a')
      (hs : Step S a' m a'') : Path S a (ms ++ [m]) a''

@[simp] theorem fail_attempts (S : Schedule) (a : Account) (t : Int) :
    (a.fail S t).attempts = a.attempts + 1 := by
  unfold fail
  split <;> rfl

end Account

/-! ## Counting -/

/-- The marks since the last opening. -/
def since (ms : List Mark) : List Mark := ms.rtakeWhile fun m ↦ !m.isReopened

/-- The failures since then. -/
def failures (ms : List Mark) : Nat := (since ms).countP Mark.isFailed

theorem failures_reopened (ms : List Mark) (t : Int) : failures (ms ++ [.reopened t]) = 0 := by
  unfold failures since
  rw [List.rtakeWhile_concat_neg _ _ _ (by simp [Mark.isReopened])]
  rfl

theorem failures_snoc {m : Mark} (ms : List Mark) (hm : m.isReopened = false) :
    failures (ms ++ [m]) = failures ms + if m.isFailed then 1 else 0 := by
  unfold failures since
  rw [List.rtakeWhile_concat_pos _ _ _ (by rw [hm]; rfl), List.countP_append,
    List.countP_singleton]

/-- The phase of an account with a history. -/
def phaseOf (S : Schedule) (ms : List Mark) : Phase :=
  match ms.getLast? with
  | none | some (.reopened _) => .waiting
  | some (.posted _) => .trying
  | some (.succeeded _) => .delivered
  | some (.failed _) => if S.limit ≤ failures ms then .dead else .waiting

namespace Account.Path

variable {S : Schedule} {a a' a'' : Account} {ms ms' : List Mark} {t : Int}

/-- A history may be cut anywhere. -/
theorem of_append (h : Path S a (ms ++ ms') a'') : ∃ a', Path S a ms a' ∧ Path S a' ms' a'' := by
  generalize hms : ms ++ ms' = l at h
  induction h generalizing ms' with
  | nil =>
      obtain ⟨rfl, rfl⟩ := List.append_eq_nil_iff.mp hms
      exact ⟨a, .nil, .nil⟩
  | @snoc l m b b' hpath hs ih =>
      rcases List.eq_nil_or_concat ms' with rfl | ⟨ms'', m', rfl⟩
      · rw [List.append_nil] at hms
        subst hms
        exact ⟨_, hpath.snoc hs, .nil⟩
      · rw [List.concat_eq_append, ← List.append_assoc] at hms
        obtain ⟨hl, hm⟩ := List.append_inj' hms rfl
        obtain rfl : m' = m := by simpa using hm
        obtain ⟨a', h₁, h₂⟩ := ih hl
        rw [List.concat_eq_append]
        exact ⟨a', h₁, h₂.snoc hs⟩

theorem single {m : Mark} (hs : Step S a m a') : Path S a [m] a' := .snoc .nil hs

/-- A history of one mark is one step. -/
theorem single_iff {m : Mark} : Path S a [m] a' ↔ Step S a m a' := by
  constructor
  · intro h
    generalize hms : [m] = ms at h
    cases h with
    | nil => cases hms
    | @snoc ms m' b _ hpath hs =>
        have hlast : [] ++ [m] = ms ++ [m'] := hms
        obtain ⟨hnil, hm⟩ := List.append_inj' hlast rfl
        obtain rfl : m = m' := by simpa using hm
        subst hnil
        generalize hnil : ([] : List Mark) = ms at hpath
        cases hpath with
        | nil => exact hs
        | snoc _ _ => exact absurd hnil (by simp)
  · exact single

/-- **An account counts the failures** since it was last opened. -/
theorem attempts_eq (h : Path S (opened t) ms a) : a.attempts = failures ms := by
  induction h with
  | nil => rfl
  | @snoc ms m b b' _ hs ih =>
      cases hs with
      | posted | succeeded => rw [failures_snoc ms rfl]; exact ih
      | failed => rw [failures_snoc ms rfl, fail_attempts, ih]; rfl
      | reopened => rw [failures_reopened]; rfl

/-- An account is dead when it has failed as often as the limit says. -/
theorem bounds (h : Path S (opened t) ms a) (hlimit : 0 < S.limit) :
    (a.phase ≠ .dead → a.attempts < S.limit) ∧ (a.phase = .dead → a.attempts = S.limit) := by
  induction h with
  | nil => exact ⟨fun _ ↦ hlimit, fun hd ↦ nomatch hd⟩
  | @snoc ms m b b' _ hs ih =>
      have hopen {p : Phase} (hp : b.phase = p) (hne : p ≠ .dead) : b.attempts < S.limit :=
        ih.1 (hp ▸ hne)
      cases hs with
      | posted hp => exact ⟨fun _ ↦ hopen hp nofun, fun hd ↦ nomatch hd⟩
      | succeeded hp => exact ⟨fun _ ↦ hopen hp nofun, fun hd ↦ nomatch hd⟩
      | reopened => exact ⟨fun _ ↦ hlimit, fun hd ↦ nomatch hd⟩
      | failed hp =>
          have hlt := hopen hp nofun
          unfold fail
          split
          · next hle => exact ⟨fun hd ↦ absurd rfl hd, fun _ ↦ le_antisymm hlt hle⟩
          · next hle => exact ⟨fun _ ↦ not_le.mp hle, fun hd ↦ nomatch hd⟩

/-- The phase is known from the history. -/
theorem phase_eq (h : Path S (opened t) ms a) : a.phase = phaseOf S ms := by
  cases h with
  | nil => rfl
  | @snoc ms m b b' hpath hs =>
      unfold phaseOf
      rw [List.getLast?_concat]
      cases hs with
      | posted | succeeded | reopened => rfl
      | failed =>
          unfold fail
          rw [failures_snoc ms rfl, hpath.attempts_eq]
          change _ = if S.limit ≤ failures ms + 1 then Phase.dead else .waiting
          split <;> rfl

/-- What is closed is left alone until it is opened again. -/
theorem closed (h : Path S a ms a') (hp : a.phase = .delivered ∨ a.phase = .dead)
    (hms : ∀ m ∈ ms, m.isReopened = false) : ms = [] := by
  suffices ms = [] ∧ a' = a from this.1
  induction h with
  | nil => exact ⟨rfl, rfl⟩
  | @snoc ms m b b' _ hs ih =>
      obtain ⟨-, rfl⟩ := ih fun m hm ↦ hms m (List.mem_append_left _ hm)
      have hm : m.isReopened = false := hms m (List.mem_append_right _ (List.mem_singleton_self m))
      cases hs with
      | posted hw => rcases hp with hp | hp <;> exact nomatch hp.symm.trans hw
      | failed ht | succeeded ht => rcases hp with hp | hp <;> exact nomatch hp.symm.trans ht
      | reopened => cases hm

/-- **At most one attempt succeeds** between two openings. -/
theorem succeeds_once (h : Path S a ms a') (hms : ∀ m ∈ ms, m.isReopened = false) :
    ms.countP Mark.isSucceeded ≤ 1 := by
  suffices ms.countP Mark.isSucceeded ≤ if a'.phase = .delivered then 1 else 0 by
    refine this.trans ?_
    split <;> decide
  induction h with
  | nil => exact Nat.zero_le _
  | @snoc ms m b b' _ hs ih =>
      have hcount := ih fun m hm ↦ hms m (List.mem_append_left _ hm)
      have hm : m.isReopened = false := hms m (List.mem_append_right _ (List.mem_singleton_self m))
      rw [List.countP_append, List.countP_singleton]
      cases hs with
      | posted hp | failed hp | succeeded hp =>
          -- nothing has succeeded while it waits or is tried
          rw [hp, if_neg nofun] at hcount
          simp [Nat.le_zero.mp hcount, Mark.isSucceeded]
      | reopened => cases hm

/-- What the account knows of a failure that no opening has followed. -/
def Heeds (S : Schedule) (a : Account) (t : Int) (k : Nat) : Prop :=
  match a.phase with
  | .waiting => k < S.limit ∧ t + S.wait k ≤ a.due
  | .trying | .delivered => k < S.limit ∧ t + S.wait k ≤ a.clock
  | .dead => True

/-- A failure is heeded at once. -/
theorem heeds_fail (t : Int) : Heeds S (a.fail S t) t (a.attempts + 1) := by
  unfold Heeds fail
  by_cases hle : S.limit ≤ a.attempts + 1
  · rw [if_pos hle]
    trivial
  · rw [if_neg hle]
    exact ⟨not_le.mp hle, Int.le_refl _⟩

/-- A step that is no opening heeds the failures before it. -/
theorem heeds_step {m : Mark} {k : Nat} (hs : Step S a m a') (hm : m.isReopened = false)
    (h : Heeds S a t k) : Heeds S a' t k := by
  unfold Heeds at h
  cases hs with
  | posted hp hdue =>
      rw [hp] at h
      exact ⟨h.1, Int.le_trans h.2 hdue⟩
  | succeeded hp ht =>
      rw [hp] at h
      exact ⟨h.1, Int.le_trans h.2 ht⟩
  | @failed t' hp ht =>
      rw [hp] at h
      unfold Heeds fail
      by_cases hle : S.limit ≤ a.attempts + 1
      · rw [if_pos hle]
        trivial
      · rw [if_neg hle]
        refine ⟨h.1, Int.le_trans (Int.le_trans h.2 ht) ?_⟩
        exact Int.le_add_of_nonneg_right (S.wait_nonneg _)
  | reopened => cases hm

theorem heeds_path {k : Nat} (hpath : Path S a ms a') (hms : ∀ m ∈ ms, m.isReopened = false)
    (h : Heeds S a t k) : Heeds S a' t k := by
  induction hpath with
  | nil => exact h
  | @snoc ms m b b' _ hs ih =>
      refine heeds_step hs (hms m (List.mem_append_right _ (List.mem_singleton_self m))) ?_
      exact ih fun m hm ↦ hms m (List.mem_append_left _ hm)

/-- **Attempts are as far apart as the schedule says**: after the `k`-th failure since an
opening at `t`, the next attempt at `t'` and every later one, up to the next opening. -/
theorem spaced {t' : Int} {l m r : List Mark} {t₀ : Int}
    (h : Path S (opened t₀) (l ++ .failed t :: (m ++ .posted t' :: r)) a)
    (hm : ∀ n ∈ m, n.isReopened = false) :
    failures (l ++ [.failed t]) < S.limit ∧ t + S.wait (failures (l ++ [.failed t])) ≤ t' := by
  obtain ⟨b₀, hbefore, h⟩ := h.of_append
  rw [← List.singleton_append] at h
  obtain ⟨b, hfailed, h⟩ := h.of_append
  obtain ⟨c, hwait, h⟩ := h.of_append
  rw [← List.singleton_append] at h
  obtain ⟨d, hposted, -⟩ := h.of_append
  have hheeds : Heeds S b t (failures (l ++ [.failed t])) := by
    cases single_iff.mp hfailed with
    | failed hp ht =>
        rw [failures_snoc l rfl, ← hbefore.attempts_eq]
        exact heeds_fail t
  have hc := heeds_path hwait hm hheeds
  cases single_iff.mp hposted with
  | posted hp hdue =>
      unfold Heeds at hc
      rw [hp] at hc
      exact ⟨hc.1, Int.le_trans hc.2 hdue⟩

end Account.Path

end HightowerPos.Attempts
