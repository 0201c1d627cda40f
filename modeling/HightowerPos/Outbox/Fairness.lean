import HightowerPos.Outbox.Accounting
import HightowerPos.Outbox.Stranded
import Mathlib.Algebra.BigOperators.Ring.Finset
import Mathlib.Algebra.Order.BigOperators.Group.Finset
import Mathlib.Tactic.Linarith
import Mathlib.Tactic.Zify

/-!
# Entries that are left over

A pass of the drain worker takes the oldest of the entries that are due, so that it may leave an
entry over, and the next pass may do so again.  Whatever is taken in its place uses up one of its
attempts, of which there are eight: so an entry is left over a bounded number of times only.
-/

namespace HightowerPos.Outbox

open Async FabricOutbox

/-! ## Attempts -/

/-- The attempts that an entry has used up; the last one of a delivered entry is not counted in its
row. -/
def spent (e : FabricOutboxEntry) : Int := e.attemptCount + if e.status = .delivered then 1 else 0

/-- An entry that is not in the dead letter queue has an attempt left, and one in it has used up all
of them. -/
structure Affords (e : FabricOutboxEntry) : Prop where
  le : e.attemptCount ≤ maxAttempts
  lt : e.status ≠ .dlq → e.attemptCount < maxAttempts

/-- The attempts used up by the entry `y`, if there is one. -/
def spentAt (w : World) (y : Id) : Int := ((w.db.outboxEntry y).map spent).getD 0

/-- Every entry affords its attempts. -/
def Affordable (w : World) : Prop := ∀ y e, w.db.outboxEntry y = some e → Affords e

/-- From `w` to `w'` entries stay, `gain` says how many more attempts each of them has used up, and
no entry has used up too many. -/
structure Spends (gain : Id → Int) (w w' : World) : Prop where
  stays : ∀ y e, w.db.outboxEntry y = some e →
    ∃ e', w'.db.outboxEntry y = some e' ∧ e'.createdAt = e.createdAt
  spent : ∀ y, spentAt w' y = spentAt w y + gain y
  affordable : Affordable w → Affordable w'

section Spending

variable {w w' w'' : World} {gain gain' : Id → Int} {y : Id} {e : FabricOutboxEntry}

theorem Affords.spent_le (h : Affords e) : spent e ≤ maxAttempts := by
  unfold spent
  have hle := h.le
  split
  · next hs =>
      have hlt := h.lt (by rw [hs]; decide)
      omega
  · omega

theorem spentAt_le (h : Affordable w) (y : Id) : spentAt w y ≤ maxAttempts := by
  unfold spentAt
  cases hrow : w.db.outboxEntry y with
  | none => exact Int.natCast_nonneg _
  | some e => exact (h y e hrow).spent_le

theorem spentAt_nonneg (w : World) (y : Id) : 0 ≤ spentAt w y := by
  unfold spentAt
  cases w.db.outboxEntry y with
  | none => exact le_rfl
  | some e =>
      rw [Option.map_some, Option.getD_some, Outbox.spent]
      split <;> omega

theorem Spends.same (h : w'.db.fabricOutbox = w.db.fabricOutbox) : Spends (fun _ ↦ 0) w w' := by
  have hrow (y : Id) : w'.db.outboxEntry y = w.db.outboxEntry y := congrArg (Table.get? · y) h
  constructor
  · intro y e he
    exact ⟨e, (hrow y).trans he, rfl⟩
  · intro y
    rw [spentAt, hrow, add_zero]
    rfl
  · intro hw y e he
    exact hw y e ((hrow y).symm.trans he)

theorem Spends.trans (h : Spends gain w w') (h' : Spends gain' w' w'') :
    Spends (fun y ↦ gain y + gain' y) w w'' := by
  constructor
  · intro y e he
    obtain ⟨e', he', hcreated⟩ := h.stays y e he
    obtain ⟨e'', he'', hcreated'⟩ := h'.stays y e' he'
    exact ⟨e'', he'', hcreated'.trans hcreated⟩
  · intro y
    rw [h'.spent, h.spent, add_assoc]
  · intro hw
    exact h'.affordable (h.affordable hw)

/-- One entry changes. -/
theorem Spends.update {u : OutboxUpdate} {d : Int} (hrow : w.db.outboxEntry y = some e)
    (hcreated : (u.set e).createdAt = e.createdAt)
    (hspent : Outbox.spent (u.set e) = Outbox.spent e + d)
    (hafford : Affords e → Affords (u.set e)) :
    Spends (fun z ↦ if z = y then d else 0) w (w.updateOutboxEntry y u) := by
  have hself : (w.updateOutboxEntry y u).db.outboxEntry y = some ((u.touch w.now).set e) :=
    Table.get?_modify_self.trans (congrArg (Option.map _) hrow)
  have hother (z : Id) (hz : z ≠ y) :
      (w.updateOutboxEntry y u).db.outboxEntry z = w.db.outboxEntry z := Table.get?_modify_ne hz
  constructor
  · intro z e' he'
    by_cases hz : z = y
    · subst hz
      obtain rfl := Option.some.inj (hrow.symm.trans he')
      exact ⟨_, hself, hcreated⟩
    · exact ⟨e', (hother z hz).trans he', rfl⟩
  · intro z
    by_cases hz : z = y
    · subst hz
      rw [spentAt, hself, spentAt, hrow, if_pos rfl]
      exact hspent
    · rw [spentAt, hother z hz, if_neg hz, add_zero]
      rfl
  · intro hw z e' he'
    by_cases hz : z = y
    · subst hz
      obtain rfl := Option.some.inj (hself.symm.trans he')
      obtain ⟨hle, hlt⟩ := hafford (hw z e hrow)
      exact ⟨hle, hlt⟩
    · exact hw z e' ((hother z hz).symm.trans he')

end Spending

/-! ## A pass -/

section Pass

variable {rt : Runtime} {w : World} {ids : List Id} {answer : (q : Call) → Option (Answer q)}

/-- Claiming uses up nothing. -/
theorem spends_claimAll (hids : ∀ y ∈ ids, ∃ e, w.db.outboxEntry y = some e ∧ e.status = .pending) :
    Spends (fun _ ↦ 0) w (claimAll ids w) := by
  have hrow (y : Id) := (outboxEntry_claimAll w ids y).2
  constructor
  · intro y e he
    rw [hrow, he]
    split
    · exact ⟨_, rfl, rfl⟩
    · exact ⟨e, rfl, rfl⟩
  · intro y
    rw [spentAt, hrow, add_zero]
    split
    · next hy =>
        obtain ⟨e, he, hs⟩ := hids y hy
        rw [spentAt, he]
        simp [spent, hs, claimed, OutboxUpdate.touch]
    · rfl
  · intro hw y e he
    rw [hrow] at he
    split at he
    · next hy =>
        obtain ⟨e₀, he₀, hs⟩ := hids y hy
        obtain ⟨e₁, he₁, rfl⟩ := Option.map_eq_some_iff.mp he
        obtain rfl := Option.some.inj (he₀.symm.trans he₁)
        obtain ⟨hle, hlt⟩ := hw y e₀ he₀
        exact ⟨hle, fun _ ↦ hlt (by rw [hs]; decide)⟩
    · exact hw y e he

/-- The oracle has an answer of Fabric for every entry, and one that the worker handles. -/
def Answers (answer : (q : Call) → Option (Answer q)) : Prop :=
  ∀ y payload, ∃ ex : FabricExchange,
    answer (.fabricWriteSalesOrder y payload) = some ex ∧ ex.Handled

/-- What an attempt leaves. -/
theorem spends_failed {y : Id} {e : FabricOutboxEntry} (hrow : w.db.outboxEntry y = some e)
    (hs : e.status = .inFlight) (error : String) (now : Time) :
    Spends (fun z ↦ if z = y then 1 else 0) w (w.updateOutboxEntry y (failed e error now)) := by
  apply Spends.update hrow
  · unfold failed
    dsimp only
    split <;> rfl
  · unfold failed spent
    dsimp only
    split <;> simp [hs]
  · intro hafford
    have hlt := hafford.lt (by rw [hs]; decide)
    unfold failed
    dsimp only
    split
    · exact ⟨hlt, fun h ↦ absurd rfl h⟩
    · next hmax => exact ⟨hlt, fun _ ↦ Nat.not_le.mp hmax⟩

theorem spends_delivered {y : Id} {e : FabricOutboxEntry} (hrow : w.db.outboxEntry y = some e)
    (hs : e.status = .inFlight) (soId : Option String) :
    Spends (fun z ↦ if z = y then 1 else 0) w (w.updateOutboxEntry y (delivered soId)) := by
  apply Spends.update hrow rfl
  · simp [spent, delivered, hs]
  · intro hafford
    exact ⟨hafford.le, fun _ ↦ hafford.lt (by rw [hs]; decide)⟩

/-- The gain of the entries of a batch. -/
def batchGain (ids : List Id) (y : Id) : Int := if y ∈ ids then 1 else 0

/-- **Every entry of a batch uses up one attempt.** -/
theorem wp_drainEntries (hanswer : Answers answer) (hnd : ids.Nodup)
    (hids : ∀ y ∈ ids, ∃ e, w.db.outboxEntry y = some e ∧ e.status = .inFlight)
    (res : DrainResult) :
    (drainEntries rt ids res).wp (.alone World.send answer)
      (fun _ _ w' ↦ Spends (batchGain ids) w w') () w := by
  induction ids generalizing w res with
  | nil => exact Spends.same rfl
  | cons y ids ih =>
      obtain ⟨hy, hnd⟩ := List.nodup_cons.mp hnd
      obtain ⟨⟨e, he, hs⟩, hids⟩ := List.forall_mem_cons.mp hids
      obtain ⟨ex, hex, hhandled⟩ := hanswer y e.payload
      -- what follows the attempt on the first entry
      have hrest {w₁ : World} (h₁ : Spends (fun z ↦ if z = y then 1 else 0) w w₁)
          (hsame : ∀ z ≠ y, w₁.db.outboxEntry z = w.db.outboxEntry z) (res : DrainResult) :
          (drainEntries rt ids res).wp (.alone World.send answer)
            (fun _ _ w' ↦ Spends (batchGain (y :: ids)) w w') () w₁ := by
        refine wp_mono ?_ (ih hnd ?_ res)
        · intro _ _ w' h'
          have hgain : batchGain (y :: ids) =
              fun z ↦ (if z = y then 1 else 0) + batchGain ids z := by
            funext z
            unfold batchGain
            by_cases hz : z = y
            · subst hz
              simp [hy]
            · simp [hz]
          rw [hgain]
          exact h₁.trans h'
        · intro z hz
          rw [hsame z fun h ↦ hy (h ▸ hz)]
          exact hids z hz
      have hothers (u : OutboxUpdate) (z : Id) (hz : z ≠ y) :
          (w.updateOutboxEntry y u).db.outboxEntry z = w.db.outboxEntry z :=
        Table.get?_modify_ne hz
      unfold drainEntries
      rw [wp_bind]
      simp only [getEntry, wp_bind, wp_read, Prog.pure_eq, wp_pure, he, hs, if_true]
      refine ⟨ex, hex, ?_⟩
      have hsend : World.send (.fabricWriteSalesOrder y e.payload) w = w := rfl
      rw [hsend]
      simp only [wp_pure]
      rcases writeSalesOrder_of_handled hhandled with ⟨m, hm⟩ | ⟨body, hbody, hbindable⟩
      · rw [hm]
        simp only [markFailed, getEntry, wp_bind, wp_read, Prog.pure_eq, wp_pure, he, App.wp_commit]
        refine ⟨trivial, ?_⟩
        split
        · exact hrest (spends_failed he hs m w.now) (hothers _) _
        · exact hrest (spends_failed he hs m w.now) (hothers _) _
      · obtain ⟨soId, hso⟩ := bindText_of_bindable rt hbindable
        rw [hbody]
        simp only [markDelivered, getEntry, wp_bind, wp_read, Prog.pure_eq, wp_pure, he,
          App.wp_ofExcept, hso, App.wp_commit]
        exact ⟨trivial, hrest (spends_delivered he hs soId) (hothers _) _⟩

/-- The entries that a pass takes. -/
def batch (w : World) (batchSize : ℕ) : List Id := (due w.db w.now batchSize).map (·.id)

theorem wp_drainOnce (hanswer : Answers answer) (batchSize : ℕ) :
    (drainOnce rt batchSize).wp (.alone World.send answer)
      (fun _ _ w' ↦ Spends (batchGain (batch w batchSize)) w w') () w := by
  obtain ⟨hnd, hdue⟩ := due_spec w batchSize
  have hclaims : Spends (fun _ ↦ 0) w (claimAll (batch w batchSize) w) := by
    apply spends_claimAll
    intro y hy
    obtain ⟨e, he, hs, -⟩ := hdue y hy
    exact ⟨e, he, hs⟩
  unfold drainOnce claimDue
  simp only [wp_bind, wp_read, Prog.pure_eq, wp_pure, App.wp_commit]
  refine ⟨trivial, wp_mono ?_ (wp_drainEntries hanswer hnd ?_ _)⟩
  · intro _ _ w' h'
    have hgain : batchGain (batch w batchSize) = fun y ↦ 0 + batchGain (batch w batchSize) y := by
      funext y
      rw [zero_add]
    rw [hgain]
    exact hclaims.trans h'
  · intro y hy
    obtain ⟨e, he, -⟩ := hdue y hy
    rw [(outboxEntry_claimAll w _ y).2, if_pos hy, he]
    exact ⟨_, rfl, rfl⟩

/-- A pass that leaves a due entry over is full, and takes entries that are as old. -/
theorem batch_of_left {x : Id} {e : FabricOutboxEntry} {batchSize : ℕ}
    (hrow : w.db.outboxEntry x = some e) (hs : e.status = .pending) (hdue : e.nextAttemptAt ≤ w.now)
    (hleft : x ∉ batch w batchSize) :
    (batch w batchSize).length = batchSize ∧ ∀ y ∈ batch w batchSize,
      y ≠ x ∧ ∃ e', w.db.outboxEntry y = some e' ∧ e'.createdAt ≤ e.createdAt := by
  let r : FabricOutboxEntry → FabricOutboxEntry → Prop := fun a b ↦ a.createdAt ≤ b.createdAt
  let l := (w.db.fabricOutbox.select fun e ↦ e.status = .pending ∧ e.nextAttemptAt ≤
    w.now).insertionSort r
  have hmem : e ∈ l := by
    apply (List.perm_insertionSort r _).mem_iff.mpr
    exact List.mem_filter.mpr ⟨Table.mem_of_get? hrow, decide_eq_true ⟨hs, hdue⟩⟩
  have hkey : e.id = x := Table.key_of_get? hrow
  have hdrop : e ∈ l.drop batchSize := by
    rw [← List.take_append_drop batchSize l] at hmem
    rcases List.mem_append.mp hmem with htake | hdrop
    · exact absurd (List.mem_map.mpr ⟨e, htake, hkey⟩) hleft
    · exact hdrop
  have hsorted : l.Pairwise r := List.pairwise_insertionSort r _
  rw [← List.take_append_drop batchSize l] at hsorted
  refine ⟨?_, ?_⟩
  · have hlength := List.length_pos_of_mem hdrop
    rw [List.length_drop] at hlength
    have hle : batchSize ≤ l.length := by omega
    rw [batch, List.length_map, due, List.length_take]
    exact Nat.min_eq_left hle
  · intro y hy
    obtain ⟨e', he', rfl⟩ := List.mem_map.mp hy
    refine ⟨fun h ↦ hleft (h ▸ hy), e', ?_, (List.pairwise_append.mp hsorted).2.2 e' he' e hdrop⟩
    have hsel := (List.perm_insertionSort r _).mem_iff.mp ((List.take_sublist _ _).subset he')
    exact Table.get?_of_mem (List.mem_filter.mp hsel).1

end Pass

/-! ## One operation after the other -/

/-- An operation that runs alone, while the answers of Fabric are ones that the worker handles. -/
def Runs (rt : Runtime) (i : Operation) (w w' : World) : Prop :=
  ∃ answer r, Answers answer ∧
    ((operations rt).handle i).exec World.send answer w = (w', some r)

/-- Operations and moves of the outside world, with the number of passes of this batch size that
left the entry `x` over while it was due, and that of the admin retries. -/
inductive LeftOver (rt : Runtime) (batchSize : ℕ) (x : Id) (w : World) : ℕ → ℕ → World → Prop
  | refl : LeftOver rt batchSize x w 0 0 w
  | passed {n r : ℕ} {w₁ w₂ : World} (h : LeftOver rt batchSize x w n r w₁)
      {e : FabricOutboxEntry} (hrow : w₁.db.outboxEntry x = some e) (hs : e.status = .pending)
      (hdue : e.nextAttemptAt ≤ w₁.now) (hleft : x ∉ batch w₁ batchSize)
      (hrun : Runs rt (.drain batchSize) w₁ w₂) : LeftOver rt batchSize x w (n + 1) r w₂
  | drained {n r : ℕ} {w₁ w₂ : World} (h : LeftOver rt batchSize x w n r w₁) {size : ℕ}
      (hrun : Runs rt (.drain size) w₁ w₂) : LeftOver rt batchSize x w n r w₂
  | enqueued {n r : ℕ} {w₁ w₂ : World} (h : LeftOver rt batchSize x w n r w₁) {settings : Settings}
      {txn : POSTransaction} (hrun : Runs rt (.enqueue settings txn) w₁ w₂) :
      LeftOver rt batchSize x w n r w₂
  | retried {n r : ℕ} {w₁ w₂ : World} (h : LeftOver rt batchSize x w n r w₁) {y : Id}
      (hrun : Runs rt (.retry y) w₁ w₂) : LeftOver rt batchSize x w n (r + 1) w₂
  | drifted {n r : ℕ} {w₁ w₂ : World} (h : LeftOver rt batchSize x w n r w₁)
      (hd : World.Drift w₁ w₂) : LeftOver rt batchSize x w n r w₂

section Operations

variable {rt : Runtime} {w w' : World} {x y : Id} {batchSize n r : ℕ}

theorem spends_drain (h : Runs rt (.drain batchSize) w w') :
    Spends (batchGain (batch w batchSize)) w w' := by
  obtain ⟨answer, r, hanswer, hexec⟩ := h
  have hwp : ((operations rt).handle (.drain batchSize)).wp (.alone World.send answer)
      (fun _ _ w' ↦ Spends (batchGain (batch w batchSize)) w w') () w := by
    change (drainOnce rt batchSize >>= fun _ ↦ .pure ()).wp _ _ () w
    rw [wp_bind]
    refine wp_mono ?_ (wp_drainOnce hanswer batchSize)
    intro _ r _ h
    cases r <;> exact h
  obtain ⟨r', -, hspends⟩ := (wp_alone ..).mp hwp
  rwa [hexec] at hspends

/-- A new entry has used up nothing. -/
theorem spends_enqueue {settings : Settings} {txn : POSTransaction}
    (h : Runs rt (.enqueue settings txn) w w') : Spends (fun _ ↦ 0) w w' := by
  obtain ⟨answer, r, -, hexec⟩ := h
  have hadded : w' = w.addOutboxEntry (newEntry settings txn (completedAt txn w) w.now) := by
    cases hexec
    rfl
  subst hadded
  have hrow (y : Id) : (w.addOutboxEntry (newEntry settings txn (completedAt txn w)
      w.now)).db.outboxEntry y = if y = w.db.fabricOutbox.fresh then
        some ((newEntry settings txn (completedAt txn w) w.now).build w.db.fabricOutbox.fresh)
        else w.db.outboxEntry y := Table.get?_add
  constructor
  · intro y e he
    exact ⟨e, Table.get?_add_of_some he, rfl⟩
  · intro y
    rw [spentAt, hrow, add_zero]
    split
    · next hy =>
        have hnone : w.db.outboxEntry y = none := by
          rw [hy]
          exact Table.get?_fresh _
        rw [spentAt, hnone]
        rfl
    · rfl
  · intro hw y e he
    rw [hrow] at he
    split at he
    · obtain rfl := Option.some.inj he
      exact ⟨Nat.zero_le _, fun _ ↦ (by decide : 0 < maxAttempts)⟩
    · exact hw y e he

/-- An admin retry gives an entry its attempts back. -/
theorem spends_retry (h : Runs rt (.retry y) w w') :
    ∃ d, d ≤ spentAt w y ∧ Spends (fun z ↦ if z = y then -d else 0) w w' := by
  obtain ⟨answer, r, -, hexec⟩ := h
  have hwp : ((operations rt).handle (.retry y)).wp (.alone World.send answer)
      (fun _ _ w' ↦ ∃ d, d ≤ spentAt w y ∧ Spends (fun z ↦ if z = y then -d else 0) w w') () w := by
    have hnothing : ∃ d, d ≤ spentAt w y ∧ Spends (fun z ↦ if z = y then -d else 0) w w := by
      refine ⟨0, spentAt_nonneg w y, ?_⟩
      simp only [neg_zero, ite_self]
      exact Spends.same rfl
    change (retryFabricOutboxEntry y).wp _ _ () w
    unfold retryFabricOutboxEntry
    simp only [getEntry, wp_bind, wp_read, Prog.pure_eq, wp_pure]
    cases hrow : w.db.outboxEntry y with
    | none => exact hnothing
    | some e =>
        dsimp only
        split
        · next hclosed =>
            refine ⟨trivial, spent e, ?_, ?_⟩
            · rw [spentAt, hrow]
              exact le_rfl
            · apply Spends.update hrow rfl
              · rw [add_neg_cancel]
                rfl
              · intro _
                exact ⟨Nat.zero_le _, fun _ ↦ (by decide : 0 < maxAttempts)⟩
        · exact hnothing
  obtain ⟨r', -, hspends⟩ := (wp_alone ..).mp hwp
  rwa [hexec] at hspends

theorem spends_drift (h : World.Drift w w') : Spends (fun _ ↦ 0) w w' :=
  Spends.same (congrArg Db.fabricOutbox (World.Drift.db h))

end Operations

/-! ## The bound -/

/-- The entries that are as old as `x` are among these. -/
def Covers (w : World) (x : Id) (ids : Finset Id) : Prop :=
  ∀ y e e', y ≠ x → w.db.outboxEntry x = some e → w.db.outboxEntry y = some e' →
    e'.createdAt ≤ e.createdAt → y ∈ ids

/-- The attempts that these entries have used up. -/
def total (w : World) (ids : Finset Id) : Int := ∑ y ∈ ids, spentAt w y

section Bound

variable {rt : Runtime} {w w' : World} {x y : Id} {ids : Finset Id} {batchSize n r : ℕ}
  {gain : Id → Int}

theorem Spends.covers (h : Spends gain w w') (hids : Covers w' x ids) : Covers w x ids := by
  intro y e e' hy he he' hle
  obtain ⟨e₁, he₁, hcreated⟩ := h.stays x e he
  obtain ⟨e₂, he₂, hcreated'⟩ := h.stays y e' he'
  apply hids y e₁ e₂ hy he₁ he₂
  rwa [hcreated, hcreated']

theorem Spends.total (h : Spends gain w w') (ids : Finset Id) :
    total w' ids = total w ids + ∑ y ∈ ids, gain y := by
  rw [Outbox.total, Outbox.total, ← Finset.sum_add_distrib]
  exact Finset.sum_congr rfl fun y _ ↦ h.spent y

theorem total_le (h : Affordable w) (ids : Finset Id) : total w ids ≤ maxAttempts * ids.card := by
  have hle := Finset.sum_le_card_nsmul ids (spentAt w) maxAttempts fun y _ ↦ spentAt_le h y
  rw [nsmul_eq_mul, mul_comm] at hle
  exact hle

/-- A batch adds its size to the total, if its entries are among those that are counted. -/
theorem sum_batchGain {batch : List Id} (hnd : batch.Nodup) (hsub : ∀ y ∈ batch, y ∈ ids) :
    ∑ y ∈ ids, batchGain batch y = batch.length := by
  have hfilter : ids.filter (· ∈ batch) = batch.toFinset := by
    ext y
    rw [Finset.mem_filter, List.mem_toFinset]
    exact ⟨fun h ↦ h.2, fun h ↦ ⟨hsub y h, h⟩⟩
  unfold batchGain
  rw [Finset.sum_boole, hfilter, List.toFinset_card_of_nodup hnd]

theorem sum_batchGain_nonneg (ids : Finset Id) (batch : List Id) :
    0 ≤ ∑ y ∈ ids, batchGain batch y := by
  apply Finset.sum_nonneg
  intro y _
  unfold batchGain
  split <;> decide

/-- **Every pass that leaves the entry over takes a whole batch of attempts from the entries that
are as old, and only an admin retry gives any back.** -/
theorem total_of_left (ids : Finset Id) {w₀ : World} (hempty : w₀.db.fabricOutbox = .empty)
    (h : LeftOver rt batchSize x w₀ n r w) :
    Affordable w ∧ (Covers w x ids → (batchSize * n : Int) ≤ total w ids + maxAttempts * r) := by
  induction h with
  | refl =>
      have hrow (y : Id) : w₀.db.outboxEntry y = none := by
        unfold Db.outboxEntry
        rw [hempty]
        rfl
      constructor
      · intro y e he
        rw [hrow] at he
        cases he
      · intro _
        have hnonneg : 0 ≤ total w₀ ids := Finset.sum_nonneg fun y _ ↦ spentAt_nonneg w₀ y
        push_cast
        linarith
  | @passed n r w₁ w₂ h e hrow hs hdue hleft hrun ih =>
      have hspends := spends_drain hrun
      refine ⟨hspends.affordable ih.1, ?_⟩
      intro hcovers
      have hcovers₁ := hspends.covers hcovers
      obtain ⟨hsize, holder⟩ := batch_of_left hrow hs hdue hleft
      have hsub : ∀ y ∈ batch w₁ batchSize, y ∈ ids := by
        intro y hy
        obtain ⟨hne, e', he', hle⟩ := holder y hy
        exact hcovers₁ y e e' hne hrow he' hle
      have hgain : ∑ y ∈ ids, batchGain (batch w₁ batchSize) y = (batch w₁ batchSize).length :=
        sum_batchGain (due_spec w₁ batchSize).1 hsub
      rw [hsize] at hgain
      have hprev := ih.2 hcovers₁
      rw [hspends.total, hgain]
      push_cast
      linarith
  | @drained n r w₁ w₂ h size hrun ih =>
      have hspends := spends_drain hrun
      refine ⟨hspends.affordable ih.1, ?_⟩
      intro hcovers
      have hprev := ih.2 (hspends.covers hcovers)
      have hgain := sum_batchGain_nonneg ids (batch w₁ size)
      rw [hspends.total]
      linarith
  | enqueued h hrun ih =>
      have hspends := spends_enqueue hrun
      refine ⟨hspends.affordable ih.1, ?_⟩
      intro hcovers
      have hprev := ih.2 (hspends.covers hcovers)
      rw [hspends.total, Finset.sum_const_zero, add_zero]
      exact hprev
  | @retried n r w₁ w₂ h y hrun ih =>
      obtain ⟨d, hd, hspends⟩ := spends_retry hrun
      refine ⟨hspends.affordable ih.1, ?_⟩
      intro hcovers
      have hprev := ih.2 (hspends.covers hcovers)
      have hback : -(maxAttempts : Int) ≤ ∑ z ∈ ids, if z = y then -d else 0 := by
        have hmax := spentAt_le ih.1 y
        have hmin : (0 : Int) ≤ maxAttempts := Int.natCast_nonneg _
        rw [Finset.sum_ite_eq']
        split <;> linarith
      rw [hspends.total]
      push_cast
      linarith
  | drifted h hd ih =>
      have hspends := spends_drift hd
      refine ⟨hspends.affordable ih.1, ?_⟩
      intro hcovers
      have hprev := ih.2 (hspends.covers hcovers)
      rw [hspends.total, Finset.sum_const_zero, add_zero]
      exact hprev

end Bound

/-- The other entries that are as old. -/
def older (w : World) (e : FabricOutboxEntry) : List FabricOutboxEntry :=
  w.db.fabricOutbox.select fun e' ↦ e'.id ≠ e.id ∧ e'.createdAt ≤ e.createdAt

/-- **An entry is left over a bounded number of times.**  Passes that leave it over although it is
due take, all together, at most as many entries as the other entries that are as old have attempts,
and those that admin retries gave back. -/
theorem left_over_bounded {rt : Runtime} {batchSize n r : ℕ} {w₀ w : World} {x : Id}
    {e : FabricOutboxEntry} (hempty : w₀.db.fabricOutbox = .empty)
    (he : w.db.outboxEntry x = some e) (hrun : LeftOver rt batchSize x w₀ n r w) :
    batchSize * n ≤ maxAttempts * ((older w e).length + r) := by
  let ids := ((older w e).map (·.id)).toFinset
  have hx : e.id = x := Table.key_of_get? he
  have hcovers : Covers w x ids := by
    intro y e₁ e' hy he₁ he' hle
    obtain rfl := Option.some.inj (he.symm.trans he₁)
    have hkey : e'.id = y := Table.key_of_get? he'
    have hne : e'.id ≠ e.id := by rwa [hkey, hx]
    have hmem : e' ∈ older w e :=
      List.mem_filter.mpr ⟨Table.mem_of_get? he', decide_eq_true ⟨hne, hle⟩⟩
    exact List.mem_toFinset.mpr (List.mem_map.mpr ⟨e', hmem, hkey⟩)
  obtain ⟨hafford, hbound⟩ := total_of_left ids hempty hrun
  have hcard : ids.card ≤ (older w e).length := by
    have hle := List.toFinset_card_le ((older w e).map (·.id))
    rwa [List.length_map] at hle
  have htotal := total_le hafford ids
  have hspent := hbound hcovers
  have hmul := Nat.mul_le_mul_left maxAttempts hcard
  rw [Nat.mul_add]
  zify at hmul ⊢
  linarith

/-- Fabric cannot be reached. -/
def unreachable : (q : Call) → Option (Answer q)
  | .fabricWriteSalesOrder _ _ => some (FabricExchange.httpError "unreachable")
  | _ => none

/-- Of two entries, a pass with a batch of one takes the first. -/
theorem left_over_bounded_once :
    ∃ w e, w.db.outboxEntry 1 = some e ∧
      LeftOver .sample 1 1 (.sample (.sample .complete)) 1 0 w ∧
      1 * 1 ≤ maxAttempts * ((older w e).length + 0) := by
  have hanswers : Answers unreachable := fun _ _ ↦ ⟨_, rfl, trivial⟩
  have h₀ : LeftOver .sample 1 1 (.sample (.sample .complete)) 0 0 (.sample (.sample .complete)) :=
    .refl
  have h₁ := h₀.enqueued (show Runs _ (.enqueue Deployment.sample.settings (.sample .complete)) _ _
    from ⟨unreachable, .ok (), hanswers, rfl⟩)
  have h₂ := h₁.enqueued (show Runs _ (.enqueue Deployment.sample.settings (.sample .complete)) _ _
    from ⟨unreachable, .ok (), hanswers, rfl⟩)
  have h₃ := h₂.passed rfl rfl le_rfl (by decide +kernel) ⟨unreachable, .ok (), hanswers, rfl⟩
  exact ⟨_, _, rfl, h₃, left_over_bounded rfl rfl h₃⟩

end HightowerPos.Outbox
