import HightowerPos.Async.Transact
import HightowerPos.Data.Attempts
import HightowerPos.Commit

/-!
# The attempts of an outbox entry

`enqueue`, the passes of one drain worker and the admin retry change an entry in transactions
of their own, which come in any order; a pass also waits for Fabric between two of them.
`history` is what a run has done to an entry, and it is one that an account on the schedule
allows (`Tracks`): `attempt_count` is the account's number of failures, and `next_attempt_at`
is when its next attempt may start.
-/

namespace HightowerPos.Outbox

open Async FabricOutbox Attempts

/-! ## The operations -/

/-- What is done with the outbox. -/
inductive Operation
  | enqueue (settings : Settings) (txn : POSTransaction)
  | drain (batchSize : Nat)
  | retry (id : Id)

/-- The operations as threads.  The caller of `enqueue` commits the entry that it makes. -/
def operations (rt : Runtime) : System World Call Answer PyExc Operation where
  handle
    | .enqueue settings txn => do
        let entry ← FabricOutbox.enqueue settings txn
        App.commit fun w ↦ w.addOutboxEntry entry
    | .drain batchSize => (drainOnce rt batchSize).void
    | .retry id => retryFabricOutboxEntry id
  send := World.send
  reply _ _ _ := True
  drift := World.Drift

/-- There is one drain worker: a pass starts when the last one is over. -/
def oneWorker (c : Crew World Call Answer PyExc Operation) : Operation → Prop
  | .drain _ => ∀ t ∈ c.threads, ∀ n, t.1 ≠ .drain n
  | .enqueue _ _ | .retry _ => True

/-- The schedule of the outbox. -/
def schedule : Schedule where
  limit := maxAttempts
  wait k := (retryScheduleSeconds[k]?).getD 0 * 1000000
  wait_nonneg k := by
    have hall : ∀ s ∈ retryScheduleSeconds, 0 ≤ s := by decide
    cases hs : retryScheduleSeconds[k]? with
    | none => exact Int.le_refl 0
    | some s => exact Int.mul_nonneg (hall s (List.mem_of_getElem? hs)) (by decide)

/-! ## What a run does to an entry -/

/-- The entry is one that the admin retry takes. -/
def Closed (w : World) (x : Id) : Prop :=
  ∃ e, w.db.outboxEntry x = some e ∧ (e.status = .dlq ∨ e.status = .delivered)

instance (w : World) (x : Id) : Decidable (Closed w x) :=
  match h : w.db.outboxEntry x with
  | none => isFalse fun ⟨e, he, _⟩ ↦ by
      rw [h] at he
      cases he
  | some e => decidable_of_iff (e.status = .dlq ∨ e.status = .delivered)
      ⟨fun hs ↦ ⟨e, h, hs⟩, fun ⟨e', he', hs⟩ ↦ by
        rw [h] at he'
        cases he'
        exact hs⟩

/-- How the attempt on `y` ended. -/
def resolved (x y : Id) (now : Time) (exchange : FabricExchange) : List Mark :=
  if y = x then
    match Fabric.writeSalesOrder exchange with
    | .ok _ => [.succeeded now]
    | .error (.fabricClient _) => [.failed now]
    | .error _ => []
  else []

/-- What set a turn going: an answer of Fabric, or a retry that is accepted. -/
def caused (x : Id) (w : World) : Cause Call Answer Operation → List Mark
  | .answer (.fabricWriteSalesOrder y _) exchange => resolved x y w.now exchange
  | .start (.retry y) => if y = x ∧ Closed w y then [.reopened w.now] else []
  | _ => []

/-- The attempt that a turn ends with. -/
def issued (x : Id) (now : Time) : Option Call → List Mark
  | some (.fabricWriteSalesOrder y _) => if y = x then [.posted now] else []
  | _ => []

/-- What a run has done to the entry `x`, and when. -/
def history (x : Id) (es : List (Event World Call Answer Operation)) : List Mark :=
  es.flatMap fun e ↦ caused x e.state e.cause ++ issued x e.state.now e.issued

/-! ## Rows and accounts -/

/-- What a row says of its account. -/
structure Stands (now : Time) (e : FabricOutboxEntry) (a : Account) : Prop where
  attempts : a.attempts = e.attemptCount
  clock : a.clock ≤ now
  pending : e.status = .pending → a.phase = .waiting ∧ a.due = e.nextAttemptAt
  inFlight : e.status = .inFlight → a.phase ≠ .dead ∧ (a.phase = .waiting → a.due ≤ now)
  delivered : e.status = .delivered → a.phase = .delivered
  dlq : e.status = .dlq → a.phase = .dead

/-- The worker waits for Fabric to answer about `current`, and goes on with `rest`: what is
known of the entry `x`, to which `ms` has been done. -/
structure Tracks (x : Id) (ms : List Mark) (w : World) (current : Option Id) (rest : List Id) :
    Prop where
  absent : w.db.outboxEntry x = none → ms = [] ∧ current ≠ some x ∧ x ∉ rest
  row : ∀ e, w.db.outboxEntry x = some e → ∃ t a, Account.Path schedule (.opened t) ms a ∧
    Stands w.now e a ∧ (current = some x → a.phase = .trying ∧ e.status = .inFlight) ∧
    (x ∈ rest → a.phase = .waiting ∧ e.status = .inFlight)

namespace Stands

variable {now : Time} {e : FabricOutboxEntry} {a : Account}

/-- Time passes. -/
theorem later (h : Stands now e a) {now' : Time} (hle : now ≤ now') : Stands now' e a :=
  ⟨h.attempts, h.clock.trans hle, h.pending,
    fun hs ↦ ⟨(h.inFlight hs).1, fun hp ↦ ((h.inFlight hs).2 hp).trans hle⟩, h.delivered, h.dlq⟩

/-- A new entry. -/
theorem opened {settings : Settings} {txn : POSTransaction} {completedAt : Time} {id : Id} :
    Stands now ((newEntry settings txn completedAt now).build id) (.opened now) := by
  constructor
  · rfl
  · exact Int.le_refl now
  · exact fun _ ↦ ⟨rfl, rfl⟩
  · exact fun hs ↦ nomatch hs
  · exact fun hs ↦ nomatch hs
  · exact fun hs ↦ nomatch hs

/-- An entry that is retried. -/
theorem requeued : Stands now (((requeued now).touch now).set e) (.opened now) := by
  constructor
  · rfl
  · exact Int.le_refl now
  · exact fun _ ↦ ⟨rfl, rfl⟩
  · exact fun hs ↦ nomatch hs
  · exact fun hs ↦ nomatch hs
  · exact fun hs ↦ nomatch hs

/-- An entry that is claimed. -/
theorem claimed (h : Stands now e a) (hs : e.status = .pending) (hdue : e.nextAttemptAt ≤ now) :
    a.phase = .waiting ∧ Stands now ((claimed.touch now).set e) a := by
  obtain ⟨hp, hd⟩ := h.pending hs
  refine ⟨hp, h.attempts, h.clock, nofun, fun _ ↦ ⟨?_, fun _ ↦ ?_⟩, nofun, nofun⟩
  · rw [hp]
    exact nofun
  · rw [hd]
    exact hdue

/-- An entry that is posted. -/
theorem posted (h : Stands now e a) (hs : e.status = .inFlight) :
    Stands now e { a with phase := .trying, clock := now } := by
  refine ⟨h.attempts, Int.le_refl now, fun hs' ↦ ?_, fun _ ↦ ⟨nofun, nofun⟩, fun hs' ↦ ?_,
    fun hs' ↦ ?_⟩
  · exact nomatch hs.symm.trans hs'
  · exact nomatch hs.symm.trans hs'
  · exact nomatch hs.symm.trans hs'

/-- An entry whose attempt has failed. -/
theorem failed (h : Stands now e a) (error : String) :
    Stands now (((FabricOutbox.failed e error now).touch now).set e) (a.fail schedule now) := by
  have hlimit : schedule.limit = maxAttempts := rfl
  unfold Account.fail
  rw [h.attempts, hlimit]
  by_cases hle : maxAttempts ≤ e.attemptCount + 1
  · rw [if_pos hle]
    have hset : ((FabricOutbox.failed e error now).touch now).set e =
        { e with attemptCount := e.attemptCount + 1, lastError := some error, status := .dlq,
                 updatedAt := now.timestamp } := by
      simp only [OutboxUpdate.touch, FabricOutbox.failed, if_pos hle]
    rw [hset]
    exact ⟨rfl, Int.le_refl now, fun h ↦ (by cases h), fun h ↦ (by cases h), fun h ↦ (by cases h),
      fun _ ↦ rfl⟩
  · rw [if_neg hle]
    have hset : ((FabricOutbox.failed e error now).touch now).set e =
        { e with attemptCount := e.attemptCount + 1, lastError := some error, status := .pending,
                 nextAttemptAt := now + schedule.wait (e.attemptCount + 1),
                 updatedAt := now.timestamp } := by
      simp only [OutboxUpdate.touch, FabricOutbox.failed, if_neg hle]
      rfl
    rw [hset]
    exact ⟨rfl, Int.le_refl now, fun _ ↦ ⟨rfl, rfl⟩, fun h ↦ (by cases h), fun h ↦ (by cases h),
      fun h ↦ (by cases h)⟩

/-- An entry whose attempt has succeeded, before it is marked. -/
theorem succeeded (h : Stands now e a) (hs : e.status = .inFlight) :
    Stands now e { a with phase := .delivered, clock := now } := by
  refine ⟨h.attempts, Int.le_refl now, fun hs' ↦ ?_, fun _ ↦ ⟨nofun, nofun⟩, fun _ ↦ rfl,
    fun hs' ↦ ?_⟩
  · exact nomatch hs.symm.trans hs'
  · exact nomatch hs.symm.trans hs'

/-- An entry that is marked. -/
theorem delivered_set (h : Stands now e a) (soId : Option String) :
    Stands now (((FabricOutbox.delivered soId).touch now).set e)
      { a with phase := .delivered, clock := now } :=
  ⟨h.attempts, Int.le_refl now, nofun, nofun, fun _ ↦ rfl, nofun⟩

end Stands

/-! ## What the transactions do -/

/-- The rows after a claim. -/
theorem outboxEntry_claimAll (w : World) (ids : List Id) (x : Id) :
    (claimAll ids w).now = w.now ∧ (claimAll ids w).db.outboxEntry x =
      if x ∈ ids then (w.db.outboxEntry x).map (claimed.touch w.now).set
      else w.db.outboxEntry x := by
  induction ids generalizing w with
  | nil => exact ⟨rfl, (if_neg List.not_mem_nil).symm⟩
  | cons id ids ih =>
      obtain ⟨hnow, hrow⟩ := ih (w.updateOutboxEntry id claimed)
      refine ⟨hnow, hrow.trans ?_⟩
      have hfirst : (w.updateOutboxEntry id claimed).db.outboxEntry x =
          if x = id then (w.db.outboxEntry id).map (claimed.touch w.now).set
          else w.db.outboxEntry x := Table.get?_modify
      rw [hfirst]
      by_cases hx : x = id
      · subst hx
        rw [if_pos rfl, if_pos (List.mem_cons_self ..)]
        split
        · rw [Option.map_map]
          rfl
        · rfl
      · rw [if_neg hx]
        have hmem : x ∈ id :: ids ↔ x ∈ ids := by simp [hx]
        simp only [hmem]
        rfl

/-- A claimed batch: due entries, each once. -/
theorem due_spec (w : World) (batchSize : Nat) :
    ((due w.db w.now batchSize).map (·.id)).Nodup ∧
      ∀ x ∈ (due w.db w.now batchSize).map (·.id), ∃ e, w.db.outboxEntry x = some e ∧
        e.status = .pending ∧ e.nextAttemptAt ≤ w.now := by
  have hperm := List.perm_insertionSort
    (fun a b : FabricOutboxEntry ↦ a.createdAt ≤ b.createdAt)
    (w.db.fabricOutbox.select fun e ↦ e.status = .pending ∧ e.nextAttemptAt ≤ w.now)
  constructor
  · refine ((List.take_sublist _ _).map _).nodup ?_
    refine (hperm.map _).nodup_iff.mpr ?_
    exact (List.filter_sublist.map _).nodup w.db.fabricOutbox.nodup
  · intro x hx
    obtain ⟨e, he, rfl⟩ := List.mem_map.mp hx
    have hmem := hperm.mem_iff.mp ((List.take_sublist _ _).subset he)
    obtain ⟨hrow, hdue⟩ := List.mem_filter.mp hmem
    exact ⟨e, Table.get?_of_mem hrow, of_decide_eq_true hdue⟩

namespace Tracks

variable {x y : Id} {ms : List Mark} {w w' : World} {current : Option Id} {rest ids : List Id}

/-- The worker knows of fewer entries. -/
theorem forget (h : Tracks x ms w current rest) (hids : ids ⊆ rest) : Tracks x ms w none ids where
  absent hrow := ⟨(h.absent hrow).1, nofun, fun hx ↦ (h.absent hrow).2.2 (hids hx)⟩
  row e he := by
    obtain ⟨t, a, hpath, hst, -, hrest⟩ := h.row e he
    exact ⟨t, a, hpath, hst, nofun, fun hx ↦ hrest (hids hx)⟩

/-- The row is the same. -/
theorem same (h : Tracks x ms w current rest) (hrow : w'.db.outboxEntry x = w.db.outboxEntry x)
    (hnow : w.now ≤ w'.now) : Tracks x ms w' current rest where
  absent hnone := h.absent (hrow ▸ hnone)
  row e he := by
    obtain ⟨t, a, hpath, hst, hcurrent⟩ := h.row e (hrow ▸ he)
    exact ⟨t, a, hpath, hst.later hnow, hcurrent⟩

/-- An entry is enqueued. -/
theorem enqueued (h : Tracks x ms w current rest) {settings : Settings} {txn : POSTransaction}
    {completedAt : Time} :
    Tracks x ms (w.addOutboxEntry (newEntry settings txn completedAt w.now)) current rest := by
  have hadd : (w.addOutboxEntry (newEntry settings txn completedAt w.now)).db.outboxEntry x =
      if x = w.db.fabricOutbox.fresh then
        some ((newEntry settings txn completedAt w.now).build w.db.fabricOutbox.fresh)
      else w.db.outboxEntry x := Table.get?_add
  by_cases hx : x = w.db.fabricOutbox.fresh
  · have hnone : w.db.outboxEntry x = none := hx ▸ Table.get?_fresh _
    obtain ⟨rfl, hcurrent, hrest⟩ := h.absent hnone
    rw [if_pos hx] at hadd
    constructor
    · intro hrow
      rw [hadd] at hrow
      cases hrow
    · intro e he
      rw [hadd] at he
      cases he
      exact ⟨w.now, _, .nil, .opened, fun hc ↦ absurd hc hcurrent, fun hr ↦ absurd hr hrest⟩
  · rw [if_neg hx] at hadd
    exact h.same hadd (Int.le_refl _)

/-- An entry is retried. -/
theorem retried (h : Tracks x ms w current rest) (hclosed : Closed w y) :
    Tracks x (ms ++ if y = x then [.reopened w.now] else [])
      (w.updateOutboxEntry y (requeued w.now)) current rest := by
  by_cases hx : y = x
  · subst hx
    obtain ⟨e, he, hs⟩ := hclosed
    have hrow : (w.updateOutboxEntry y (requeued w.now)).db.outboxEntry y =
        (w.db.outboxEntry y).map ((requeued w.now).touch w.now).set := Table.get?_modify_self
    rw [he] at hrow
    rw [if_pos rfl]
    obtain ⟨t, a, hpath, hst, hcurrent, hrest⟩ := h.row e he
    have hnot : e.status ≠ .inFlight := by
      rcases hs with hs | hs <;> rw [hs] <;> exact nofun
    constructor
    · intro hnone
      rw [hrow] at hnone
      cases hnone
    · intro e' he'
      rw [hrow] at he'
      cases he'
      refine ⟨t, _, hpath.snoc (.reopened ?_ hst.clock), .requeued,
        fun hc ↦ absurd (hcurrent hc).2 hnot, fun hr ↦ absurd (hrest hr).2 hnot⟩
      rcases hs with hs | hs
      · exact .inr (hst.dlq hs)
      · exact .inl (hst.delivered hs)
  · rw [if_neg hx, List.append_nil]
    exact h.same (Table.get?_modify_ne (Ne.symm hx)) (Int.le_refl _)

/-- A batch is claimed. -/
theorem claimed (h : Tracks x ms w none []) {batchSize : Nat} :
    Tracks x ms (claimAll ((due w.db w.now batchSize).map (·.id)) w) none
      ((due w.db w.now batchSize).map (·.id)) := by
  obtain ⟨-, hdue⟩ := due_spec w batchSize
  generalize (due w.db w.now batchSize).map (·.id) = ids at hdue
  obtain ⟨hnow, hrow⟩ := outboxEntry_claimAll w ids x
  by_cases hx : x ∈ ids
  · obtain ⟨e, he, hs, hle⟩ := hdue x hx
    rw [if_pos hx, he] at hrow
    obtain ⟨t, a, hpath, hst, -⟩ := h.row e he
    obtain ⟨hp, hst'⟩ := hst.claimed hs hle
    constructor
    · intro hnone
      rw [hrow] at hnone
      cases hnone
    · intro e' he'
      rw [hrow] at he'
      cases he'
      rw [hnow]
      exact ⟨t, a, hpath, hst', nofun, fun _ ↦ ⟨hp, rfl⟩⟩
  · rw [if_neg hx] at hrow
    have hsame := h.same hrow hnow.ge
    refine ⟨fun hnone ↦ ⟨(hsame.absent hnone).1, nofun, hx⟩, fun e he ↦ ?_⟩
    obtain ⟨t, a, hpath, hst, -⟩ := hsame.row e he
    exact ⟨t, a, hpath, hst, nofun, fun hr ↦ absurd hr hx⟩

/-- The next entry of the batch is posted. -/
theorem posted (h : Tracks x ms w none (y :: ids)) (hy : y ∉ ids) :
    Tracks x (ms ++ if y = x then [.posted w.now] else []) w (some y) ids := by
  by_cases hx : y = x
  · subst hx
    rw [if_pos rfl]
    refine ⟨fun hnone ↦ absurd (.head _) (h.absent hnone).2.2, fun e he ↦ ?_⟩
    obtain ⟨t, a, hpath, hst, -, hrest⟩ := h.row e he
    obtain ⟨hp, hs⟩ := hrest (.head _)
    refine ⟨t, _, hpath.snoc (.posted hp ((hst.inFlight hs).2 hp) hst.clock), hst.posted hs,
      fun _ ↦ ⟨rfl, hs⟩, fun hr ↦ absurd hr hy⟩
  · rw [if_neg hx, List.append_nil]
    have hne : some y ≠ some x := fun he ↦ hx (Option.some.inj he)
    refine ⟨fun hnone ↦ ?_, fun e he ↦ ?_⟩
    · obtain ⟨hms, -, hrest⟩ := h.absent hnone
      exact ⟨hms, hne, fun hr ↦ hrest (List.mem_cons_of_mem _ hr)⟩
    · obtain ⟨t, a, hpath, hst, -, hrest⟩ := h.row e he
      exact ⟨t, a, hpath, hst, fun hc ↦ absurd hc hne,
        fun hr ↦ hrest (List.mem_cons_of_mem _ hr)⟩

/-- The worker is done with an entry, and has done `m` to it. -/
theorem leaves (h : Tracks x ms w (some y) rest) (hy : y ∉ rest) {m : Mark}
    (hothers : ∀ z, z ≠ y → w'.db.outboxEntry z = w.db.outboxEntry z) (hnow : w'.now = w.now)
    (hrow : ∀ e a, w.db.outboxEntry y = some e → Stands w.now e a → a.phase = .trying →
      e.status = .inFlight →
      ∃ e' a', w'.db.outboxEntry y = some e' ∧ a.Step schedule m a' ∧ Stands w.now e' a') :
    Tracks x (ms ++ if y = x then [m] else []) w' none rest := by
  by_cases hx : y = x
  · subst hx
    rw [if_pos rfl]
    cases he : w.db.outboxEntry y with
    | none => exact absurd rfl (h.absent he).2.1
    | some e =>
        obtain ⟨t, a, hpath, hst, hcurrent, -⟩ := h.row e he
        obtain ⟨hp, hs⟩ := hcurrent rfl
        obtain ⟨e', a', he', hstep, hst'⟩ := hrow e a he hst hp hs
        refine ⟨fun hnone ↦ ?_, fun e'' he'' ↦ ?_⟩
        · rw [he'] at hnone
          cases hnone
        · rw [he'] at he''
          cases he''
          exact ⟨t, a', hpath.snoc hstep, hnow ▸ hst', nofun, fun hr ↦ absurd hr hy⟩
  · rw [if_neg hx, List.append_nil]
    exact (h.forget (List.Subset.refl _)).same (hothers x (Ne.symm hx)) hnow.ge

end Tracks

/-! ## The worker -/

/-- What a pass does with the answer of Fabric about an entry. -/
def resolve (rt : Runtime) (id : Id) (ids : List Id) (res : DrainResult)
    (exchange : FabricExchange) : App DrainResult :=
  match Fabric.writeSalesOrder exchange with
  | .error (.fabricClient error) => do
      let status ← markFailed id error
      if status = some .dlq then drainEntries rt ids { res with dlq := res.dlq + 1 }
      else drainEntries rt ids { res with failed := res.failed + 1 }
  | .error e => .raise e
  | .ok body => do
      markDelivered rt id (body.get "fabric_so_id")
      drainEntries rt ids { res with delivered := res.delivered + 1 }

/-- The worker between two transactions: it has the rest of a batch before it, or waits for
Fabric. -/
inductive Works (rt : Runtime) (x : Id) (ms : List Mark) (w : World) : App Unit → Prop
  | between {y : Id} {ids : List Id} {res : DrainResult} (hnd : (y :: ids).Nodup)
      (h : Tracks x ms w none (y :: ids)) : Works rt x ms w (drainEntries rt (y :: ids) res).void
  | posting {y : Id} {payload : FabricPayload} {ids : List Id} {res : DrainResult}
      (hnd : (y :: ids).Nodup) (h : Tracks x ms w (some y) ids) :
      Works rt x ms w (.await (.fabricWriteSalesOrder y payload) fun exchange ↦
        (resolve rt y ids res exchange).void)

/-- After a turn of the worker at `now`. -/
structure After (rt : Runtime) (x : Id) (ms : List Mark) (now : Time)
    (r : World × Option (App Unit)) : Prop where
  clock : r.1.now = now
  «over» : r.2 = none → Tracks x ms r.1 none []
  works : ∀ p, r.2 = some p → Works rt x (ms ++ issued x now p.awaited) r.1 p

section Worker

variable {rt : Runtime} {x y : Id} {ms : List Mark} {w w' : World} {ids : List Id}
  {res : DrainResult} {r : World × Option (App Unit)}

/-- A transaction that starts with the look-up of an entry. -/
theorem transacts_getEntry {f : Option FabricOutboxEntry → App Unit}
    (h : (getEntry y >>= f).Transacts World.send w r) :
    (f (w.db.outboxEntry y)).Transacts World.send w r := h.of_read

/-- The pass is over. -/
theorem after_over (h : Tracks x ms w none []) : After rt x ms w.now (w, none) :=
  ⟨rfl, fun _ ↦ h, fun _ hp ↦ nomatch hp⟩

/-- The loop goes on to the next entry that is still `IN_FLIGHT`, and posts it. -/
theorem after_entries (hnd : ids.Nodup) (ht : Tracks x ms w none ids)
    (h : ((drainEntries rt ids res).void).Transacts World.send w r) :
    After rt x ms w.now r := by
  induction ids generalizing res with
  | nil =>
      obtain rfl := h.of_pure
      exact after_over ht
  | cons y ids ih =>
      have hskip := ht.forget (List.subset_cons_self y ids)
      rw [drainEntries, App.void, Prog.bind_assoc] at h
      have hread := transacts_getEntry h
      cases hrow : w.db.outboxEntry y with
      | none =>
          rw [hrow] at hread
          exact ih hnd.of_cons hskip hread
      | some e =>
          rw [hrow] at hread
          by_cases hs : e.status = .inFlight
          · simp only [hs, if_true] at hread
            obtain rfl := hread.of_await
            refine ⟨rfl, fun hnone ↦ (by cases hnone), fun p hp ↦ ?_⟩
            cases hp
            exact .posting hnd (ht.posted (List.nodup_cons.mp hnd).1)
          · simp only [hs, if_false] at hread
            exact ih hnd.of_cons hskip hread

/-- After a commit the worker has the rest of the batch before it. -/
theorem after_commit (hnd : ids.Nodup) (ht : Tracks x ms w none ids)
    (h : r = ((drainEntries rt ids res).void).settle World.send w ∨
      ((drainEntries rt ids res).void).Transacts World.send w r) : After rt x ms w.now r := by
  rcases h with rfl | h
  · cases ids with
    | nil => exact after_over ht
    | cons y ids =>
        refine ⟨rfl, nofun, fun p hp ↦ ?_⟩
        cases hp
        rw [show issued x w.now _ = [] from rfl, List.append_nil]
        exact .between hnd ht
  · exact after_entries hnd ht h

/-- A pass claims a batch. -/
theorem after_drain {batchSize : Nat} (ht : Tracks x ms w none [])
    (h : ((drainOnce rt batchSize).void).Transacts World.send w r) :
    After rt x ms w.now r := by
  have hafter := after_commit (due_spec w _).1 ht.claimed h.of_read.of_commit
  rwa [(outboxEntry_claimAll w _ x).1] at hafter

/-- An attempt has failed. -/
theorem after_failed (hnd : (y :: ids).Nodup) (ht : Tracks x ms w (some y) ids) {error : String}
    {f : Option OutboxStatus → DrainResult}
    (h : (App.void (markFailed y error >>= fun status ↦ drainEntries rt ids (f status))).Transacts
      World.send w r) :
    After rt x (ms ++ if y = x then [.failed w.now] else []) w.now r := by
  obtain ⟨hy, hids⟩ := List.nodup_cons.mp hnd
  rw [App.void, Prog.bind_assoc, markFailed, Prog.bind_assoc] at h
  have hread := transacts_getEntry h
  cases hrow : w.db.outboxEntry y with
  | none =>
      rw [hrow] at hread
      refine after_entries hids (ht.leaves hy (fun _ _ ↦ rfl) rfl fun e a he ↦ ?_) hread
      cases hrow.symm.trans he
  | some e =>
      rw [hrow] at hread
      refine after_commit (w := w.updateOutboxEntry y (failed e error w.now)) hids
        (ht.leaves hy (fun _ hz ↦ Table.get?_modify_ne hz) rfl fun e' a he' hst hp hs ↦ ?_)
        hread.of_commit
      obtain rfl : e = e' := Option.some.inj (hrow.symm.trans he')
      refine ⟨_, _, ?_, .failed hp hst.clock, hst.failed error⟩
      exact Table.get?_modify_self.trans (congrArg (Option.map _) hrow)

/-- An attempt has succeeded. -/
theorem after_delivered (hnd : (y :: ids).Nodup) (ht : Tracks x ms w (some y) ids) {v : Json}
    (h : (App.void (markDelivered rt y v >>= fun _ ↦ drainEntries rt ids res)).Transacts
      World.send w r) :
    After rt x (ms ++ if y = x then [.succeeded w.now] else []) w.now r := by
  obtain ⟨hy, hids⟩ := List.nodup_cons.mp hnd
  rw [App.void, Prog.bind_assoc, markDelivered, Prog.bind_assoc] at h
  have hread := transacts_getEntry h
  cases hrow : w.db.outboxEntry y with
  | none =>
      rw [hrow] at hread
      refine after_entries hids (ht.leaves hy (fun _ _ ↦ rfl) rfl fun e a he ↦ ?_) hread
      cases hrow.symm.trans he
  | some e =>
      rw [hrow] at hread
      cases hso : Fabric.bindText rt v with
      | error exc =>
          -- the row stays `IN_FLIGHT`
          rw [hso] at hread
          obtain rfl := hread.of_raise
          have hleft : Tracks _ _ w none _ :=
            ht.leaves (m := .succeeded w.now) hy (fun _ _ ↦ rfl) rfl
              fun e a he hst hp hs ↦ ⟨e, _, he, .succeeded hp hst.clock, hst.succeeded hs⟩
          exact after_over (hleft.forget (List.nil_subset ids))
      | ok soId =>
          rw [hso] at hread
          refine after_commit (w := w.updateOutboxEntry y (delivered soId)) hids
            (ht.leaves hy (fun _ hz ↦ Table.get?_modify_ne hz) rfl fun e' a he' hst hp _ ↦ ?_)
            hread.of_commit
          refine ⟨_, _, ?_, .succeeded hp hst.clock, hst.delivered_set soId⟩
          exact Table.get?_modify_self.trans (congrArg (Option.map _) he')

/-- Fabric has answered. -/
theorem after_resolve (hnd : (y :: ids).Nodup) (ht : Tracks x ms w (some y) ids)
    {exchange : FabricExchange}
    (h : ((resolve rt y ids res exchange).void).Transacts World.send w r) :
    After rt x (ms ++ resolved x y w.now exchange) w.now r := by
  unfold resolve at h
  unfold resolved
  cases hx : Fabric.writeSalesOrder exchange with
  | ok body =>
      rw [hx] at h
      exact after_delivered hnd ht h
  | error exc =>
      rw [hx] at h
      -- any other exception ends the pass
      have hraised {r : World × Option (App Unit)} (hr : r = (w, none)) :
          After rt x (ms ++ if y = x then [] else []) w.now r := by
        rw [hr, ite_self, List.append_nil]
        exact after_over (ht.forget (List.nil_subset ids))
      cases exc with
      | fabricClient m =>
          have hloop (status : Option OutboxStatus) :
              (if status = some .dlq then drainEntries rt ids { res with dlq := res.dlq + 1 }
                else drainEntries rt ids { res with failed := res.failed + 1 }) =
                drainEntries rt ids (if status = some .dlq then { res with dlq := res.dlq + 1 }
                  else { res with failed := res.failed + 1 }) := (apply_ite _ _ _ _).symm
          simp only [hloop] at h
          exact after_failed hnd ht h
      | _ => exact hraised h.of_raise

end Worker

/-! ## Runs -/

/-- The worker is idle, or between two of its transactions. -/
inductive Manned (rt : Runtime) (x : Id) (ms : List Mark) :
    Crew World Call Answer PyExc Operation → Prop
  | idle {w : World} (h : Tracks x ms w none []) : Manned rt x ms ⟨w, []⟩
  | busy {w : World} {batchSize : Nat} {p : App Unit} (h : Works rt x ms w p) :
      Manned rt x ms ⟨w, [(.drain batchSize, p)]⟩

section Runs

variable {rt : Runtime} {x : Id} {ms : List Mark} {w : World}
  {c c' : Crew World Call Answer PyExc Operation} {es : List (Event World Call Answer Operation)}

/-- What the worker knows, and that it knows nothing else. -/
theorem Manned.tracks (h : Manned rt x ms c) : ∃ current rest, Tracks x ms c.state current rest ∧
    ∀ ms' w', Tracks x ms' w' current rest → Manned rt x ms' ⟨w', c.threads⟩ := by
  cases h with
  | idle h => exact ⟨none, [], h, fun _ _ h' ↦ .idle h'⟩
  | busy h =>
      cases h with
      | @between y ids res hnd h => exact ⟨none, y :: ids, h, fun _ _ h' ↦ .busy (.between hnd h')⟩
      | @posting y payload ids res hnd h =>
          exact ⟨some y, ids, h, fun _ _ h' ↦ .busy (.posting hnd h')⟩

/-- A turn of the worker. -/
theorem After.manned {now : Time} {r : World × Option (App Unit)} (h : After rt x ms now r)
    (batchSize : Nat) : Manned rt x (ms ++ issued x now (r.2.bind Prog.awaited))
      ⟨r.1, (r.2.map fun p ↦ (Operation.drain batchSize, p)).toList⟩ := by
  obtain ⟨w, o⟩ := r
  cases o with
  | none =>
      refine .idle ?_
      rw [show issued x now _ = [] from rfl, List.append_nil]
      exact h.over rfl
  | some p => exact .busy (h.works p rfl)

/-- The admin retry is one transaction. -/
theorem turn_retry {y : Id} {r : World × Option (App Unit)}
    (h : (retryFabricOutboxEntry y).Transacts World.send w r) :
    r = (if Closed w y then w.updateOutboxEntry y (requeued w.now) else w, none) := by
  rw [retryFabricOutboxEntry] at h
  have hread := transacts_getEntry h
  cases hrow : w.db.outboxEntry y with
  | none =>
      rw [hrow] at hread
      have hclosed : ¬ Closed w y := by
        rintro ⟨e, he, -⟩
        cases hrow.symm.trans he
      rw [if_neg hclosed]
      exact hread.of_raise
  | some e =>
      rw [hrow] at hread
      by_cases hs : e.status = .dlq ∨ e.status = .delivered
      · simp only [hs, if_true] at hread
        rw [if_pos ⟨e, hrow, hs⟩]
        exact hread.of_last
      · simp only [hs, if_false] at hread
        have hclosed : ¬ Closed w y := by
          rintro ⟨e', he', hs'⟩
          exact hs (Option.some.inj (hrow.symm.trans he') ▸ hs')
        rw [if_neg hclosed]
        exact hread.of_raise

/-- **A turn does to an entry what its account allows.** -/
theorem manned_fires (h : Manned rt x (history x es) c)
    {o : Option (Event World Call Answer Operation)}
    (hs : Crew.Fires (operations rt) oneWorker c o c') :
    Manned rt x (history x (es ++ o.toList)) c' := by
  have hhistory (ev : Event World Call Answer Operation) : history x (es ++ [ev]) =
      history x es ++ caused x ev.state ev.cause ++ issued x ev.state.now ev.issued := by
    simp [history]
  -- the crew is the worker, or nobody
  have hworker {w : World} {l l' : List (Thread World Call Answer PyExc Operation)}
      {i : Operation} {p : App Unit} (h : Manned rt x (history x es) ⟨w, l ++ (i, p) :: l'⟩) :
      l = [] ∧ l' = [] ∧ (∃ n, i = .drain n) ∧ Works rt x (history x es) w p := by
    generalize hl : l ++ (i, p) :: l' = threads at h
    cases h with
    | idle => simp at hl
    | @busy _ n p' h =>
        obtain ⟨rfl, hcons⟩ : l = [] ∧ (i, p) :: l' = [(Operation.drain n, p')] := by
          simpa [List.append_eq_singleton_iff] using hl
        obtain ⟨hip, rfl⟩ := List.cons.inj hcons
        cases hip
        exact ⟨rfl, rfl, ⟨n, rfl⟩, h⟩
  cases hs with
  | drift hd =>
      obtain ⟨current, rest, ht, hmanned⟩ := h.tracks
      rw [show es ++ none.toList = es from List.append_nil es]
      refine hmanned _ _ (ht.same (congrArg (fun db ↦ Db.outboxEntry db x) hd.db) ?_)
      cases hd with
      | tick hle => exact hle
      | settle => exact Int.le_refl _
  | @start w l r i hg ht =>
      rw [Option.toList_some, hhistory]
      dsimp only
      cases i with
      | enqueue settings txn =>
          obtain ⟨current, rest, htracks, hmanned⟩ := h.tracks
          obtain rfl := ht.of_read.of_last
          rw [show caused x w _ = [] from rfl, show issued x w.now _ = [] from rfl,
            List.append_nil, List.append_nil]
          dsimp only [Option.map_none, Option.toList_none]
          rw [List.append_nil]
          exact hmanned _ _ htracks.enqueued
      | retry y =>
          obtain ⟨current, rest, htracks, hmanned⟩ := h.tracks
          obtain rfl := turn_retry ht
          rw [show issued x w.now _ = [] from rfl, List.append_nil]
          dsimp only [Option.map_none, Option.toList_none, caused]
          rw [List.append_nil]
          by_cases hclosed : Closed w y
          · simp only [hclosed, and_true, if_true]
            exact hmanned _ _ (htracks.retried hclosed)
          · simp only [hclosed, and_false, if_false, List.append_nil]
            exact hmanned _ _ htracks
      | drain n =>
          -- no other pass is under way
          cases h with
          | busy => exact absurd rfl (hg _ (.head _) _)
          | idle h =>
              rw [show caused x w _ = [] from rfl, List.append_nil]
              exact (after_drain h ht).manned n
  | further ht =>
      obtain ⟨rfl, rfl, ⟨n, rfl⟩, hworks⟩ := hworker h
      rw [Option.toList_some, hhistory, show caused x _ _ = [] from rfl, List.append_nil]
      dsimp only
      rw [List.nil_append, List.append_nil]
      generalize hp : Prog.atomic _ _ = p at hworks ht
      cases hworks with
      | between hnd h => exact (after_entries hnd h ht).manned n
      | posting => cases hp
  | @answer _ _ _ _ q k r a ha ht =>
      obtain ⟨rfl, rfl, ⟨n, rfl⟩, hworks⟩ := hworker h
      rw [Option.toList_some, hhistory]
      dsimp only
      rw [List.nil_append, List.append_nil]
      generalize hp : Prog.await _ _ = p at hworks
      cases hworks with
      | between => cases hp
      | posting hnd htracks =>
          cases hp
          exact (after_resolve hnd htracks ht).manned n

end Runs

/-! ## What an entry carries -/

/-- Entries stay, and what they carry stays the same. -/
def Lasts (w w' : World) : Prop :=
  ∀ x e, w.db.outboxEntry x = some e → ∃ e', w'.db.outboxEntry x = some e' ∧ e'.order = e.order

theorem Lasts.refl (w : World) : Lasts w w := fun _ e he ↦ ⟨e, he, rfl⟩

theorem Lasts.trans (w w' w'' : World) (h : Lasts w w') (h' : Lasts w' w'') : Lasts w w'' := by
  intro x e he
  obtain ⟨e', he', horder⟩ := h x e he
  obtain ⟨e'', he'', horder'⟩ := h' x e' he'
  exact ⟨e'', he'', horder'.trans horder⟩

/-- The program changes no entry but in columns that it does not carry. -/
abbrev Carries {α : Type} (p : App α) : Prop :=
  p.Guarantees World.send (fun _ ↦ True) Lasts fun _ ↦ True

section Carried

variable {rt : Runtime} {w : World} {y : Id}

theorem lasts_add {d : Draft FabricOutboxEntry FabricOutboxEntry.id} :
    Lasts w (w.addOutboxEntry d) := fun _ e he ↦ ⟨e, Table.get?_add_of_some he, rfl⟩

theorem lasts_update {u : OutboxUpdate} (hu : ∀ e, (u.set e).order = e.order) :
    Lasts w (w.updateOutboxEntry y u) := by
  intro x e he
  by_cases hx : x = y
  · subst hx
    exact ⟨_, Table.get?_modify_self.trans (congrArg (Option.map _) he), hu e⟩
  · exact ⟨e, (Table.get?_modify_ne hx).trans he, rfl⟩

theorem lasts_claimAll {ids : List Id} : Lasts w (claimAll ids w) := by
  induction ids generalizing w with
  | nil => exact .refl w
  | cons id ids ih => exact .trans _ _ _ (lasts_update fun _ ↦ rfl) ih

theorem carries_read {α : Type} {k : World → App α} (hk : ∀ w, Carries (k w)) :
    Carries (.atomic .ok k) := fun w _ ↦ ⟨.refl w, hk w⟩

theorem carries_getEntry {α : Type} {f : Option FabricOutboxEntry → App α}
    (hf : ∀ entry, Carries (f entry)) : Carries (getEntry y >>= f) :=
  carries_read fun w ↦ hf (w.db.outboxEntry y)

theorem carries_markFailed {error : String} : Carries (markFailed y error) := by
  refine carries_getEntry fun entry ↦ ?_
  cases entry with
  | none => trivial
  | some e => exact fun w' _ ↦ ⟨lasts_update (order_failed e error w'.now), trivial⟩

theorem carries_markDelivered {v : Json} : Carries (markDelivered rt y v) := by
  refine carries_getEntry fun entry ↦ ?_
  cases entry with
  | none => trivial
  | some e =>
      cases Fabric.bindText rt v with
      | error exc => trivial
      | ok soId => exact fun w' _ ↦ ⟨lasts_update fun _ ↦ rfl, trivial⟩

theorem carries_drainEntries (ids : List Id) (res : DrainResult) :
    Carries (drainEntries rt ids res) := by
  induction ids generalizing res with
  | nil => trivial
  | cons y ids ih =>
      refine carries_getEntry fun entry ↦ ?_
      cases entry with
      | none => exact ih res
      | some e =>
          dsimp only
          split
          · refine fun w' _ ↦ ⟨.refl w', fun exchange ↦ ?_⟩
            change Carries (resolve rt y ids res exchange)
            unfold resolve
            split
            · refine guarantees_seq carries_markFailed fun status ↦ ?_
              split
              · exact ih _
              · exact ih _
            · trivial
            · exact guarantees_seq carries_markDelivered fun _ ↦ ih _
          · exact ih res

/-- **No operation changes what an entry carries.** -/
theorem carries_handle (i : Operation) : Carries ((operations rt).handle i) := by
  cases i with
  | enqueue settings txn => exact carries_read fun _ w _ ↦ ⟨lasts_add, trivial⟩
  | drain batchSize =>
      refine carries_read fun w w' _ ↦ ⟨lasts_claimAll, ?_⟩
      exact guarantees_seq (carries_drainEntries _ _) fun _ ↦ trivial
  | retry y =>
      refine carries_getEntry fun entry ↦ ?_
      cases entry with
      | none => trivial
      | some e =>
          dsimp only
          split
          · exact fun w' _ ↦ ⟨lasts_update fun _ ↦ rfl, trivial⟩
          · trivial

end Carried

/-! ## The accounting -/

/-- What is known of an entry to which `ms` has been done.  An attempt that fails as the `k`-th
since the enqueue or the last retry is followed by the next one after the `k`-th wait. -/
structure Accounted (ms : List Mark) (e : FabricOutboxEntry) : Prop where
  attempts : e.attemptCount = failures ms
  underWay : e.status = .pending ∨ e.status = .inFlight → e.attemptCount < maxAttempts
  dlq : e.status = .dlq → e.attemptCount = maxAttempts
  spaced : ∀ l m r t t', ms = l ++ .failed t :: (m ++ .posted t' :: r) →
    (∀ n ∈ m, n.isReopened = false) →
      ∃ wait, retryScheduleSeconds[failures (l ++ [.failed t])]? = some wait ∧
        t + wait * 1000000 ≤ t'
  once : ∀ l m r, ms = l ++ m ++ r → (∀ n ∈ m, n.isReopened = false) →
    m.countP Mark.isSucceeded ≤ 1

theorem accounted_of_path {now t : Time} {ms : List Mark} {e : FabricOutboxEntry} {a : Account}
    (hpath : Account.Path schedule (.opened t) ms a) (hst : Stands now e a) :
    Accounted ms e where
  attempts := hst.attempts.symm.trans hpath.attempts_eq
  underWay hs := by
    rw [← hst.attempts]
    refine (hpath.bounds (by decide)).1 ?_
    rcases hs with hs | hs
    · rw [(hst.pending hs).1]
      exact nofun
    · exact (hst.inFlight hs).1
  dlq hs := by
    rw [← hst.attempts]
    exact (hpath.bounds (by decide)).2 (hst.dlq hs)
  spaced l m r t t' hms hm := by
    subst hms
    obtain ⟨hlt, hle⟩ := hpath.spaced hm
    have hwait : retryScheduleSeconds[failures (l ++ [.failed t])]? = some _ :=
      List.getElem?_eq_getElem hlt
    refine ⟨_, hwait, ?_⟩
    change t + (retryScheduleSeconds[_]?).getD 0 * 1000000 ≤ t' at hle
    rwa [hwait] at hle
  once l m r hms hm := by
    subst hms
    obtain ⟨b, hb, -⟩ := hpath.of_append
    obtain ⟨b', -, hm'⟩ := hb.of_append
    exact hm'.succeeds_once hm

/-- **Attempts are accounted for.**  From an empty outbox, in every run of enqueues, drain passes
of one worker and retries, every entry is `Accounted`; and in whatever follows, it carries
what it carried, and when it is `DELIVERED` or `DLQ` nothing is done to it until it is retried. -/
theorem attempts_accounted (rt : Runtime) {w : World} (hw : w.db.fabricOutbox = .empty)
    {es : List (Event World Call Answer Operation)} {c : Crew World Call Answer PyExc Operation}
    (h : Crew.Traced (operations rt) oneWorker ⟨w, []⟩ es c) {x : Id} {e : FabricOutboxEntry}
    (he : c.state.db.outboxEntry x = some e) :
    Accounted (history x es) e ∧
      ∀ es' c', Crew.Traced (operations rt) oneWorker c es' c' →
        ∃ e', c'.state.db.outboxEntry x = some e' ∧ e'.posTransactionId = e.posTransactionId ∧
          e'.payload = e.payload ∧
          (e.status = .delivered ∨ e.status = .dlq →
            (∀ m ∈ history x es', m.isReopened = false) → history x es' = []) := by
  have hnone : w.db.outboxEntry x = none := by
    unfold Db.outboxEntry
    rw [hw]
    rfl
  have hstart : Manned rt x (history x []) ⟨w, []⟩ :=
    .idle ⟨fun _ ↦ ⟨rfl, nofun, List.not_mem_nil⟩, fun e he ↦ nomatch hnone.symm.trans he⟩
  have hstep : ∀ es c o c', Manned rt x (history x es) c →
      Crew.Fires (operations rt) oneWorker c o c' → Manned rt x (history x (es ++ o.toList)) c' :=
    fun _ _ _ _ hm hs ↦ manned_fires hm hs
  obtain ⟨current, rest, ht, -⟩ := (Crew.Traced.invariant hstep hstart h).tracks
  obtain ⟨t, a, hpath, hst, -⟩ := ht.row e he
  rw [List.nil_append] at hpath
  refine ⟨accounted_of_path hpath hst, fun es' c' h' ↦ ?_⟩
  have hdrift (w w' : World) (hd : World.Drift w w') : Lasts w w' := fun y e' he' ↦
    ⟨e', (congrArg (fun db ↦ Db.outboxEntry db y) hd.db).trans he', rfl⟩
  have hkeeps := (h.keeps Lasts.refl Lasts.trans hdrift carries_handle
    fun _ hmem ↦ absurd hmem List.not_mem_nil).1
  obtain ⟨e', he', horder⟩ :=
    (h'.keeps Lasts.refl Lasts.trans hdrift carries_handle hkeeps).2 x e he
  obtain ⟨-, htxn, hpayload⟩ : e'.id = e.id ∧ e'.posTransactionId = e.posTransactionId ∧
      e'.payload = e.payload := by simpa [FabricOutboxEntry.order] using horder
  refine ⟨e', he', htxn, hpayload, fun hs hms ↦ ?_⟩
  obtain ⟨current', rest', ht', -⟩ := (Crew.Traced.invariant hstep hstart (h.append h')).tracks
  obtain ⟨t', a', hpath', -⟩ := ht'.row e' he'
  rw [List.nil_append, show history x (es ++ es') = history x es ++ history x es' from
    List.flatMap_append] at hpath'
  obtain ⟨b, hb, hlater⟩ := hpath'.of_append
  -- the account was closed, whatever it says of the time before
  have hphase : b.phase = a.phase := hb.phase_eq.trans hpath.phase_eq.symm
  refine hlater.closed ?_ hms
  rw [hphase]
  exact hs.imp hst.delivered hst.dlq

/-- Fabric cannot be reached, and the entry is posted again after the first wait of 4 s. -/
theorem attempts_accounted_unreachable :
    ∃ es c e, Crew.Traced (operations .sample) oneWorker ⟨.sample (.sample .complete), []⟩ es c ∧
      c.state.db.outboxEntry 0 = some e ∧
      history 0 es = [.posted 0, .failed 0, .posted 4000000] ∧ Accounted (history 0 es) e := by
  have hne {w w' : World} (h : w'.db.fabricOutbox.rows ≠ w.db.fabricOutbox.rows) : w' ≠ w :=
    fun heq ↦ h (congrArg (fun w ↦ w.db.fabricOutbox.rows) heq)
  have h₀ : Crew.Traced (operations .sample) oneWorker ⟨.sample (.sample .complete), []⟩ [] _ :=
    .nil
  have h₁ := h₀.snoc (.start (Operation.enqueue Deployment.sample.settings (.sample .complete))
    trivial (.read rfl (.write rfl (hne (by decide +kernel)))))
  have h₂ := h₁.snoc (.start (Operation.drain 50) (fun _ hmem ↦ absurd hmem List.not_mem_nil)
    (.read rfl (.write rfl (hne (by decide +kernel)))))
  have h₃ := h₂.snoc (.further (l := []) (r := []) (.read rfl (.stop rfl)))
  have h₄ := h₃.snoc (.answer (l := []) (r := []) (FabricExchange.httpError "unreachable") trivial
    (by
      refine .read rfl (.write rfl ?_)
      exact hne (by decide +kernel)))
  have h₅ := h₄.snoc (.drift (.tick (t := 4000000) (by decide)))
  have h₆ := h₅.snoc (.start (Operation.drain 50) (fun _ hmem ↦ absurd hmem List.not_mem_nil)
    (.read rfl (.write rfl (hne (by decide +kernel)))))
  have h₇ := h₆.snoc (.further (l := []) (r := []) (.read rfl (.stop rfl)))
  exact ⟨_, _, _, h₇, rfl, rfl, (attempts_accounted .sample rfl h₇ rfl).1⟩

end HightowerPos.Outbox
