import HightowerPos.Async.Crew
import HightowerPos.Footprint

/-!
# Handlers that claim no entry

Only `_claim_due` writes `IN_FLIGHT`.  The other handlers enqueue entries or put them back
in the queue: no access of theirs claims one (`Spares`), whatever the other threads do
between two of them.
-/

namespace HightowerPos.Outbox

open Async

/-- The entry is `IN_FLIGHT`. -/
def Claimed (w : World) (id : Id) : Prop := ∃ e, w.db.outboxEntry id = some e ∧ e.status = .inFlight

/-- No access of the program claims an entry. -/
def Spares {α : Type} (p : App α) : Prop :=
  p.Guarantees World.send (fun _ ↦ True) (fun w w' ↦ ∀ id, Claimed w' id → Claimed w id)
    fun _ ↦ True

/-! ## Writes that claim no entry -/

section Writes

variable {w w' : World} {id : Id}

/-- The outbox is the same. -/
theorem claimed_same (h : w'.db.fabricOutbox = w.db.fabricOutbox) (hid : Claimed w' id) :
    Claimed w id := by
  unfold Claimed Db.outboxEntry at hid ⊢
  rwa [h] at hid

/-- A call leaves the outbox alone. -/
theorem claimed_send {q : Call} (h : Claimed (World.send q w) id) : Claimed w id :=
  claimed_same (by cases q <;> rfl) h

/-- Time passes, or Windcave settles something. -/
theorem claimed_drift (hd : World.Drift w w') (h : Claimed w' id) : Claimed w id :=
  claimed_same (congrArg Db.fabricOutbox hd.db) h

/-- A new entry is `PENDING`. -/
theorem claimed_enqueued {settings : Settings} {txn : POSTransaction} {completedAt now : Time}
    (h : Claimed (w.addOutboxEntry (FabricOutbox.newEntry settings txn completedAt now)) id) :
    Claimed w id := by
  obtain ⟨e, he, hs⟩ := h
  rcases Table.of_get?_add he with ⟨-, rfl⟩ | ⟨-, he⟩
  · cases hs
  · exact ⟨e, he, hs⟩

/-- An entry after an update that leaves no entry `IN_FLIGHT` is not the one that was
updated. -/
theorem claimed_updated {x : Id} {u : OutboxUpdate} (hu : ∀ e, (u.set e).status ≠ .inFlight)
    (h : Claimed (w.updateOutboxEntry x u) id) : id ≠ x ∧ Claimed w id := by
  obtain ⟨e, he, hs⟩ := h
  rcases Table.of_get?_modify he with ⟨-, e₀, -, rfl⟩ | ⟨hne, he⟩
  · exact absurd hs (hu e₀)
  · exact ⟨hne, e, he, hs⟩

/-- The tallies are in another table. -/
theorem claimed_tallied {a : Option Till.Attribution} (h : Claimed (Till.commitTally a w) id) :
    Claimed w id := by
  cases a with
  | none => exact h
  | some a => exact claimed_same rfl h

end Writes

/-! ## Handlers -/

/-- The requests that drain the outbox. -/
def Drains (i : Request) : Prop := i = .drainOnce ∨ i = .runLoop

/-- The handlers that do not drain the outbox. -/
def spared : Scope where
  reads _ := True
  cart _ := True
  sale _ := True
  drains := False

/-- An access of a handler that does not drain the outbox claims no entry. -/
theorem claimed_of_access {settings : Settings} {w w' : World} (h : Access settings spared w w')
    {id : Id} (hid : Claimed w' id) : Claimed w id := by
  cases h with
  | read => exact hid
  | sent q => exact claimed_send hid
  | saleStored | refundStored | updated | refundRetried | tillOpened | tillUpdated =>
      exact claimed_same rfl hid
  | notSent => exact claimed_same rfl (claimed_enqueued hid)
  | saleCompleted | refundCompleted =>
      have htally : Claimed (Till.commitTally _ _) id := claimed_enqueued hid
      exact claimed_same (by rfl) (claimed_tallied htally)
  | requeued => exact (claimed_updated (fun _ h ↦ OutboxStatus.noConfusion h) hid).2
  | claimed h => exact h.elim
  | resolved h => exact h.elim

/-- **Only the drains claim entries.** -/
theorem spares_handle (D : Deployment) {i : Request} (hi : ¬ Drains i) : Spares (D.handle i) :=
  (treads_handle D (S := spared) (fun _ _ _ _ ↦ trivial) (fun _ _ _ ↦ trivial) hi
    (fun _ _ _ ↦ trivial) fun _ ↦ trivial).weaken (fun _ _ ↦ trivial)
      fun _ _ h _ ↦ claimed_of_access h

end HightowerPos.Outbox
