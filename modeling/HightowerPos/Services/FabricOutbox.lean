import HightowerPos.World
import Mathlib.Data.List.Sort

/-!
# The Fabric outbox

`services/fabric_outbox.py` and the admin route that retries an entry.  `enqueue` makes
the entry that its caller commits together with the status of the transaction; a drain
pass claims a batch of due entries and delivers them one by one.
-/

namespace HightowerPos.FabricOutbox

open Async

/-- `RETRY_SCHEDULE_SECONDS`. -/
def retryScheduleSeconds : List Int := [0, 4, 15, 60, 300, 1800, 7200, 43200]

/-- `MAX_ATTEMPTS`. -/
def maxAttempts : Nat := retryScheduleSeconds.length

/-- `build_payload`.  `completedAt` is `txn.updated_at`, which the session reads again
after the transaction was written. -/
def buildPayload (settings : Settings) (txn : POSTransaction) (completedAt : Time) :
    FabricPayload where
  externalSoRef := txn.id
  sentrySoId := txn.sentrySoId
  txnType := txn.txnType
  parentTransactionId := txn.parentTransactionId
  registerId := settings.windcaveDeviceId
  cashierId := txn.cashierId
  terminalId := txn.terminalId
  completedAt := completedAt
  currency := settings.windcaveCurrency
  subtotalCents := txn.subtotalCents
  taxCents := txn.taxCents
  totalCents := txn.totalCents
  paymentMethod := txn.paymentMethod
  customerId := txn.customerId
  customerName := txn.customerName
  customerEmail := txn.customerEmail
  customerPhone := txn.customerPhone
  lines := txn.cart

/-- The row that `enqueue` adds. -/
def newEntry (settings : Settings) (txn : POSTransaction) (completedAt now : Time) :
    Draft FabricOutboxEntry FabricOutboxEntry.id where
  build id :=
    { id := id
      posTransactionId := txn.id
      payload := buildPayload settings txn completedAt
      status := .pending
      nextAttemptAt := now
      createdAt := now.timestamp
      updatedAt := now.timestamp }

/-- The `completed_at` of a transaction's payload. -/
def completedAt (txn : POSTransaction) (w : World) : Time :=
  ((w.db.transaction txn.id).map (·.updatedAt)).getD txn.updatedAt

/-- `enqueue`. -/
def enqueue (settings : Settings) (txn : POSTransaction) :
    App (Draft FabricOutboxEntry FabricOutboxEntry.id) := do
  let w ← Prog.read
  return newEntry settings txn (completedAt txn w) w.now

@[simp] theorem wp_enqueue {γ : Type} {C : Calculus World Call Answer γ} {g : γ} {w : World}
    (settings : Settings) (txn : POSTransaction)
    (post : γ → Except PyExc (Draft FabricOutboxEntry FabricOutboxEntry.id) → World → Prop) :
    (enqueue settings txn).wp C post g w =
      post g (.ok (newEntry settings txn (completedAt txn w) w.now)) w := by
  simp [enqueue]

/-! ## Draining -/

/-- The entries a pass claims. -/
def due (db : Db) (now : Time) (batchSize : Nat) : List FabricOutboxEntry :=
  ((db.fabricOutbox.select fun e ↦ e.status = .pending ∧ e.nextAttemptAt ≤ now).insertionSort
    fun a b ↦ a.createdAt ≤ b.createdAt).take batchSize

/-- `entry.status = "IN_FLIGHT"`. -/
def claimed : OutboxUpdate where
  set e := { e with status := .inFlight }

/-- Claim entries. -/
def claimAll (ids : List Id) (w : World) : World :=
  ids.foldl (fun w id ↦ w.updateOutboxEntry id claimed) w

/-- Claiming changes the outbox only. -/
theorem claimAll_eq (ids : List Id) (w : World) :
    ∃ table, claimAll ids w = { w with db := { w.db with fabricOutbox := table } } := by
  unfold claimAll
  induction ids generalizing w with
  | nil => exact ⟨w.db.fabricOutbox, rfl⟩
  | cons id ids ih => exact ih (w.updateOutboxEntry id claimed)

/-- `_claim_due`. -/
def claimDue (batchSize : Nat) : App (List Id) := do
  let w ← Prog.read
  let ids := (due w.db w.now batchSize).map (·.id)
  App.commit (claimAll ids)
  return ids

/-- `db.get(FabricOutboxEntry, id)`. -/
def getEntry (id : Id) : App (Option FabricOutboxEntry) := do
  let w ← Prog.read
  return w.db.outboxEntry id

/-- The columns `_mark_delivered` assigns. -/
def delivered (fabricSoId : Option String) : OutboxUpdate where
  set e := { e with status := .delivered, fabricSoId := fabricSoId, lastError := none }

/-- `_mark_delivered`. -/
def markDelivered (rt : Runtime) (id : Id) (fabricSoId : Json) : App Unit := do
  match ← getEntry id with
  | none => return ()
  | some _ =>
      let soId ← App.ofExcept (Fabric.bindText rt fabricSoId)
      App.commit fun w ↦ w.updateOutboxEntry id (delivered soId)

/-- The columns `_mark_failed` assigns, from the row it read. -/
def failed (entry : FabricOutboxEntry) (error : String) (now : Time) : OutboxUpdate where
  set e :=
    let attemptCount := entry.attemptCount + 1
    let e := { e with attemptCount := attemptCount, lastError := some error }
    if maxAttempts ≤ attemptCount then { e with status := .dlq }
    else
      let waitS := (retryScheduleSeconds[attemptCount]?).getD 0
      { e with status := .pending, nextAttemptAt := now + waitS * 1000000 }
  keeps e := by
    simp only
    split <;> rfl

/-- `_mark_failed`: the new status, or `none` for `"MISSING"`. -/
def markFailed (id : Id) (error : String) : App (Option OutboxStatus) := do
  match ← getEntry id with
  | none => return none
  | some entry =>
      App.commit fun w ↦ w.updateOutboxEntry id (failed entry error w.now)
      return some (if maxAttempts ≤ entry.attemptCount + 1 then .dlq else .pending)

/-- `DrainResult`. -/
structure DrainResult where
  claimed : Nat := 0
  delivered : Nat := 0
  failed : Nat := 0
  dlq : Nat := 0
deriving Repr, DecidableEq

/-- The loop of `drain_once` over the claimed entries. -/
def drainEntries (rt : Runtime) : List Id → DrainResult → App DrainResult
  | [], res => return res
  | id :: ids, res => do
      match ← getEntry id with
      | none => drainEntries rt ids res
      | some entry =>
          if entry.status = .inFlight then
            match Fabric.writeSalesOrder
                (← App.call (.fabricWriteSalesOrder id entry.payload)) with
            | .error (.fabricClient error) =>
                let status ← markFailed id error
                if status = some .dlq then drainEntries rt ids { res with dlq := res.dlq + 1 }
                else drainEntries rt ids { res with failed := res.failed + 1 }
            | .error e => .raise e
            | .ok body =>
                markDelivered rt id (body.get "fabric_so_id")
                drainEntries rt ids { res with delivered := res.delivered + 1 }
          else drainEntries rt ids res

/-- `drain_once`. -/
def drainOnce (rt : Runtime) (batchSize : Nat) : App DrainResult := do
  let ids ← claimDue batchSize
  drainEntries rt ids { claimed := ids.length }

/-- `run_loop`, followed for a number of passes.  A pass that raises is logged. -/
def runLoop (rt : Runtime) (settings : Settings) : Nat → App Unit
  | 0 => return ()
  | passes + 1 => do
      ((drainOnce rt settings.fabricOutboxBatchSize) >>= fun _ ↦ .pure ()).catching
        fun _ ↦ .pure ()
      let _ ← App.call (.drainSleep settings.fabricOutboxDrainIntervalS)
      runLoop rt settings passes

/-! ## Admin retry -/

/-- The columns `retry_fabric_outbox_entry` assigns. -/
def requeued (now : Time) : OutboxUpdate where
  set e :=
    { e with status := .pending, attemptCount := 0, nextAttemptAt := now, lastError := none }

/-- `retry_fabric_outbox_entry`. -/
def retryFabricOutboxEntry (id : Id) : App Unit := do
  match ← getEntry id with
  | none => .raise (.http 404 "outbox_entry_not_found")
  | some entry =>
      if entry.status = .dlq ∨ entry.status = .delivered then
        App.commit fun w ↦ w.updateOutboxEntry id (requeued w.now)
      else .raise (.http 400 "invalid_state")

end HightowerPos.FabricOutbox
