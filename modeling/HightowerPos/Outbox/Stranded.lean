import HightowerPos.Outbox.Spared

/-!
# Entries that no drain pass will deliver

A drain pass claims a batch in one commit and resolves its entries one by one, each around
an exchange with Fabric.  `IN_FLIGHT` is a debt of the pass: neither `_claim_due` nor the
admin retry picks such an entry up again.  The debts are paid when every exchange ends in a
way that the pass handles (`FabricExchange.Handled`) and no pass is dropped while an entry
is `IN_FLIGHT`; threads may be interrupted at every access, and any other thread may be
dropped anywhere.
-/

namespace HightowerPos

/-- A value that SQLite takes for a text column. -/
def Json.Bindable : Json → Prop
  | .null | .bool _ | .float _ => True
  | .int n => -2 ^ 63 ≤ n ∧ n < 2 ^ 63
  | .str s => s.encode.isSome
  | .array _ | .object _ => False

/-- An exchange after which the pass goes on: `httpx.HTTPError`, a status outside 2xx, or
a JSON body, whose `fabric_so_id`, in an object, can be stored. -/
def FabricExchange.Handled : FabricExchange → Prop
  | .httpError _ => True
  | .otherError _ => False
  | .response status _ body => 200 ≤ status ∧ status < 300 →
      ∃ v, body = some v ∧ (v.isObject = true → (v.get "fabric_so_id").Bindable)

namespace Outbox

open Async FabricOutbox

/-- A value that can be stored is. -/
theorem bindText_of_bindable (rt : Runtime) {v : Json} (h : v.Bindable) :
    ∃ soId, Fabric.bindText rt v = .ok soId := by
  cases v with
  | null => exact ⟨_, rfl⟩
  | bool b => exact ⟨_, rfl⟩
  | float r => exact ⟨_, rfl⟩
  | int n =>
      have hn : -2 ^ 63 ≤ n ∧ n < 2 ^ 63 := h
      exact ⟨_, if_pos hn⟩
  | str s =>
      obtain ⟨t, ht⟩ := Option.isSome_iff_exists.mp h
      exact ⟨some t, by simp only [Fabric.bindText, ht]⟩
  | array l => exact h.elim
  | object l => exact h.elim

/-- What the client makes of an exchange that is handled. -/
theorem writeSalesOrder_of_handled {x : FabricExchange} (h : x.Handled) :
    (∃ m, Fabric.writeSalesOrder x = .error (.fabricClient m)) ∨
      ∃ body, Fabric.writeSalesOrder x = .ok body ∧ (body.get "fabric_so_id").Bindable := by
  cases x with
  | httpError text => exact .inl ⟨_, rfl⟩
  | otherError repr => exact h.elim
  | response status statusError body =>
      by_cases hs : 200 ≤ status ∧ status < 300
      · obtain ⟨v, rfl, hv⟩ := h hs
        by_cases ho : v.isObject = true
        · exact .inr ⟨v, by simp only [Fabric.writeSalesOrder, hs, and_self, if_true, ho], hv ho⟩
        · simp only [Fabric.writeSalesOrder, hs, and_self, if_true, ho, Bool.false_eq_true,
            if_false]
          exact .inl ⟨_, rfl⟩
      · simp only [Fabric.writeSalesOrder, hs, if_false]
        exact .inl ⟨_, rfl⟩

/-! ## A drain repays what it claims -/

/-- The entries a drain pass has claimed, and the answers under which it resolves them. -/
def debts : Debts World Call Answer Request Id where
  taken := Claimed
  takes := Drains
  rests
    | .drainSleep _ => True
    | _ => False
  answers
    | .fabricWriteSalesOrder _ _, x => x.Handled
    | _, _ => True

/-- What a drain is asked for where it ends: it owes nothing. -/
abbrev paid {α : Type} : Except PyExc α → List Id → Prop := fun _ d ↦ d = []

section Repays

variable {rt : Runtime} {id : Id} {ids : List Id}

/-- Claiming a batch. -/
theorem claimed_claimAll {w : World} {x : Id} (h : Claimed (claimAll ids w) x) :
    x ∈ ids ∨ Claimed w x := by
  induction ids generalizing w with
  | nil => exact .inr h
  | cons id ids ih =>
      rcases ih h with hx | hx
      · exact .inl (List.mem_cons_of_mem _ hx)
      · obtain ⟨e, he, hs⟩ := hx
        rcases Table.of_get?_modify he with ⟨rfl, -⟩ | ⟨-, he⟩
        · exact .inl (.head _)
        · exact .inr ⟨e, he, hs⟩

/-- A commit that takes the first entry of a batch out of flight. -/
theorem repays_commit {α : Type} {u : World → OutboxUpdate}
    (hu : ∀ w e, ((u w).set e).status ≠ .inFlight) {k : World → App α}
    {post : Except PyExc α → List Id → Prop} (hk : ∀ w, (k w).Repays debts post ids)
    {d : List Id} (hd : ∀ x ∈ d, x ∈ id :: ids) :
    (Prog.atomic (fun w ↦ .ok (w.updateOutboxEntry id (u w))) k).Repays debts post d := by
  refine fun w ↦ ⟨ids, fun x hx ↦ ?_, hk w⟩
  obtain ⟨hne, hx⟩ := claimed_updated (hu w) hx
  by_cases hmem : x ∈ ids
  · exact .inl hmem
  · refine .inr ⟨hx, fun h ↦ ?_⟩
    rcases List.mem_cons.mp (hd x h) with rfl | h
    · exact hne rfl
    · exact hmem h

/-- A read of the first entry of a batch: when it is not in flight it is owed no more. -/
theorem repays_getEntry {α : Type} {f : Option FabricOutboxEntry → App α}
    {post : Except PyExc α → List Id → Prop} (hnone : (f none).Repays debts post ids)
    (hflight : ∀ e, e.status = .inFlight → (f (some e)).Repays debts post (id :: ids))
    (hother : ∀ e, e.status ≠ .inFlight → (f (some e)).Repays debts post ids) :
    (getEntry id >>= f).Repays debts post (id :: ids) := by
  refine repays_read fun w ↦ ?_
  have hclear (h : ¬ Claimed w id) : ∀ x ∈ id :: ids, Claimed w x → x ∈ ids := by
    intro x hx hc
    rcases List.mem_cons.mp hx with rfl | hx
    · exact absurd hc h
    · exact hx
  change ∃ d', _ ∧ (f (w.db.outboxEntry id)).Repays debts post d'
  cases he : w.db.outboxEntry id with
  | none =>
      refine ⟨ids, hclear fun ⟨e, he', _⟩ ↦ ?_, hnone⟩
      rw [he] at he'
      cases he'
  | some e =>
      by_cases hs : e.status = .inFlight
      · exact ⟨id :: ids, fun _ hx _ ↦ hx, hflight e hs⟩
      · refine ⟨ids, hclear fun ⟨e', he', hs'⟩ ↦ ?_, hother e hs⟩
        rw [he] at he'
        obtain rfl := Option.some.inj he'
        exact hs hs'

/-- `_mark_failed` puts the entry back in the queue, or gives it up. -/
theorem repays_markFailed {α : Type} {error : String} {f : Option OutboxStatus → App α}
    {post : Except PyExc α → List Id → Prop} (hf : ∀ s, (f s).Repays debts post ids) :
    (markFailed id error >>= f).Repays debts post (id :: ids) := by
  unfold markFailed
  rw [Prog.bind_assoc]
  have hfailed (e : FabricOutboxEntry) (w : World) (e' : FabricOutboxEntry) :
      ((failed e error w.now).set e').status ≠ .inFlight := by
    simp only [failed]
    split <;> exact nofun
  refine repays_getEntry (hf none) (fun e _ ↦ ?_) fun e _ ↦ ?_
  · exact repays_commit (hfailed e) (fun _ ↦ hf _) fun _ hx ↦ hx
  · exact repays_commit (hfailed e) (fun _ ↦ hf _) fun _ hx ↦ List.mem_cons_of_mem _ hx

/-- `_mark_delivered` delivers it. -/
theorem repays_markDelivered {α : Type} {v : Json} (hv : v.Bindable) {f : Unit → App α}
    {post : Except PyExc α → List Id → Prop} (hf : ∀ u, (f u).Repays debts post ids) :
    (markDelivered rt id v >>= f).Repays debts post (id :: ids) := by
  obtain ⟨soId, hsoId⟩ := bindText_of_bindable rt hv
  unfold markDelivered
  rw [Prog.bind_assoc, hsoId]
  have hdelivered (w : World) (e : FabricOutboxEntry) :
      ((delivered soId).set e).status ≠ .inFlight := fun h ↦ OutboxStatus.noConfusion h
  refine repays_getEntry (hf ()) (fun e _ ↦ ?_) fun e _ ↦ ?_
  · exact repays_commit hdelivered (fun _ ↦ hf ()) fun _ hx ↦ hx
  · exact repays_commit hdelivered (fun _ ↦ hf ()) fun _ hx ↦ List.mem_cons_of_mem _ hx

/-- **The loop over a batch resolves each of its entries.** -/
theorem repays_drainEntries (ids : List Id) (res : DrainResult) :
    (drainEntries rt ids res).Repays debts paid ids := by
  induction ids generalizing res with
  | nil => exact rfl
  | cons id ids ih =>
      unfold drainEntries
      refine repays_getEntry (ih res) (fun e hs ↦ ?_) fun e hs ↦ ?_
      · simp only [hs, if_true]
        refine repays_call (fun h ↦ h.elim) fun x hx ↦ ?_
        rcases writeSalesOrder_of_handled hx with ⟨m, hm⟩ | ⟨body, hbody, hv⟩
        · simp only [hm]
          refine repays_markFailed fun s ↦ ?_
          split
          · exact ih _
          · exact ih _
        · simp only [hbody]
          exact repays_markDelivered hv fun _ ↦ ih _
      · simp only [hs, if_false]
        exact ih res

/-- A pass claims a batch and resolves it. -/
theorem repays_drainOnce (batchSize : Nat) : (drainOnce rt batchSize).Repays debts paid [] := by
  intro w
  refine ⟨[], fun x hx ↦ .inr ⟨hx, List.not_mem_nil⟩, fun w' ↦ ?_⟩
  refine ⟨(due w.db w.now batchSize).map (·.id), fun x hx ↦ ?_, ?_⟩
  · exact (claimed_claimAll hx).imp_right fun hx ↦ ⟨hx, List.not_mem_nil⟩
  · change (drainEntries rt _ _).Repays debts paid _
    exact repays_drainEntries _ _

/-- The loop owes nothing between two passes. -/
theorem repays_runLoop (settings : Settings) (passes : Nat) :
    (runLoop rt settings passes).Repays debts paid [] := by
  induction passes with
  | zero => exact rfl
  | succ passes ih =>
      unfold runLoop
      refine repays_bind (repays_catching (repays_bind ?_))
      refine (repays_drainOnce _).mono fun r d hd ↦ ?_
      subst hd
      cases r with
      | ok res => exact ⟨fun _ ↦ rfl, fun _ _ ↦ ih⟩
      | error e => exact ⟨fun _ ↦ rfl, fun _ _ ↦ ih⟩

end Repays

/-- A thread owes nothing before its first access. -/
theorem owes_handle (D : Deployment) (i : Request) :
    debts.Owes (D.system .any) (i, D.handle i) [] := by
  by_cases hi : Drains i
  · refine .taker hi ?_
    rcases hi with rfl | rfl
    · refine repays_bind ((repays_drainOnce _).mono fun r d hd ↦ ?_)
      cases r with
      | ok res => exact hd
      | error e => exact hd
    · exact repays_runLoop _ _
  · exact .other (spares_handle D hi)

/-- **No entry is stranded**: where no drain pass is under way every entry is `PENDING`,
`DELIVERED` or `DLQ`, whatever threads have run, been dropped or died with the process. -/
theorem no_entry_stranded (D : Deployment) {w : World} (hw : ∀ id, ¬ Claimed w id)
    {c : Crew World Call Answer PyExc Request}
    (h : Crew.Run (D.system .any) debts.terms ⟨w, []⟩ c)
    (hidle : ∀ t ∈ c.threads, ¬ debts.Busy t) (id : Id) {e : FabricOutboxEntry}
    (he : c.state.db.outboxEntry id = some e) :
    e.status = .pending ∨ e.status = .delivered ∨ e.status = .dlq := by
  have hstart : debts.Covers (D.system .any) ⟨w, []⟩ := ⟨[], .nil, fun x hx ↦ absurd hx (hw x)⟩
  have hcovers := hstart.run (owes_handle D) (fun _ _ _ h ↦ claimed_send h)
    (fun _ _ _ hd h ↦ claimed_drift hd h) h
  have hs : e.status ≠ .inFlight := fun hs ↦ hcovers.untaken hidle id ⟨e, he, hs⟩
  cases hst : e.status with
  | pending => exact .inl rfl
  | inFlight => exact absurd hst hs
  | delivered => exact .inr (.inl rfl)
  | dlq => exact .inr (.inr rfl)

/-! ## Two entries that are claimed together -/

/-- The entry of a sale of 10.81. -/
def queuedEntry : Draft FabricOutboxEntry FabricOutboxEntry.id :=
  newEntry Deployment.sample.settings (.sample .complete) 0 0

/-- A world with two entries that are due. -/
def queued : World :=
  ((World.sample (.sample .complete)).addOutboxEntry queuedEntry).addOutboxEntry queuedEntry

/-- Fabric cannot be reached: the pass puts both entries back in the queue. -/
theorem no_entry_stranded_unreachable :
    ∃ c e, Crew.Run (Deployment.sample.system .any) debts.terms ⟨queued, []⟩ c ∧
      c.state.db.outboxEntry 0 = some e ∧ e.attemptCount = 1 ∧
      (e.status = .pending ∨ e.status = .delivered ∨ e.status = .dlq) := by
  have hrun : Crew.Run (Deployment.sample.system .any) debts.terms ⟨queued, []⟩ _ :=
    .tail (.tail (.tail (.tail (.tail (.tail (.tail (.tail (.tail (.tail (.tail .refl
      (.start .drainOnce))
      (.access (l := []) (r := []) rfl)) (.access (l := []) (r := []) rfl))
      (.access (l := []) (r := []) rfl))
      (.answer (l := []) (r := []) (.httpError "unreachable") trivial (by trivial)))
      (.access (l := []) (r := []) rfl)) (.access (l := []) (r := []) rfl))
      (.access (l := []) (r := []) rfl))
      (.answer (l := []) (r := []) (.httpError "unreachable") trivial (by trivial)))
      (.access (l := []) (r := []) rfl)) (.access (l := []) (r := []) rfl)
  refine ⟨_, _, hrun, rfl, rfl, ?_⟩
  refine no_entry_stranded .sample (w := queued) (fun id ⟨e, he, hs⟩ ↦ ?_) hrun
    (fun t ht ↦ ?_) 0 rfl
  · have hmem := Table.mem_of_get? he
    rcases List.mem_cons.mp hmem with rfl | hmem
    · cases hs
    · rw [List.mem_singleton.mp hmem] at hs
      cases hs
  · obtain rfl := List.mem_singleton.mp ht
    exact fun hbusy ↦ hbusy.2 trivial

/-- Fabric answers 200 with a body that is not JSON: the pass ends, and both entries stay
`IN_FLIGHT`.  The same happens when the task is cancelled during the exchange. -/
theorem entries_stranded :
    (∃ c, Crew.Run (Deployment.sample.system .any) .free ⟨queued, []⟩ c ∧
      (∀ t ∈ c.threads, ¬ debts.Busy t) ∧ Claimed c.state 0 ∧ Claimed c.state 1) ∧
    ∃ c, Crew.Run (Deployment.sample.system .any) .free ⟨queued, []⟩ c ∧
      c.threads = [] ∧ Claimed c.state 0 ∧ Claimed c.state 1 := by
  have hclaim : Crew.Run (Deployment.sample.system .any) .free ⟨queued, []⟩ _ :=
    .tail (.tail (.tail (.tail .refl (.start .drainOnce))
      (.access (l := []) (r := []) rfl)) (.access (l := []) (r := []) rfl))
      (.access (l := []) (r := []) rfl)
  refine ⟨⟨_, hclaim.tail (.answer (l := []) (r := []) (.response 200 "" none) trivial trivial),
    fun t ht ↦ ?_, ⟨_, rfl, rfl⟩, ⟨_, rfl, rfl⟩⟩,
    ⟨_, hclaim.tail (.drop (l := []) (r := []) trivial), rfl, ⟨_, rfl, rfl⟩, ⟨_, rfl, rfl⟩⟩⟩
  obtain rfl := List.mem_singleton.mp ht
  exact fun hbusy ↦ hbusy.2 trivial

end Outbox

end HightowerPos
