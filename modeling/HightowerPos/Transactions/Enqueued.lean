import HightowerPos.Transactions.Links
import HightowerPos.Async.Mortal

/-!
# The outbox of paid transactions

A transaction is put in the outbox in the commit that completes it, or that says that Sentry
did not take it, and in no other one: `retry_one_sale` and `retry_one_refund` complete what
is there already.  At every commit of a serial run, also of one that dies, the outbox has one
entry for each transaction that was sent, and none for the others.
-/

namespace HightowerPos

open Async Relation

/-- The statuses of a transaction that was sent to Sentry. -/
def Status.sent : List Status :=
  [.complete, .inventoryUpdateFailed, .refundInventoryUpdateFailed]

/-- Apart from the first answer of Sentry, no status is reached or left. -/
theorem Status.sent_of_leads {s s' : Status} (h : s' ∈ s.leads)
    (hs : s ≠ .paymentSuccess ∧ s ≠ .refundPaymentSuccess) : s ∈ sent ↔ s' ∈ sent := by
  revert s'
  cases s <;> first | decide | exact absurd rfl hs.1 | exact absurd rfl hs.2

/-- A commit puts a row in the outbox when it is sent, and not again. -/
inductive Puts (t t' : POSTransaction) : Option POSTransaction → Prop
  | nothing (hs : t.status ∈ Status.sent ↔ t'.status ∈ Status.sent) : Puts t t' none
  | row {held : POSTransaction} (hid : held.id = t.id) (hs : t.status ∉ Status.sent)
      (hs' : t'.status ∈ Status.sent) : Puts t t' (some held)

section Rows

variable {said : Replies} {t : POSTransaction} {u : TransactionUpdate}
  {held : Option POSTransaction}

/-- A transaction on its own is not sent. -/
theorem Moves.not_first (h : Moves said t u) :
    t.status ≠ .paymentSuccess ∧ t.status ≠ .refundPaymentSuccess := by
  cases h with
  | cardFailed hs | cardTaken hs | cancelled hs | refundFailed hs | refundCancelled hs
  | retryFailed hs => rcases hs with hs | hs <;> rw [hs] <;> decide
  | cardRefunded hs => rcases hs with ⟨hs, -⟩ | hs <;> rw [hs] <;> decide
  | validated hs | validationFailed hs | cardUnavailable hs | cardInFlight hs | timedOut hs
  | refundUnavailable hs | refundInFlight hs | cashRefunded hs | refundTimedOut hs
  | retried hs => rw [hs]; decide

theorem Advances.puts (h : Advances said t u held) : Puts t (u.set t) held := by
  cases h with
  | moved hu => exact .nothing (Status.sent_of_leads hu.advanced.status hu.not_first)
  | cashTaken hs => exact .nothing (Status.sent_of_leads (Advanced.status
      (.to .paymentSuccess hs rfl rfl rfl)) (by rw [hs]; decide))
  | saleNotSent hs =>
      refine .row rfl (by rw [hs]; decide) ?_
      change Status.inventoryUpdateFailed ∈ _
      decide
  | @saleDone soId a hs =>
      refine .row rfl (by rw [hs]; decide) ?_
      rw [Checkout.completion_status]
      decide
  | refundNotSent hs =>
      refine .row rfl (by rw [hs]; decide) ?_
      change Status.refundInventoryUpdateFailed ∈ _
      decide

theorem Completes.puts (h : Completes said t u held) : Puts t (u.set t) held := by
  cases h with
  | done hs =>
      refine .row rfl (by rw [hs]; decide) ?_
      rw [completion_status_refund]
      decide
  | retried hs =>
      refine .nothing ?_
      rw [hs]
      change _ ↔ Status.complete ∈ _
      decide

/-- `updated_at` is no status. -/
theorem Puts.touch (h : Puts t (u.set t) held) (now : Time) :
    Puts t ((u.touch now).set t) held := by
  cases h with
  | nothing hs => exact .nothing hs
  | row hid hs hs' => exact .row hid hs hs'

end Rows

/-! ## One entry -/

/-- The number of entries of a transaction. -/
def Db.entries (db : Db) (x : Id) : Nat := db.orders.countP fun o ↦ o.1 = x

/-- They are rows of the outbox. -/
theorem length_select_entries (db : Db) (x : Id) :
    (db.fabricOutbox.select fun e ↦ e.posTransactionId = x).length = db.entries x := by
  unfold Db.entries Db.orders Table.select
  rw [List.countP_map, List.countP_eq_length_filter]
  rfl

/-- The transaction was sent. -/
def Db.Sent (db : Db) (x : Id) : Prop := ∃ t, db.transaction x = some t ∧ t.status ∈ Status.sent

/-- There is one entry for each transaction that was sent, and none for the others. -/
def Entered (db : Db) : Prop :=
  ∀ x, (db.Sent x → db.entries x = 1) ∧ (¬ db.Sent x → db.entries x = 0)

variable {settings : Settings} {said : Replies} {w w' : World}

/-- What is put in the outbox adds to the entries. -/
theorem Enqueued.entries {db db' : Db} {held : Option POSTransaction}
    (h : Enqueued settings held db db') (x : Id) :
    db'.entries x = db.entries x + held.toList.countP fun t ↦ t.id = x := by
  obtain ⟨completedAt, horders⟩ := h
  unfold Db.entries
  rw [horders, List.countP_append, List.countP_map]
  rfl

/-- The same transactions were sent, and the same entries are there. -/
theorem Entered.same {db db' : Db} (h : Entered db) (hsent : ∀ x, db'.Sent x ↔ db.Sent x)
    (hentries : ∀ x, db'.entries x = db.entries x) : Entered db' := fun x ↦ by
  rw [hsent, hentries]
  exact h x

/-- A row that is put in the outbox, or not. -/
theorem Entered.puts {db db' : Db} (h : Entered db) {t t' : POSTransaction}
    {held : Option POSTransaction} (hrow : db.transaction t.id = some t)
    (hrow' : db'.transaction t.id = some t') (hputs : Puts t t' held)
    (hothers : ∀ x, x ≠ t.id → (db'.Sent x ↔ db.Sent x))
    (hentries : Enqueued settings held db db') : Entered db' := by
  have hsent : db.Sent t.id ↔ t.status ∈ Status.sent :=
    ⟨fun ⟨_, ht, hs⟩ ↦ Option.some.inj (ht.symm.trans hrow) ▸ hs, fun hs ↦ ⟨t, hrow, hs⟩⟩
  have hsent' : db'.Sent t.id ↔ t'.status ∈ Status.sent :=
    ⟨fun ⟨_, ht, hs⟩ ↦ Option.some.inj (ht.symm.trans hrow') ▸ hs, fun hs ↦ ⟨t', hrow', hs⟩⟩
  cases hputs with
  | nothing hs =>
      refine h.same (fun x ↦ ?_) fun x ↦ hentries.entries x
      by_cases hx : x = t.id
      · rw [hx, hsent, hsent', hs]
      · exact hothers x hx
  | @row held hid hs hs' =>
      intro x
      have hcount := hentries.entries x
      rw [Option.toList_some, List.countP_cons, List.countP_nil, hid] at hcount
      by_cases hx : x = t.id
      · subst hx
        have hzero := (h t.id).2 (hsent.not.mpr hs)
        rw [hcount, hzero]
        exact ⟨fun _ ↦ by simp, fun hn ↦ absurd (hsent'.mpr hs') hn⟩
      · rw [hcount, hothers x hx]
        simpa [Ne.symm hx] using h x

/-- **A turn keeps one entry for each transaction that was sent.** -/
theorem Turn.entered (h : Turn settings said w w') (hl : Links w.db) (he : Entered w.db) :
    Entered w'.db := by
  have hsame {db db' : Db} (horders : db'.orders = db.orders) (x : Id) :
      db'.entries x = db.entries x := by
    unfold Db.entries
    rw [horders]
  -- a new row is not sent
  have hadd {d : Draft POSTransaction POSTransaction.id}
      (hrows : w'.db.posTransactions = w.db.posTransactions.add d)
      (hs : ∀ i, (d.build i).status ∉ Status.sent) (x : Id) : w'.db.Sent x ↔ w.db.Sent x := by
    unfold Db.Sent Db.transaction
    rw [hrows]
    refine ⟨fun ⟨t, ht, hst⟩ ↦ ?_, fun ⟨t, ht, hst⟩ ↦ ⟨t, Table.get?_add_of_some ht, hst⟩⟩
    rcases Table.of_get?_add ht with ⟨-, rfl⟩ | ⟨-, ht⟩
    · exact absurd hst (hs _)
    · exact ⟨t, ht, hst⟩
  cases h with
  | idle hrows horders =>
      refine he.same (fun x ↦ ?_) (hsame horders)
      unfold Db.Sent Db.transaction
      rw [hrows]
  | sale hrows horders =>
      refine he.same (hadd hrows fun _ ↦ ?_) (hsame horders)
      change Status.pendingValidation ∉ _
      decide
  | refund _ _ _ _ hrows horders =>
      refine he.same (hadd hrows fun _ ↦ ?_) (hsame horders)
      change Status.refundPending ∉ _
      decide
  | @row t u held hrow hu hrows horders =>
      have hrow' : w'.db.transaction t.id = some ((u.touch w.now).set t) := by
        unfold Db.transaction at hrow ⊢
        rw [hrows, Table.get?_modify_self, hrow, Option.map_some]
      refine he.puts hrow hrow' (hu.puts.touch _) (fun x hx ↦ ?_) horders
      unfold Db.Sent Db.transaction
      rw [hrows, Table.get?_modify_ne hx]
  | @refunded t original u held hrow hu horig hrows horders =>
      have hsettles := hl.settles hrow hu.kind horig hrows
      refine he.puts hrow hsettles.row' (hu.puts.touch _) (fun x hx ↦ ?_) horders
      unfold Db.Sent
      by_cases hx' : x = original.id
      · subst hx'
        rw [hsettles.link, hsettles.link']
        simp only [Option.some.injEq, exists_eq_left']
        rfl
      · rw [hsettles.others hx hx']

/-! ## Serial runs in which handlers die -/

namespace Deployment

/-- Serial runs in which a handler may die where it waits, or after any of its commits. -/
abbrev MortalRun (D : Deployment) :
    Config World Call Answer PyExc → Config World Call Answer PyExc → Prop :=
  Mortal.Run { sys := D.system .any, quiet := Quiet, accepts := fun _ _ ↦ True,
               ok := fun _ _ _ ↦ True }

/-- They move by the commits of handlers and by themselves. -/
theorem moves_of_mortal {D : Deployment} {w : World} {c c' : Config World Call Answer PyExc}
    (h : D.MortalRun (.idle w) c) (h' : D.MortalRun c c') :
    D.Reaches .any w c.state ∧ D.Reaches .any c.state c'.state := by
  have hany {c c' : Config World Call Answer PyExc} (h : D.MortalRun c c') :
      Mortal.Run (D.serially (fun _ _ ↦ True) .any) c c' := by
    refine ReflTransGen.mono (fun _ _ hs ↦ ?_) _ _ h
    have hg {s : World} {qs : List Call} {q : Call} {a : Answer q} (hq : ∀ q ∈ qs, Quiet q) :
        (D.serially (fun _ _ ↦ True) .any).guard.resume s qs q a :=
      ⟨hq, Replies.any_covers D.runtime s q a⟩
    cases hs with
    | live hs =>
        refine .live ?_
        cases hs with
        | start i hi => exact .start i hi
        | resume p a ha hr => exact .resume p a ha (hg hr.1)
        | kill _ hk => exact hk.elim
        | resend p hq => exact .resend p hq trivial
        | drift hd => exact .drift hd
    | dropped => exact .dropped
    | cutStart i hi hp => exact .cutStart i hi hp
    | cutResume p a ha hr hp => exact .cutResume p a ha (hg hr.1) hp
  have hsound := D.sound (fun _ _ ↦ True) .any
  have hrest : ∀ s, (Contract.plain (Commits D.settings .any)).inv s →
      (Contract.plain (Commits D.settings .any)).rest s := fun _ _ ↦ trivial
  obtain ⟨hser, hmoves⟩ := Mortal.run hsound hrest (Serial.idle trivial trivial) (hany h)
  exact ⟨hmoves, (Mortal.run hsound hrest hser (hany h')).2⟩

end Deployment

/-- **The outbox has one row for each transaction that was sent, and none for the others**, at
every commit of a serial run, also of one in which handlers die. -/
theorem one_outbox_row (D : Deployment) {w : World} (ht : w.db.posTransactions = .empty)
    (ho : w.db.fabricOutbox = .empty) {c : Config World Call Answer PyExc}
    (h : D.MortalRun (.idle w) c) {x : Id} {t : POSTransaction}
    (hrow : c.state.db.transaction x = some t) :
    (c.state.db.fabricOutbox.select fun e ↦ e.posTransactionId = x).length =
        (if t.status ∈ [.complete, .inventoryUpdateFailed, .refundInventoryUpdateFailed]
          then 1 else 0) ∧
      (t.status ∈ [.complete, .inventoryUpdateFailed, .refundInventoryUpdateFailed] →
        ∀ c', D.MortalRun c c' →
          (c'.state.db.fabricOutbox.select fun e ↦ e.posTransactionId = x).length = 1) := by
  have hempty : Entered w.db := fun x ↦ by
    constructor
    · rintro ⟨t, ht', -⟩
      simp [Db.transaction, ht, Table.get?, Table.empty] at ht'
    · intro _
      simp [Db.entries, Db.orders, ho, Table.empty]
  obtain ⟨hl, he⟩ := D.keeps (P := fun w ↦ Entered w.db) (fun hl he ht ↦ ht.entered hl he)
    (Deployment.moves_of_mortal h .refl).1 (.empty ht) hempty
  refine ⟨?_, fun hs c' h' ↦ ?_⟩
  · rw [length_select_entries]
    split
    · next hs => exact (he x).1 ⟨t, hrow, hs⟩
    · next hs =>
        refine (he x).2 ?_
        rintro ⟨t', ht', hs'⟩
        apply hs
        obtain rfl := Option.some.inj (ht'.symm.trans hrow)
        exact hs'
  · rw [length_select_entries]
    -- what was sent stays sent
    have hsent := (D.keeps (P := fun w ↦ Entered w.db ∧ w.db.Sent x) (fun hl hP ht ↦ ?_)
      (Deployment.moves_of_mortal h h').2 hl ⟨he, t, hrow, hs⟩).2
    · exact (hsent.1 x).1 hsent.2
    · obtain ⟨he, t, hrow, hs⟩ := hP
      obtain ⟨t', hrow', hb⟩ := ht.becomes hl hrow
      refine ⟨ht.entered hl he, t', hrow', ?_⟩
      rcases (hb.follows (hl.kind hrow)).status with hst | hst
      · rwa [hst]
      · refine (Status.sent_of_leads hst ⟨fun hn ↦ ?_, fun hn ↦ ?_⟩).mp hs
        all_goals rw [hn] at hs; exact absurd hs (by decide)

/-- In a serial run no handler has to die. -/
theorem Deployment.SerialRun.mortal {D : Deployment} {c c' : Config World Call Answer PyExc}
    (h : D.SerialRun c c') : D.MortalRun c c' := ReflTransGen.mono (fun _ _ hs ↦ .live hs) _ _ h

theorem one_outbox_row_returned : (((Config.idle Drawer.newRegister).playAll
    (Deployment.sample.system .any) returned).state.db.fabricOutbox.select fun e ↦
      e.posTransactionId = 0).length = 1 := by
  have hrow : (((Config.idle Drawer.newRegister).playAll (Deployment.sample.system .any)
      returned).state.db.transaction 0).any (·.status = .complete) = true := by decide +kernel
  obtain ⟨t, ht, hs⟩ := (Option.any_eq_true _ _).mp hrow
  refine (one_outbox_row Deployment.sample (w := Drawer.newRegister) rfl rfl
    (Deployment.SerialRun.mortal (Deployment.sample.run_of_playsAll (by decide +kernel))) ht).2
      ?_ _ .refl
  rw [of_decide_eq_true hs]
  decide

end HightowerPos
