import HightowerPos.Async.Stretch
import HightowerPos.Service
import Mathlib.Algebra.Order.Field.Rat
import Mathlib.Data.Rat.Floor

/-!
# The pollers

A poller asks Windcave for the status of a payment until a reply is complete or its time is over
(`endsWith_pollLoop`).  What it does with the reply is what the charge would have done with it,
had it been complete at once: the two leave the same world and go on in the same way
(`FinishesAsCharged`).
-/

namespace HightowerPos

open Async

/-! ## The loop -/

/-- What a status call comes to. -/
inductive Polled
  | error (message : String)
  | reply (status : WindcaveStatusResponse)

namespace Polled

/-- What the client returns or raises. -/
def answer : Polled → Except PyExc WindcaveStatusResponse
  | .error message => .error (.windcaveClient message)
  | .reply status => .ok status

/-- The reply, if it is complete. -/
def complete? : Polled → Option WindcaveStatusResponse
  | .error _ => none
  | .reply status => if status.complete then some status else none

end Polled

/-- The calls of a poller are answered: the status call after `k` intervals comes to `o k`. -/
def polledBy (settings : Settings) (o : ℕ → Polled) : (q : Call) → Option (Answer q)
  | .windcaveStatus _ elapsedMs =>
      some (o (elapsedMs / settings.windcavePollIntervalMs).toNat).answer
  | .pollSleep _ _ => some ()
  | _ => none

/-- The status calls that fit into the time of the pollers: `⌈D / p⌉`. -/
def maxPolls (settings : Settings) : ℕ :=
  ⌈((settings.windcaveMaxPollDurationS * 1000 : ℤ) : ℚ) / settings.windcavePollIntervalMs⌉₊

/-- The call asks for the status of the payment. -/
def asksStatus (x : Id) : Call → Bool
  | .windcaveStatus y _ => x = y
  | _ => false

/-- A call of the poller of a payment. -/
def Polls (x : Id) (q : Call) : Prop :=
  ∃ elapsedMs, q = .windcaveStatus x elapsedMs ∨ q = .pollSleep x elapsedMs

/-- The first complete reply, from a call on. -/
def firstComplete (o : ℕ → Polled) (k n : ℕ) : Option WindcaveStatusResponse :=
  (List.range' k n).findSome? fun i ↦ (o i).complete?

section Loop

variable {settings : Settings} {o : ℕ → Polled} {x : Id}

theorem lt_maxPolls_iff (hp : 0 < settings.windcavePollIntervalMs) {k : ℕ} :
    k < maxPolls settings ↔
      k * settings.windcavePollIntervalMs < settings.windcaveMaxPollDurationS * 1000 := by
  have hp' : (0 : ℚ) < settings.windcavePollIntervalMs := by exact_mod_cast hp
  rw [maxPolls, Nat.lt_ceil, lt_div_iff₀ hp']
  exact_mod_cast Iff.rfl

/-- One iteration: the loop is over, or sleeps and goes on. -/
theorem feed_pollLoop_succ {fuel : ℕ} {elapsedMs : Int} {p : Polled}
    (hwithin : elapsedMs < settings.windcaveMaxPollDurationS * 1000)
    (hcall : polledBy settings o (.windcaveStatus x elapsedMs) = some p.answer) :
    (Checkout.pollLoop settings x (fuel + 1) elapsedMs).feed (polledBy settings o) =
      match p.complete? with
      | some st => ([.windcaveStatus x elapsedMs], .pure (some st))
      | none =>
          let rest := (Checkout.pollLoop settings x fuel
            (elapsedMs + settings.windcavePollIntervalMs)).feed (polledBy settings o)
          (.windcaveStatus x elapsedMs :: .pollSleep x elapsedMs :: rest.1, rest.2) := by
  rw [Checkout.pollLoop, if_pos hwithin]
  cases p with
  | error message => exact Prog.feed_await hcall
  | reply st =>
      refine (Prog.feed_await hcall).trans ?_
      rw [Polled.complete?]
      cases hst : st.complete with
      | true =>
          simp only [Polled.answer, Prog.bind, hst, if_true]
          rfl
      | false =>
          simp only [Polled.answer, Prog.bind, hst, if_false, Bool.false_eq_true]
          rfl

/-- **The loop ends**, from any call on. -/
theorem feed_pollLoop (hp : 0 < settings.windcavePollIntervalMs) (x : Id) {fuel k n : ℕ}
    (hn : k + n = maxPolls settings) (hfuel : n ≤ fuel) :
    ∃ asked, (Checkout.pollLoop settings x fuel (k * settings.windcavePollIntervalMs)).feed
        (polledBy settings o) = (asked, .pure (firstComplete o k n)) ∧
      asked.countP (asksStatus x) ≤ n ∧ ∀ q ∈ asked, Polls x q := by
  induction fuel generalizing k n with
  | zero =>
      obtain rfl : n = 0 := Nat.le_zero.mp hfuel
      have hover : ¬ k < maxPolls settings := by omega
      rw [lt_maxPolls_iff hp] at hover
      unfold Checkout.pollLoop
      rw [if_neg hover]
      exact ⟨[], rfl, Nat.zero_le _, fun _ h ↦ absurd h List.not_mem_nil⟩
  | succ fuel ih =>
      by_cases hk : k < maxPolls settings
      · obtain ⟨m, rfl⟩ : ∃ m, n = m + 1 := ⟨n - 1, by omega⟩
        have hwithin := (lt_maxPolls_iff hp).mp hk
        have hcall : polledBy settings o
            (.windcaveStatus x (k * settings.windcavePollIntervalMs)) = some (o k).answer := by
          rw [polledBy, Int.mul_ediv_cancel _ hp.ne', Int.toNat_natCast]
        -- after a sleep the loop goes on with the next call
        obtain ⟨asked, hfeed, hcount, hpolls⟩ := ih (k := k + 1) (n := m) (by omega) (by omega)
        rw [Nat.cast_succ, add_one_mul] at hfeed
        rw [feed_pollLoop_succ hwithin hcall, firstComplete, List.range'_succ,
          List.findSome?_cons]
        have hstatus : Polls x (.windcaveStatus x (k * settings.windcavePollIntervalMs)) :=
          ⟨_, .inl rfl⟩
        cases (o k).complete? with
        | some st =>
            refine ⟨_, rfl, ?_, ?_⟩
            · exact List.countP_le_length.trans (Nat.le_add_left 1 m)
            · exact fun q hq ↦ List.mem_singleton.mp hq ▸ hstatus
        | none =>
            rw [hfeed]
            refine ⟨_, rfl, ?_, ?_⟩
            · rw [List.countP_cons, List.countP_cons_of_neg Bool.false_ne_true]
              exact Nat.add_le_add hcount (by split <;> omega)
            · intro q hq
              rcases List.mem_cons.mp hq with rfl | hq
              · exact hstatus
              · rcases List.mem_cons.mp hq with rfl | hq
                · exact ⟨_, .inr rfl⟩
                · exact hpolls q hq
      · obtain rfl : n = 0 := by omega
        rw [lt_maxPolls_iff hp] at hk
        unfold Checkout.pollLoop
        rw [if_neg hk]
        exact ⟨[], rfl, Nat.zero_le _, fun _ h ↦ absurd h List.not_mem_nil⟩

end Loop

/-! ## The same row, before the charge -/

/-- A row without its payment method. -/
def POSTransaction.withoutMethod (t : POSTransaction) : POSTransaction :=
  { t with paymentMethod := none }

/-- The worlds are the same but for the payment methods of transactions. -/
structure World.Agree (w w' : World) : Prop where
  db : { w'.db with posTransactions := w.db.posTransactions } = w.db
  now : w'.now = w.now
  acquirer : w'.acquirer = w.acquirer
  rows : ∀ y, (w'.db.transaction y).map POSTransaction.withoutMethod =
    (w.db.transaction y).map POSTransaction.withoutMethod

theorem World.Agree.refl (w : World) : w.Agree w := ⟨rfl, rfl, rfl, fun _ ↦ rfl⟩

/-- A world with columns of a row set by hand. -/
def World.replace (w : World) (x : Id) (u : TransactionUpdate) : World :=
  { w with db := { w.db with posTransactions := w.db.posTransactions.modify x u } }

section Replace

variable {w : World} {x : Id} {t : POSTransaction} {b u u' : TransactionUpdate}

/-- An update that leaves the same row, from another one. -/
theorem World.replace_updateTransaction (hrow : w.db.transaction x = some t)
    (h : (u'.touch w.now).set (b.set t) = (u.touch w.now).set t) :
    (w.replace x b).updateTransaction x u' = w.updateTransaction x u := by
  have htable : (w.db.posTransactions.modify x b).modify x (u'.touch w.now) =
      w.db.posTransactions.modify x (u.touch w.now) := by
    rw [Table.modify_modify]
    refine Table.modify_congr fun v hv ↦ ?_
    obtain rfl := Option.some.inj (hrow.symm.trans hv)
    exact h
  unfold World.updateTransaction World.replace
  dsimp only
  rw [htable]
  rfl

/-- An update that leaves the same row, but for the payment method. -/
theorem World.agree_replace (hrow : w.db.transaction x = some t)
    (h : ((u'.touch w.now).set (b.set t)).withoutMethod = ((u.touch w.now).set t).withoutMethod) :
    (w.updateTransaction x u).Agree ((w.replace x b).updateTransaction x u') := by
  refine ⟨rfl, rfl, rfl, fun y ↦ ?_⟩
  have hrow' : (w.replace x b).db.transaction x = some (b.set t) :=
    (Table.get?_modify_self (u := b)).trans (congrArg (Option.map b.set) hrow)
  by_cases hy : y = x
  · subst hy
    rw [((w.replace y b).updated_updateTransaction y u').row,
      (w.updated_updateTransaction y u).row, hrow', hrow]
    exact congrArg some h
  · rw [((w.replace x b).updated_updateTransaction x u').others y hy,
      (w.updated_updateTransaction x u).others y hy]
    exact congrArg _ (Table.get?_modify_ne hy)

end Replace

/-- Two programs stop alike, in worlds that agree; where they go on, the worlds are the same. -/
structure AgreeAt {α : Type} (r r' : World × Stop World Call Answer PyExc α) : Prop where
  stop : r'.2 = r.2
  world : r.1.Agree r'.1
  goesOn : ∀ q k, r.2 = .waits q k → r'.1 = r.1

/-! ## Sales -/

namespace Checkout

/-- What a row in flight may have been before the charge. -/
def beforeCharge (method : Option PaymentMethod) (responseXml : Option String)
    (updatedAt : Time) : TransactionUpdate where
  set t :=
    { t with
      status := .awaitingPayment
      paymentMethod := method
      windcaveResponseXml := responseXml
      updatedAt := updatedAt }

/-- What `charge_card` makes of the reply to its call. -/
def chargeReply (rt : Runtime) (settings : Settings) (txn : POSTransaction) :
    Except PyExc WindcaveStatusResponse → App Bool
  | .error (.windcaveClient message) => do
      let _ ← App.saveTransaction txn (paymentFailed s!"windcave_unavailable: {message}")
      .raise (.checkout .windcaveUnavailable)
  | .error e => .raise e
  | .ok initial => do
      if initial.complete then
        finalizeCardCharge rt settings txn (charged initial.rawXml) initial
        return false
      else
        let _ ← App.saveTransaction txn ((charged initial.rawXml).andThen inFlight)
        return true

section Sales

variable {rt : Runtime} {settings : Settings} {x : Id} {w : World}

theorem stretch_loadForPayment {t : POSTransaction} (hrow : w.db.transaction x = some t) :
    (∃ e, (loadForPayment x).stretch World.send w = (w, .over (.error e))) ∨
      (loadForPayment x).stretch World.send w = (w, .over (.ok t)) := by
  unfold loadForPayment
  rw [App.stretch_getTransaction, hrow]
  dsimp only
  by_cases htype : t.txnType = .sale
  · by_cases hstatus : t.status = .awaitingPayment
    · rw [if_neg (not_not.mpr htype), if_neg (not_not.mpr hstatus)]
      exact .inr rfl
    · rw [if_neg (not_not.mpr htype), if_pos hstatus]
      exact .inl ⟨_, rfl⟩
  · rw [if_pos htype]
    exact .inl ⟨_, rfl⟩

/-- `charge_card` refuses, or calls Windcave for the row that it has loaded. -/
theorem stretch_chargeCard (rt : Runtime) (settings : Settings) {t : POSTransaction}
    (hrow : w.db.transaction x = some t) :
    (∃ r, (chargeCard rt settings x).stretch World.send w = (w, .over r)) ∨
    (chargeCard rt settings x).stretch World.send w =
      (World.send (.windcaveCharge t.totalCents t.id) w,
        .waits (.windcaveCharge t.totalCents t.id) (chargeReply rt settings t)) := by
  unfold chargeCard
  rw [Prog.stretch_bind]
  rcases stretch_loadForPayment hrow with ⟨e, he⟩ | hload
  · rw [he]
    exact .inl ⟨_, rfl⟩
  · rw [hload]
    dsimp only
    unfold Windcave.formatAmount
    by_cases hamount : t.totalCents < 0
    · rw [if_pos hamount]
      exact .inl ⟨_, rfl⟩
    · rw [if_neg hamount]
      let q : Call := .windcaveCharge t.totalCents t.id
      refine .inr (congrArg (fun k ↦ (World.send q w, Stop.waits q k)) (funext fun initial ↦ ?_))
      cases initial with
      | error e => cases e <;> rfl
      | ok initial => rfl

/-- A complete reply: the sale goes the same way from its row in flight and from its row before
the charge. -/
theorem agree_finalizeCardCharge {t : POSTransaction} {st : WindcaveStatusResponse}
    (hrow : w.db.transaction x = some t) (method : Option PaymentMethod)
    (responseXml : Option String) (updatedAt : Time) :
    AgreeAt ((finalizeCardCharge rt settings t .id st).stretch World.send w)
      ((finalizeCardCharge rt settings ((beforeCharge method responseXml updatedAt).set t)
        (charged st.rawXml) st).stretch World.send
          (w.replace x (beforeCharge method responseXml updatedAt))) := by
  have hid : t.id = x := Table.key_of_get? hrow
  subst hid
  let b := beforeCharge method responseXml updatedAt
  have hfailed (error : String) : AgreeAt
      ((App.saveTransaction t ((Update.id.andThen (replied st.rawXml)).andThen
        (paymentFailed error)) >>= fun _ ↦ (.pure () : App Unit)).stretch World.send w)
      ((App.saveTransaction (b.set t) (((charged st.rawXml).andThen (replied st.rawXml)).andThen
        (paymentFailed error)) >>= fun _ ↦ (.pure () : App Unit)).stretch World.send
          (w.replace t.id b)) := 
    ⟨rfl, World.agree_replace hrow rfl, fun _ _ h ↦ nomatch h⟩
  unfold finalizeCardCharge
  by_cases hsignature : st.signatureRequired = true
  · simp only [hsignature, if_true]
    exact hfailed _
  · by_cases happroved : st.approved = true
    · simp only [hsignature, happroved, if_false, Bool.not_true, Bool.false_eq_true]
      cases hresult : st.result with
      | none =>
          rw [WindcaveStatusResponse.approved, hresult, Option.any_none, Bool.and_false]
            at happroved
          cases happroved
      | some result =>
          have hworld : (w.replace t.id b).updateTransaction t.id
              (((charged st.rawXml).andThen (replied st.rawXml)).andThen
                (cardTaken t.totalCents result)) = w.updateTransaction t.id
              ((Update.id.andThen (replied st.rawXml)).andThen (cardTaken t.totalCents result)) :=
            World.replace_updateTransaction hrow rfl
          change AgreeAt (Prog.stretch _ (sendToSentry rt settings _ .card) _)
            (Prog.stretch _ (sendToSentry rt settings _ .card) ((w.replace t.id b).updateTransaction
              t.id (((charged st.rawXml).andThen (replied st.rawXml)).andThen
                (cardTaken t.totalCents result))))
          rw [hworld]
          exact ⟨rfl, .refl _, fun _ _ _ ↦ rfl⟩
    · simp only [hsignature, happroved, if_false, if_true, Bool.not_false, Bool.false_eq_true]
      exact hfailed _

/-- A complete reply to the charge. -/
theorem forget_chargeReply (t : POSTransaction) {st : WindcaveStatusResponse}
    (h : st.complete = true) : (chargeReply rt settings t (.ok st)).forget =
      finalizeCardCharge rt settings t (charged st.rawXml) st := by
  rw [chargeReply, if_pos h]
  exact Prog.forget_answer _ false

/-- **The poller and the charge agree**: with a complete reply, the poller does what the charge
would have done with it, for the row as it was before. -/
theorem agree_finishPoll {t : POSTransaction} (hrow : w.db.transaction x = some t)
    (hflight : t.status = .paymentInFlight) {st : WindcaveStatusResponse}
    (hst : st.complete = true) {method : Option PaymentMethod} {responseXml : Option String}
    {updatedAt : Time} {w₁ w₁' : World}
    (hbefore : w₁.db.transaction x = some ((beforeCharge method responseXml updatedAt).set t))
    {k : Except PyExc WindcaveStatusResponse → App Bool}
    (hcharge : (chargeCard rt settings x).stretch World.send w₁ =
      (w₁', .waits (.windcaveCharge t.totalCents t.id) k)) :
    AgreeAt ((finishPoll rt settings x (some st)).stretch World.send w)
      ((k (.ok st)).forget.stretch World.send
        (w.replace x (beforeCharge method responseXml updatedAt))) := by
  have hk : k = chargeReply rt settings ((beforeCharge method responseXml updatedAt).set t) := by
    rcases stretch_chargeCard rt settings hbefore with ⟨r, hr⟩ | hwaits
    · rw [hr] at hcharge
      cases hcharge
    · rw [hwaits] at hcharge
      exact (eq_of_heq (Stop.waits.inj (Prod.mk.inj hcharge).2).2).symm
  rw [hk, forget_chargeReply _ hst, finishPoll, App.stretch_getTransaction, hrow]
  dsimp only
  rw [if_neg (not_not.mpr hflight)]
  exact agree_finalizeCardCharge hrow method responseXml updatedAt

/-- A row that is not in flight is left alone. -/
theorem stretch_finishPoll_over (final : Option WindcaveStatusResponse)
    (h : w.status x ≠ some .paymentInFlight) :
    (finishPoll rt settings x final).stretch World.send w = (w, .over (.ok ())) := by
  rw [finishPoll, App.stretch_getTransaction]
  cases hrow : w.db.transaction x with
  | none => rfl
  | some t =>
      have hne : t.status ≠ .paymentInFlight := fun hs ↦
        h ((World.status_of_row hrow).trans (congrArg some hs))
      dsimp only
      rw [if_pos hne]
      rfl

/-- Without a complete reply the payment fails, and nothing else changes. -/
theorem stretch_finishPoll_timeout (h : w.status x = some .paymentInFlight) :
    (finishPoll rt settings x none).stretch World.send w =
      (w.updateTransaction x (paymentFailed "polling_timeout"), .over (.ok ())) := by
  obtain ⟨t, hrow, hstatus⟩ := Option.map_eq_some_iff.mp h
  obtain rfl : t.id = x := Table.key_of_get? hrow
  rw [finishPoll, App.stretch_getTransaction, hrow]
  dsimp only
  rw [if_neg (not_not.mpr hstatus)]
  rfl

/-- What `poll_card_until_complete` does when its loop is over. -/
structure FinishesAsCharged (rt : Runtime) (settings : Settings) (x : Id) : Prop where
  «over» : ∀ (w : World) final, w.status x ≠ some .paymentInFlight →
    (finishPoll rt settings x final).stretch World.send w = (w, .over (.ok ()))
  timeout : ∀ w : World, w.status x = some .paymentInFlight →
    (finishPoll rt settings x none).stretch World.send w =
      (w.updateTransaction x (paymentFailed "polling_timeout"), .over (.ok ()))
  reply : ∀ (w : World) (t : POSTransaction) (st : WindcaveStatusResponse),
    w.db.transaction x = some t → t.status = .paymentInFlight → st.complete = true →
    ∀ (method : Option PaymentMethod) (responseXml : Option String) (updatedAt : Time)
      (w₁ w₁' : World) (k : Except PyExc WindcaveStatusResponse → App Bool),
      w₁.db.transaction x = some ((beforeCharge method responseXml updatedAt).set t) →
      (chargeCard rt settings x).stretch World.send w₁ =
        (w₁', .waits (.windcaveCharge t.totalCents t.id) k) →
      AgreeAt ((finishPoll rt settings x (some st)).stretch World.send w)
        ((k (.ok st)).forget.stretch World.send
          (w.replace x (beforeCharge method responseXml updatedAt)))

theorem finishesAsCharged (rt : Runtime) (settings : Settings) (x : Id) :
    FinishesAsCharged rt settings x where
  «over» _ final h := stretch_finishPoll_over final h
  timeout _ h := stretch_finishPoll_timeout h
  reply _ _ _ hrow hflight hst _ _ _ _ _ _ hbefore hcharge :=
    agree_finishPoll hrow hflight hst hbefore hcharge

end Sales

end Checkout

/-! ## Refunds -/

namespace Refund

open Checkout (replied)

/-- What a refund in flight may have been before the charge. -/
def beforeCharge (responseXml : Option String) (updatedAt : Time) : TransactionUpdate where
  set t :=
    { t with
      status := .refundPending
      windcaveResponseXml := responseXml
      updatedAt := updatedAt }

/-- What `charge_card_refund` makes of the reply to its call. -/
def chargeReply (rt : Runtime) (settings : Settings) (refund : POSTransaction) :
    Except PyExc WindcaveStatusResponse → App Bool
  | .error (.windcaveClient message) => do
      let _ ← App.saveTransaction refund (paymentFailed s!"windcave_unavailable: {message}")
      .raise (.checkout .windcaveUnavailable)
  | .error e => .raise e
  | .ok initial => do
      if initial.complete then
        finalizeRefundCharge rt settings refund initial
        return false
      else
        let _ ← App.saveTransaction refund ((replied initial.rawXml).andThen inFlight)
        return true

section Refunds

variable {rt : Runtime} {settings : Settings} {x : Id} {w : World}

theorem stretch_loadRefundForPayment {t : POSTransaction} (hrow : w.db.transaction x = some t) :
    (∃ e, (loadRefundForPayment x).stretch World.send w = (w, .over (.error e))) ∨
      (loadRefundForPayment x).stretch World.send w = (w, .over (.ok t)) := by
  unfold loadRefundForPayment
  rw [App.stretch_getTransaction, hrow]
  dsimp only
  by_cases htype : t.txnType = .refund
  · by_cases hstatus : t.status = .refundPending
    · rw [if_neg (not_not.mpr htype), if_neg (not_not.mpr hstatus)]
      exact .inr rfl
    · rw [if_neg (not_not.mpr htype), if_pos hstatus]
      exact .inl ⟨_, rfl⟩
  · rw [if_pos htype]
    exact .inl ⟨_, rfl⟩

/-- `charge_card_refund` refuses, or calls Windcave for the row that it has loaded. -/
theorem stretch_chargeCardRefund (rt : Runtime) (settings : Settings) {t : POSTransaction}
    (hrow : w.db.transaction x = some t) :
    (∃ r, (chargeCardRefund rt settings x).stretch World.send w = (w, .over r)) ∨
    ∃ ref, (chargeCardRefund rt settings x).stretch World.send w =
      (World.send (.windcaveRefund t.totalCents.natAbs ref t.id) w,
        .waits (.windcaveRefund t.totalCents.natAbs ref t.id) (chargeReply rt settings t)) := by
  unfold chargeCardRefund
  rw [Prog.stretch_bind]
  rcases stretch_loadRefundForPayment hrow with ⟨e, he⟩ | hload
  · rw [he]
    exact .inl ⟨_, rfl⟩
  · rw [hload]
    dsimp only
    by_cases hmethod : t.paymentMethod = some .card
    · rw [if_neg (not_not.mpr hmethod)]
      have hread : (Prog.read : App World).stretch World.send w = (w, .over (.ok w)) := rfl
      rw [Prog.stretch_bind, hread]
      dsimp only
      cases (t.parentTransactionId.bind w.db.transaction).bind fun original ↦
          Checkout.orNone original.windcaveTxnRef with
      | none => exact .inl ⟨_, rfl⟩
      | some ref =>
          let q : Call := .windcaveRefund t.totalCents.natAbs ref t.id
          refine .inr ⟨ref, congrArg (fun k ↦ (World.send q w, Stop.waits q k))
            (funext fun initial ↦ ?_)⟩
          cases initial with
          | error e => cases e <;> rfl
          | ok initial => rfl
    · rw [if_pos hmethod]
      exact .inl ⟨_, rfl⟩

/-- A complete reply: the refund goes the same way from its row in flight and from its row before
the charge. -/
theorem finalizeRefundCharge_replace {t : POSTransaction} {st : WindcaveStatusResponse}
    (hrow : w.db.transaction x = some t) (responseXml : Option String) (updatedAt : Time) :
    (finalizeRefundCharge rt settings ((beforeCharge responseXml updatedAt).set t) st).stretch
        World.send (w.replace x (beforeCharge responseXml updatedAt)) =
      (finalizeRefundCharge rt settings t st).stretch World.send w := by
  have hid : t.id = x := Table.key_of_get? hrow
  subst hid
  let b := beforeCharge responseXml updatedAt
  have hworld (u : TransactionUpdate)
      (hu : (TransactionUpdate.touch ((replied st.rawXml).andThen u) w.now).set (b.set t) =
        (TransactionUpdate.touch ((replied st.rawXml).andThen u) w.now).set t) :
      (w.replace t.id b).updateTransaction t.id ((replied st.rawXml).andThen u) =
        w.updateTransaction t.id ((replied st.rawXml).andThen u) :=
    World.replace_updateTransaction hrow hu
  have hfailed (error : String) :
      (App.saveTransaction (b.set t) ((replied st.rawXml).andThen (paymentFailed error)) >>=
        fun _ ↦ (.pure () : App Unit)).stretch World.send (w.replace t.id b) =
      (App.saveTransaction t ((replied st.rawXml).andThen (paymentFailed error)) >>= fun _ ↦
        (.pure () : App Unit)).stretch World.send w :=
    congrArg (fun w' ↦ (w', Stop.over (.ok ()))) (hworld (paymentFailed error) rfl)
  unfold finalizeRefundCharge
  by_cases hsignature : st.signatureRequired = true
  · simp only [hsignature, if_true]
    exact hfailed _
  · by_cases happroved : st.approved = true
    · simp only [hsignature, happroved, if_false, Bool.not_true, Bool.false_eq_true]
      cases hresult : st.result with
      | none =>
          rw [WindcaveStatusResponse.approved, hresult, Option.any_none, Bool.and_false]
            at happroved
          cases happroved
      | some result =>
          exact congrArg ((sendRefundToSentry rt settings _).stretch World.send)
            (hworld (cardRefunded t.totalCents result) rfl)
    · simp only [hsignature, happroved, if_false, if_true, Bool.not_false, Bool.false_eq_true]
      exact hfailed _

/-- A complete reply to the charge. -/
theorem forget_chargeReply (t : POSTransaction) {st : WindcaveStatusResponse}
    (h : st.complete = true) : (chargeReply rt settings t (.ok st)).forget =
      finalizeRefundCharge rt settings t st := by
  rw [chargeReply, if_pos h]
  exact Prog.forget_answer _ false

/-- **The poller and the charge agree**, for refunds. -/
theorem finishPoll_eq_charge {t : POSTransaction} (hrow : w.db.transaction x = some t)
    (hflight : t.status = .refundPaymentInFlight) {st : WindcaveStatusResponse}
    (hst : st.complete = true) {responseXml : Option String} {updatedAt : Time} {w₁ w₁' : World}
    (hbefore : w₁.db.transaction x = some ((beforeCharge responseXml updatedAt).set t))
    {ref : String} {k : Except PyExc WindcaveStatusResponse → App Bool}
    (hcharge : (chargeCardRefund rt settings x).stretch World.send w₁ =
      (w₁', .waits (.windcaveRefund t.totalCents.natAbs ref t.id) k)) :
    (k (.ok st)).forget.stretch World.send (w.replace x (beforeCharge responseXml updatedAt)) =
      (finishPoll rt settings x (some st)).stretch World.send w := by
  have hk : k = chargeReply rt settings ((beforeCharge responseXml updatedAt).set t) := by
    rcases stretch_chargeCardRefund rt settings hbefore with
      ⟨r, hr⟩ | ⟨ref', hwaits⟩
    · rw [hr] at hcharge
      cases hcharge
    · rw [hwaits] at hcharge
      obtain ⟨-, hstop⟩ := Prod.mk.inj hcharge
      obtain ⟨hcall, hk⟩ := Stop.waits.inj hstop
      exact (eq_of_heq hk).symm
  rw [hk, forget_chargeReply _ hst, finishPoll, App.stretch_getTransaction, hrow]
  dsimp only
  rw [if_neg (not_not.mpr hflight)]
  exact finalizeRefundCharge_replace hrow responseXml updatedAt

/-- A row that is not in flight is left alone. -/
theorem stretch_finishPoll_over (final : Option WindcaveStatusResponse)
    (h : w.status x ≠ some .refundPaymentInFlight) :
    (finishPoll rt settings x final).stretch World.send w = (w, .over (.ok ())) := by
  rw [finishPoll, App.stretch_getTransaction]
  cases hrow : w.db.transaction x with
  | none => rfl
  | some t =>
      have hne : t.status ≠ .refundPaymentInFlight := fun hs ↦
        h ((World.status_of_row hrow).trans (congrArg some hs))
      dsimp only
      rw [if_pos hne]
      rfl

/-- Without a complete reply the refund fails, and nothing else changes. -/
theorem stretch_finishPoll_timeout (h : w.status x = some .refundPaymentInFlight) :
    (finishPoll rt settings x none).stretch World.send w =
      (w.updateTransaction x (paymentFailed "polling_timeout"), .over (.ok ())) := by
  obtain ⟨t, hrow, hstatus⟩ := Option.map_eq_some_iff.mp h
  obtain rfl : t.id = x := Table.key_of_get? hrow
  rw [finishPoll, App.stretch_getTransaction, hrow]
  dsimp only
  rw [if_neg (not_not.mpr hstatus)]
  rfl

/-- What `poll_refund_until_complete` does when its loop is over. -/
structure FinishesAsCharged (rt : Runtime) (settings : Settings) (x : Id) : Prop where
  «over» : ∀ (w : World) final, w.status x ≠ some .refundPaymentInFlight →
    (finishPoll rt settings x final).stretch World.send w = (w, .over (.ok ()))
  timeout : ∀ w : World, w.status x = some .refundPaymentInFlight →
    (finishPoll rt settings x none).stretch World.send w =
      (w.updateTransaction x (paymentFailed "polling_timeout"), .over (.ok ()))
  reply : ∀ (w : World) (t : POSTransaction) (st : WindcaveStatusResponse),
    w.db.transaction x = some t → t.status = .refundPaymentInFlight → st.complete = true →
    ∀ (responseXml : Option String) (updatedAt : Time) (w₁ w₁' : World) (ref : String)
      (k : Except PyExc WindcaveStatusResponse → App Bool),
      w₁.db.transaction x = some ((beforeCharge responseXml updatedAt).set t) →
      (chargeCardRefund rt settings x).stretch World.send w₁ =
        (w₁', .waits (.windcaveRefund t.totalCents.natAbs ref t.id) k) →
      (k (.ok st)).forget.stretch World.send (w.replace x (beforeCharge responseXml updatedAt)) =
        (finishPoll rt settings x (some st)).stretch World.send w

theorem finishesAsCharged (rt : Runtime) (settings : Settings) (x : Id) :
    FinishesAsCharged rt settings x where
  «over» _ final h := stretch_finishPoll_over final h
  timeout _ h := stretch_finishPoll_timeout h
  reply _ _ _ hrow hflight hst _ _ _ _ _ _ hbefore hcharge :=
    finishPoll_eq_charge hrow hflight hst hbefore hcharge

end Refunds

end Refund

/-! ## Both pollers -/

/-- The poller of a payment ends after the status calls that fit into its time, and goes on with
the first complete reply. -/
def EndsWith (settings : Settings) (x : Id) (poller : App Unit)
    (finish : Option WindcaveStatusResponse → App Unit) : Prop :=
  ∀ o : ℕ → Polled, ∃ asked,
    poller.feed (polledBy settings o) =
      (asked, finish (firstComplete o 0 (maxPolls settings))) ∧
    asked.countP (asksStatus x) ≤ maxPolls settings ∧ ∀ q ∈ asked, Polls x q

section Pollers

variable {settings : Settings} {fuel : ℕ}

/-- A poller that goes on with an access. -/
theorem endsWith_pollLoop (hp : 0 < settings.windcavePollIntervalMs)
    (hfuel : maxPolls settings ≤ fuel) (x : Id)
    {finish : Option WindcaveStatusResponse → App Unit}
    (hfinish : ∀ final, ∃ u k, finish final = .atomic u k) :
    EndsWith settings x (Checkout.pollLoop settings x fuel 0 >>= finish) finish := by
  intro o
  obtain ⟨asked, hfeed, hcount, hpolls⟩ :=
    feed_pollLoop (o := o) (k := 0) hp x (Nat.zero_add _) hfuel
  obtain ⟨u, k, hatomic⟩ := hfinish (firstComplete o 0 (maxPolls settings))
  rw [Nat.cast_zero, zero_mul] at hfeed
  refine ⟨asked, ?_, hcount, hpolls⟩
  rw [Prog.feed_bind finish hfeed, hatomic]
  exact Prod.ext (List.append_nil asked) rfl

/-- **Polling ends and agrees with the synchronous path.** -/
theorem polling_agrees (rt : Runtime) (hp : 0 < settings.windcavePollIntervalMs)
    (hfuel : maxPolls settings ≤ fuel) (x : Id) :
    EndsWith settings x (Checkout.pollCardUntilComplete rt settings fuel x)
      (Checkout.finishPoll rt settings x) ∧
    EndsWith settings x (Refund.pollRefundUntilComplete rt settings fuel x)
      (Refund.finishPoll rt settings x) ∧
    Checkout.FinishesAsCharged rt settings x ∧ Refund.FinishesAsCharged rt settings x :=
  ⟨endsWith_pollLoop hp hfuel x fun _ ↦ ⟨_, _, rfl⟩,
    endsWith_pollLoop hp hfuel x fun _ ↦ ⟨_, _, rfl⟩,
    Checkout.finishesAsCharged rt settings x, Refund.finishesAsCharged rt settings x⟩

end Pollers

/-- Windcave cannot be reached, then has no result yet, and approves. -/
def approvedLate : ℕ → Polled
  | 0 => .error "timeout"
  | 1 => .reply {}
  | _ => .reply { complete := true, result := some { approved := true } }

/-- The poller of a register that polls once a second goes on with the approval. -/
theorem polling_agrees_late : ∃ asked,
    (Checkout.pollCardUntilComplete .sample Deployment.sample.settings 120 0).feed
        (polledBy Deployment.sample.settings approvedLate) =
      (asked, Checkout.finishPoll .sample Deployment.sample.settings 0
        (some { complete := true, result := some { approved := true } })) ∧
    asked.countP (asksStatus 0) ≤ 120 := by
  have hp : 0 < Deployment.sample.settings.windcavePollIntervalMs := by decide
  have hmax : maxPolls Deployment.sample.settings = 120 := by decide +kernel
  obtain ⟨asked, hfeed, hcount, -⟩ :=
    (polling_agrees .sample hp hmax.le 0).1 approvedLate
  rw [hmax] at hfeed hcount
  exact ⟨asked, hfeed, hcount⟩

end HightowerPos
