import HightowerPos.Commit
import Mathlib.Data.List.Find

/-!
# Sweeps of the failed payments

`retry-failed-sales` and `retry-failed-refunds` send every payment that Sentry did not take once
more.  A sweep treats one row after the other; what it has read of a row may be old by the time it
gets there, since a refund that is completed links its sale.
-/

namespace HightowerPos.Sweep

open Async Reconciliation

/-! ## Rows -/

/-- What comes of a row that a sweep treats. -/
inductive Outcome
  | /-- A refund is not sent, since its sale is missing. -/
    skipped
  | /-- Sentry does not take the payment. -/
    refused (error : String)
  | /-- Sentry takes it. -/
    taken (soId : String)
deriving DecidableEq

/-- The row is complete. -/
def Outcome.isTaken : Outcome → Bool
  | taken _ => true
  | _ => false

/-- What has come of one row. -/
def one (x : Id) (o : Option Outcome) (y : Id) : Option Outcome := if y = x then o else none

/-- What a sweep makes of a row, by what comes of it; a row that it does not treat is left as it
is. -/
def treated (now : Time) (t : POSTransaction) : Option Outcome → POSTransaction
  | some (.taken soId) =>
      { t with
        status := .complete
        sentrySoId := some soId
        lastError := none
        retryCount := t.retryCount + 1
        updatedAt := now.timestamp }
  | some (.refused error) =>
      { t with lastError := some error, retryCount := t.retryCount + 1, updatedAt := now.timestamp }
  | some .skipped => t
  | none => t

/-- What a refund that is taken makes of its sale. -/
def linkedTo (now : Time) (t : POSTransaction) : Option Id → POSTransaction
  | some refundId => { t with refundTransactionId := some refundId, updatedAt := now.timestamp }
  | none => t

/-- The last refund of the sale `x` that is taken; a sweep of sales takes none. -/
def link (txns : List POSTransaction) (outcome : Id → Option Outcome) (x : Id) : Option Id :=
  (txns.reverse.find? fun t ↦
    t.txnType = .refund ∧ t.parentTransactionId = some x ∧ (outcome t.id).any (·.isTaken)).map
    (·.id)

/-- What a sweep has made of the rows: each is as its outcome and its link say, there is none
besides, and no other table is written. -/
structure Swept (outcome : Id → Option Outcome) (link : Id → Option Id) (w w' : World) : Prop where
  rows : ∀ x, w'.db.transaction x = (w.db.transaction x).map fun t ↦
    linkedTo w.now (treated w.now t (outcome x)) (link x)
  order : w'.db.posTransactions.rows.map (·.id) = w.db.posTransactions.rows.map (·.id)
  elsewhere : { w'.db with posTransactions := w.db.posTransactions } = w.db
  clock : w'.now = w.now

section Rows

variable {w w' w'' : World} {o : Option Outcome} {outcome outcome' : Id → Option Outcome}
  {l l' : Id → Option Id} {t t' : POSTransaction} {txns : List POSTransaction} {now : Time} {x : Id}

@[simp] theorem one_self (x : Id) (o : Option Outcome) : one x o x = o := if_pos rfl

theorem one_of_ne {y : Id} (h : y ≠ x) : one x o y = none := if_neg h

theorem one_none (x : Id) : one x none = fun _ ↦ none := by
  funext y
  exact ite_self _

/-- What has come of a row before what comes of the others. -/
theorem one_or_self (h : outcome x = none) : (one x o x).or (outcome x) = o := by
  rw [one_self, h, Option.or_none]

theorem one_or_of_ne {y : Id} (h : y ≠ x) : (one x o y).or (outcome y) = outcome y := by
  rw [one_of_ne h, Option.none_or]

/-- Nothing comes of a row that is not among those that are treated. -/
theorem outcome_eq_none {ids : List Id} (honly : ∀ x, (outcome x).isSome → x ∈ ids)
    (hx : x ∉ ids) : outcome x = none := by
  rw [← Option.not_isSome_iff_eq_none]
  intro hsome
  exact hx (honly x hsome)

@[simp] theorem treated_txnType : (treated now t o).txnType = t.txnType := by
  rcases o with _ | _ | _ | _ <;> rfl

theorem treated_status :
    (treated now t o).status = if o.any (·.isTaken) then .complete else t.status := by
  rcases o with _ | _ | _ | _ <;> rfl

@[simp] theorem treated_windcaveTxnRef :
    (treated now t o).windcaveTxnRef = t.windcaveTxnRef := by
  rcases o with _ | _ | _ | _ <;> rfl

theorem treated_sentrySoId (h : ¬ o.any (·.isTaken)) :
    (treated now t o).sentrySoId = t.sentrySoId := by
  rcases o with _ | _ | _ | _
  · rfl
  · rfl
  · rfl
  · exact absurd rfl h

@[simp] theorem linkedTo_txnType (r : Option Id) : (linkedTo now t r).txnType = t.txnType := by
  cases r <;> rfl

@[simp] theorem linkedTo_status (r : Option Id) : (linkedTo now t r).status = t.status := by
  cases r <;> rfl

@[simp] theorem linkedTo_windcaveTxnRef (r : Option Id) :
    (linkedTo now t r).windcaveTxnRef = t.windcaveTxnRef := by
  cases r <;> rfl

@[simp] theorem linkedTo_sentrySoId (r : Option Id) :
    (linkedTo now t r).sentrySoId = t.sentrySoId := by
  cases r <;> rfl

/-- A row is treated once, and the later link stands. -/
theorem linkedTo_treated_trans {o' : Option Outcome} {r r' : Option Id} (h : o = none ∨ o' = none) :
    linkedTo now (treated now (linkedTo now (treated now t o) r) o') r' =
      linkedTo now (treated now t (o.or o')) (r'.or r) := by
  rcases h with rfl | rfl
  · rcases o' with _ | _ | _ | _ <;> cases r <;> cases r' <;> rfl
  · rcases o with _ | _ | _ | _ <;> cases r <;> cases r' <;> rfl

theorem Swept.same (hdb : w'.db = w.db) (hnow : w'.now = w.now) :
    Swept (fun _ ↦ none) (fun _ ↦ none) w w' where
  rows x := by
    rw [hdb]
    exact Option.map_id'.symm
  order := by rw [hdb]
  elsewhere := by rw [hdb]
  clock := hnow

theorem Swept.trans (h : Swept outcome l w w') (h' : Swept outcome' l' w' w'')
    (honce : ∀ x, outcome x = none ∨ outcome' x = none) :
    Swept (fun x ↦ (outcome x).or (outcome' x)) (fun x ↦ (l' x).or (l x)) w w'' := by
  constructor
  · intro x
    rw [h'.rows, h.rows, Option.map_map, h.clock]
    congr 1
    funext t
    exact linkedTo_treated_trans (honce x)
  · exact h'.order.trans h.order
  · have h₁ := h.elsewhere
    have h₂ := h'.elsewhere
    rw [← h₁, ← h₂]
  · exact h'.clock.trans h.clock

/-- A row that is not treated is as it was scanned. -/
theorem Swept.like (h : Swept outcome l w w') (hlike : Like w t) (hnone : outcome t.id = none) :
    Like w' t := by
  obtain ⟨t₁, ht₁, heq⟩ := hlike
  have hrow : w'.db.transaction t.id = some (linkedTo w.now t₁ (l t.id)) := by
    rw [h.rows, ht₁, hnone]
    rfl
  refine ⟨_, hrow, ?_⟩
  cases l t.id <;> exact heq

/-- No row comes or goes. -/
theorem Swept.isNone (h : Swept outcome l w w') (x : Option Id) :
    x.bind w'.db.transaction = none ↔ x.bind w.db.transaction = none := by
  cases x with
  | none => exact Iff.rfl
  | some x =>
      change w'.db.transaction x = none ↔ w.db.transaction x = none
      rw [h.rows, Option.map_eq_none_iff]

/-- One row is updated. -/
theorem swept_update {u : TransactionUpdate} {r : Option Id}
    (hrow : ∀ t, w.db.transaction x = some t →
      (u.touch w.now).set t = linkedTo w.now (treated w.now t o) r) :
    Swept (one x o) (fun y ↦ if y = x then r else none) w (w.updateTransaction x u) := by
  have hupdated := w.updated_updateTransaction x u
  constructor
  · intro y
    by_cases hy : y = x
    · subst hy
      rw [hupdated.row, one_self, if_pos rfl]
      cases ht : w.db.transaction y with
      | none => rfl
      | some t => exact congrArg some (hrow t ht)
    · rw [hupdated.others y hy, one_of_ne hy, if_neg hy]
      exact Option.map_id'.symm
  · change (w.db.posTransactions.rows.map fun t ↦
      if t.id = x then (u.touch w.now).set t else t).map (·.id) = _
    rw [List.map_map]
    apply List.map_congr_left
    intro t _
    change (if t.id = x then (u.touch w.now).set t else t).id = t.id
    split
    · exact (u.touch w.now).keeps t
    · rfl
  · rfl
  · rfl

theorem swept_linked (w : World) (x r : Id) :
    Swept (fun _ ↦ none) (fun y ↦ if y = x then some r else none) w
      (w.updateTransaction x (Refund.linked r)) := by
  have h := swept_update (w := w) (x := x) (o := none) (u := Refund.linked r) (r := some r)
    fun t _ ↦ rfl
  rw [one_none] at h
  exact h

end Rows

/-! ## Calls -/

/-- The status of a payment that Sentry did not take. -/
def failedStatus : TxnType → Status
  | .sale => .inventoryUpdateFailed
  | .refund => .refundInventoryUpdateFailed

/-- A row that a sweep is for. -/
def Failed (type : TxnType) (t : POSTransaction) : Prop :=
  t.txnType = type ∧ t.status = failedStatus type

/-- The parent of a refund is missing. -/
def Orphan (w : World) (t : POSTransaction) : Prop :=
  t.txnType = .refund ∧ t.parentTransactionId.bind w.db.transaction = none

instance (w : World) (t : POSTransaction) : Decidable (Orphan w t) :=
  inferInstanceAs (Decidable (_ ∧ _))

/-- The call that sends the row `t`.  A refund goes with the order of its parent; where the parent
is a failed refund itself, this may be the order that it has got in the same sweep. -/
inductive Sends (w : World) (t : POSTransaction) : Call → Prop
  | sale (htype : t.txnType = .sale) : Sends w t (.sentryCreatePosSo
      (Checkout.buildCheckoutRequest t (t.paymentMethod.getD .cash) w.now))
  | refund {original : POSTransaction} {soId : Option String} (htype : t.txnType = .refund)
      (hparent : t.parentTransactionId.bind w.db.transaction = some original)
      (hso : soId = original.sentrySoId ∨ Failed .refund original) :
      Sends w t (.sentryCreatePosRefund
        (Refund.buildRefundRequest t { original with sentrySoId := soId } w.now))

/-- What a result of Sentry's client is for the row that was sent; any other exception breaks the
sweep off. -/
def outcomeOf {α : Type} (soId : α → String) : Except PyExc α → Option Outcome
  | .ok result => some (.taken (soId result))
  | .error (.sentryClient exc) => (Checkout.errorText exc).encode.map .refused
  | .error _ => none

/-- What Sentry's answer to a call is for the row that was sent. -/
def heard (rt : Runtime) (answer : (q : Call) → Option (Answer q)) : Call → Option Outcome
  | .sentryCreatePosSo request => (answer (.sentryCreatePosSo request)).bind fun a ↦
      outcomeOf (·.soId) (Sentry.createPosSo rt a)
  | .sentryCreatePosRefund request => (answer (.sentryCreatePosRefund request)).bind fun a ↦
      outcomeOf (·.refundSoId) (Sentry.createPosRefund rt a)
  | _ => none

/-- What a sweep has done with the rows `txns`: it has sent `sent`, by `calls`. -/
structure Sweeps (rt : Runtime) (answer : (q : Call) → Option (Answer q))
    (txns : List POSTransaction) (w : World) (calls : List Call) (outcome : Id → Option Outcome)
    (sent : List POSTransaction) (w' : World) : Prop where
  swept : Swept outcome (link txns outcome) w w'
  only : ∀ x, (outcome x).isSome → x ∈ txns.map (·.id)
  skipped : ∀ t ∈ txns, (outcome t.id).isSome → (outcome t.id = some .skipped ↔ Orphan w t)
  once : sent <+: txns.filter fun t ↦ ¬ Orphan w t
  calls : List.Forall₂ (fun t q ↦ Sends w t q ∧ outcome t.id = heard rt answer q) sent calls
  called : ∀ t ∈ txns, (outcome t.id).isSome → ¬ Orphan w t → t ∈ sent

/-- What sending the row `t` comes to. -/
structure Treats (rt : Runtime) (answer : (q : Call) → Option (Answer q)) (t : POSTransaction)
    (w : World) (calls : List Call) (o : Option Outcome) (r : Except PyExc Bool) (w' : World) :
    Prop where
  swept : Swept (one t.id o) (link [t] (one t.id o)) w w'
  returns : r.toOption = o.map (·.isTaken)
  calls : Orphan w t ∧ calls = [] ∧ o = some .skipped ∨
    ¬ Orphan w t ∧ ∃ q, calls = [q] ∧ Sends w t q ∧ o = heard rt answer q

section One

variable {rt : Runtime} {answer : (q : Call) → Option (Answer q)} {w w' : World}
  {t original : POSTransaction} {txns : List POSTransaction} {outcome : Id → Option Outcome}
  {l : Id → Option Id} {o : Option Outcome} {x : Id}

theorem heard_ne_skipped (q : Call) : heard rt answer q ≠ some .skipped := by
  have hresult {α : Type} (soId : α → String) (r : Except PyExc α) :
      outcomeOf soId r ≠ some .skipped := by
    rcases r with e | result
    · cases e with
      | sentryClient exc =>
          rw [outcomeOf]
          cases (Checkout.errorText exc).encode <;> simp
      | _ => simp [outcomeOf]
    · simp [outcomeOf]
  cases q with
  | sentryCreatePosSo request =>
      rw [heard]
      cases answer (.sentryCreatePosSo request) with
      | none => simp
      | some a => exact hresult _ _
  | sentryCreatePosRefund request =>
      rw [heard]
      cases answer (.sentryCreatePosRefund request) with
      | none => simp
      | some a => exact hresult _ _
  | _ => simp [heard]

/-- The link that a row gives, and those of the rows after it. -/
theorem link_cons (hnotin : t.id ∉ txns.map (·.id))
    (honly : ∀ x, (outcome x).isSome → x ∈ txns.map (·.id)) (x : Id) :
    link (t :: txns) (fun y ↦ (one t.id o y).or (outcome y)) x =
      (link txns outcome x).or (link [t] (one t.id o) x) := by
  have hself : outcome t.id = none := outcome_eq_none honly hnotin
  have hrest : (txns.reverse.find? fun t' ↦ t'.txnType = .refund ∧
      t'.parentTransactionId = some x ∧ ((one t.id o t'.id).or (outcome t'.id)).any (·.isTaken)) =
        txns.reverse.find? fun t' ↦ t'.txnType = .refund ∧ t'.parentTransactionId = some x ∧
          (outcome t'.id).any (·.isTaken) := by
    apply List.find?_congr
    intro t' ht'
    have hne : t'.id ≠ t.id := fun heq ↦
      hnotin (heq ▸ List.mem_map_of_mem (List.mem_reverse.mp ht'))
    rw [one_or_of_ne hne]
  unfold link
  rw [List.reverse_cons, List.find?_append, Option.map_or, hrest, List.reverse_singleton]
  simp only [List.find?_singleton, one_self, hself, Option.or_none]

/-- A sale gives no link. -/
theorem link_sale (htype : t.txnType = .sale) : link [t] outcome = fun _ ↦ none := by
  funext x
  simp [link, htype]

theorem link_of_not_taken (h : ¬ o.any (·.isTaken)) : link [t] (one t.id o) = fun _ ↦ none := by
  funext x
  simp only [Bool.not_eq_true] at h
  simp [link, h]

theorem link_of_taken {soId : String} (htype : t.txnType = .refund)
    (hparent : t.parentTransactionId = some x) :
    link [t] (one t.id (some (.taken soId))) = fun y ↦ if y = x then some t.id else none := by
  funext y
  by_cases hy : y = x
  · subst hy
    rw [if_pos rfl]
    simp [link, htype, hparent, Outcome.isTaken]
  · rw [if_neg hy]
    simp [link, hparent, Ne.symm hy]

/-- What was sent in the course of a sweep, as the rows were at its beginning. -/
theorem Sends.of_swept {q : Call} (h : Swept (one x o) l w w')
    (hfailed : t.txnType = .refund → ∀ t₀, w.db.transaction x = some t₀ → Failed .refund t₀)
    (hsends : Sends w' t q) : Sends w t q := by
  cases hsends with
  | sale htype =>
      rw [h.clock]
      exact .sale htype
  | refund htype hparent hso =>
      rename_i original soId
      obtain ⟨p, hp, hrow⟩ := Option.bind_eq_some_iff.mp hparent
      rw [h.rows] at hrow
      obtain ⟨t₀, ht₀, rfl⟩ := Option.map_eq_some_iff.mp hrow
      have hrequest : Refund.buildRefundRequest t { linkedTo w.now (treated w.now t₀ (one x o p))
          (l p) with sentrySoId := soId } w'.now =
            Refund.buildRefundRequest t { t₀ with sentrySoId := soId } w.now := by
        rw [h.clock]
        simp [Refund.buildRefundRequest]
      rw [hrequest]
      apply Sends.refund htype (Option.bind_eq_some_iff.mpr ⟨p, hp, ht₀⟩)
      by_cases hpx : p = x
      · -- the row that was treated was failed
        subst hpx
        by_cases htaken : o.any (·.isTaken)
        · exact .inr (hfailed htype t₀ ht₀)
        · rw [one_self, linkedTo_sentrySoId, treated_sentrySoId htaken] at hso
          refine hso.imp_right fun hfail ↦ ?_
          simpa [Failed, treated_status, htaken] using hfail
      · rw [one_of_ne hpx] at hso
        refine hso.imp ?_ ?_
        · intro hso
          simpa [treated] using hso
        · intro hfail
          simpa [Failed, treated] using hfail

end One

/-! ## One row -/

section Retry

variable {rt : Runtime} {answer : (q : Call) → Option (Answer q)} {w : World}
  {t original : POSTransaction} {qs : List Call}

theorem not_orphan_of_sale (htype : t.txnType = .sale) : ¬ Orphan w t := by
  rintro ⟨hrefund, -⟩
  rw [htype] at hrefund
  cases hrefund

/-- A row is written as it has to be, and its retries are those of the row that was scanned. -/
theorem swept_row {o : Option Outcome} {u : TransactionUpdate} (hlike : Like w t)
    (hrow : ∀ t₁, t.retryCount = t₁.retryCount → (u.touch w.now).set t₁ = treated w.now t₁ o) :
    Swept (one t.id o) (fun _ ↦ none) w (w.updateTransaction t.id u) := by
  have h : Swept (one t.id o) (fun y ↦ if y = t.id then none else none) w
      (w.updateTransaction t.id u) := by
    apply swept_update
    intro t₁ ht₁
    obtain ⟨t₂, ht₂, heq⟩ := hlike
    obtain rfl := Option.some.inj (ht₁.symm.trans ht₂)
    apply hrow
    rw [heq]
  simpa only [ite_self] using h

/-- Sentry takes the row. -/
theorem swept_retried (hlike : Like w t) (soId : String) :
    Swept (one t.id (some (.taken soId))) (fun _ ↦ none) w
      (w.updateTransaction t.id (retried soId t.retryCount)) := by
  apply swept_row hlike
  intro t₁ hcount
  rw [hcount]
  rfl

/-- Sentry does not take it. -/
theorem swept_retryFailed (hlike : Like w t) (error : String) :
    Swept (one t.id (some (.refused error))) (fun _ ↦ none) w
      (w.updateTransaction t.id (retryFailed error t.retryCount)) := by
  apply swept_row hlike
  intro t₁ hcount
  rw [hcount]
  rfl

/-- A row that was sent, and not taken. -/
theorem treats_of_sent {q : Call} {o : Option Outcome} {r : Except PyExc Bool} {w' : World}
    (horphan : ¬ Orphan w t) (hsends : Sends w t q) (ho : o = heard rt answer q)
    (htaken : ¬ o.any (·.isTaken)) (hswept : Swept (one t.id o) (fun _ ↦ none) w w')
    (hr : r.toOption = o.map (·.isTaken)) : Treats rt answer t w [q] o r w' where
  swept := by
    rw [link_of_not_taken htaken]
    exact hswept
  returns := hr
  calls := .inr ⟨horphan, q, rfl, hsends, ho⟩

/-- The row is as it was where the sweep is broken off. -/
theorem treats_broken {q : Call} {exc : PyExc} {w' : World} (horphan : ¬ Orphan w t)
    (hsends : Sends w t q) (ho : none = heard rt answer q) (hdb : w'.db = w.db)
    (hnow : w'.now = w.now) : Treats rt answer t w [q] none (.error exc) w' :=
  treats_of_sent horphan hsends ho (by simp) (by rw [one_none]; exact .same hdb hnow) rfl

/-- The refusal is written, or its text cannot be. -/
theorem wp_refused {q : Call} {exc : SentryClientError} (hlike : Like w t)
    (horphan : ¬ Orphan w t) (hsends : Sends w t q)
    (hheard : heard rt answer q = (Checkout.errorText exc).encode.map .refused) :
    (do
      let error ← App.bindText (Checkout.errorText exc)
      let _ ← App.saveTransaction t (retryFailed error t.retryCount)
      return false : App Bool).wp (.recording World.send answer)
      (fun qs' r w' ↦ ∃ calls o, qs' = qs ++ calls ∧ Treats rt answer t w calls o r w')
      (qs ++ [q]) w := by
  rw [wp_bind]
  refine App.wp_bindText (fun text htext ↦ ?_) fun htext ↦ ?_
  · simp only [wp_bind, App.wp_saveTransaction]
    rw [htext] at hheard
    exact ⟨trivial, _, _, rfl, treats_of_sent horphan hsends hheard.symm Bool.false_ne_true
      (swept_retryFailed hlike text) rfl⟩
  · rw [htext] at hheard
    exact ⟨_, _, rfl, treats_broken horphan hsends hheard.symm rfl rfl⟩

theorem wp_retryOneSale (hlike : Like w t) (htype : t.txnType = .sale) :
    (retryOneSale rt t).wp (.recording World.send answer)
      (fun qs' r w' ↦ ∃ calls o, qs' = qs ++ calls ∧ Treats rt answer t w calls o r w') qs w := by
  unfold retryOneSale
  simp only [wp_bind, wp_read]
  intro a ha
  change (finishRetrySale rt t a).wp _ _ _ w
  have horphan : ¬ Orphan w t := not_orphan_of_sale htype
  have hsends := Sends.sale (w := w) htype
  have hheard : heard rt answer (.sentryCreatePosSo (Checkout.buildCheckoutRequest t
      (t.paymentMethod.getD .cash) w.now)) = outcomeOf (·.soId) (Sentry.createPosSo rt a) := by
    rw [heard, ha, Option.bind_some]
  unfold finishRetrySale
  cases hresult : Sentry.createPosSo rt a with
  | ok result =>
      rw [hresult, outcomeOf] at hheard
      simp only [wp_bind, App.wp_saveTransaction]
      refine ⟨trivial, _, _, rfl, ?_, rfl, .inr ⟨horphan, _, rfl, hsends, hheard.symm⟩⟩
      rw [link_sale htype]
      exact swept_retried hlike _
  | error e =>
      rw [hresult] at hheard
      cases e with
      | sentryClient exc => exact wp_refused hlike horphan hsends hheard
      | _ => exact ⟨_, _, rfl, treats_broken horphan hsends hheard.symm rfl rfl⟩

theorem wp_retryOneRefund (hlike : Like w t) (htype : t.txnType = .refund) :
    (retryOneRefund rt t).wp (.recording World.send answer)
      (fun qs' r w' ↦ ∃ calls o, qs' = qs ++ calls ∧ Treats rt answer t w calls o r w') qs w := by
  unfold retryOneRefund
  simp only [wp_bind, wp_read]
  cases hparent : t.parentTransactionId.bind w.db.transaction with
  | none =>
      refine ⟨[], some .skipped, (List.append_nil qs).symm, ?_, rfl,
        .inl ⟨⟨htype, hparent⟩, rfl, rfl⟩⟩
      have hskip : Swept (one t.id (some .skipped)) (fun _ ↦ none) w w := by
        refine ⟨?_, rfl, rfl, rfl⟩
        intro x
        have htreated (t₁ : POSTransaction) :
            treated w.now t₁ (one t.id (some .skipped) x) = t₁ := by
          by_cases hx : x = t.id
          · subst hx
            rw [one_self]
            rfl
          · rw [one_of_ne hx]
            rfl
        simp only [htreated, linkedTo, Option.map_id']
      rw [link_of_not_taken (by decide)]
      exact hskip
  | some original =>
      rw [wp_bind]
      intro a ha
      change (finishRetryRefund rt t original a).wp _ _ _ w
      have horphan : ¬ Orphan w t := by
        rintro ⟨-, hnone⟩
        rw [hparent] at hnone
        cases hnone
      have hsends := Sends.refund htype hparent (.inl rfl)
      have hheard : heard rt answer (.sentryCreatePosRefund (Refund.buildRefundRequest t
          original w.now)) = outcomeOf (·.refundSoId) (Sentry.createPosRefund rt a) := by
        rw [heard, ha, Option.bind_some]
      unfold finishRetryRefund
      cases hresult : Sentry.createPosRefund rt a with
      | ok result =>
          rw [hresult, outcomeOf] at hheard
          simp only [wp_bind, App.wp_commit]
          refine ⟨trivial, _, _, rfl, ?_, rfl, .inr ⟨horphan, _, rfl, hsends, hheard.symm⟩⟩
          obtain ⟨p, hp, hrow⟩ := Option.bind_eq_some_iff.mp hparent
          obtain rfl : original.id = p := Table.key_of_get? hrow
          have h := (swept_retried hlike result.refundSoId).trans
            (swept_linked _ original.id t.id) fun _ ↦ .inr rfl
          simp only [Option.or_none] at h
          rw [link_of_taken htype hp]
          exact h
      | error e =>
          rw [hresult] at hheard
          cases e with
          | sentryClient exc => exact wp_refused hlike horphan hsends hheard
          | _ => exact ⟨_, _, rfl, treats_broken horphan hsends hheard.symm rfl rfl⟩

end Retry

/-! ## All of them -/

/-- What a report says of the rows `ids`, after what `report` said. -/
structure Reports (outcome : Id → Option Outcome) (ids : List Id) (report report' : RetryReport) :
    Prop where
  scanned : report'.scanned = report.scanned
  all : ∀ x ∈ ids, (outcome x).isSome
  succeeded : report'.succeeded =
    report.succeeded ++ ids.filter fun x ↦ (outcome x).any (·.isTaken)
  stillFailing : report'.stillFailing =
    report.stillFailing ++ ids.filter fun x ↦ ¬ (outcome x).any (·.isTaken)

/-- What a sweep of the rows `txns` comes to, which began with `report`.  It is broken off where
what Sentry answers is neither an order nor a refusal. -/
def Ends (rt : Runtime) (answer : (q : Call) → Option (Answer q)) (txns : List POSTransaction)
    (w : World) (report : RetryReport) (calls : List Call) (r : Except PyExc RetryReport)
    (w' : World) : Prop :=
  ∃ outcome sent, Sweeps rt answer txns w calls outcome sent w' ∧
    (∀ exc, r = .error exc → ∃ q ∈ calls, heard rt answer q = none) ∧
    ∀ report', r = .ok report' → sent = txns.filter (fun t ↦ ¬ Orphan w t) ∧
      Reports outcome (txns.map (·.id)) report report'

section All

variable {rt : Runtime} {answer : (q : Call) → Option (Answer q)} {w w' w'' : World}
  {retryOne : POSTransaction → App Bool} {outcome : Id → Option Outcome} {type : TxnType}
  {l : Id → Option Id} {t : POSTransaction} {txns sent : List POSTransaction}
  {calls calls' qs : List Call}

/-- The report after the first row. -/
def noted (report : RetryReport) (x : Id) : Bool → RetryReport
  | true => { report with succeeded := report.succeeded ++ [x] }
  | false => { report with stillFailing := report.stillFailing ++ [x] }

theorem Reports.cons {x : Id} {ids : List Id} {o : Outcome} {report report' : RetryReport}
    (hnotin : x ∉ ids) (hnone : outcome x = none)
    (h : Reports outcome ids (noted report x o.isTaken) report') :
    Reports (fun y ↦ (one x (some o) y).or (outcome y)) (x :: ids) report report' := by
  have hrest : ∀ y ∈ ids, (one x (some o) y).or (outcome y) = outcome y := by
    intro y hy
    apply one_or_of_ne
    rintro rfl
    exact hnotin hy
  have hfilter (p : Option Outcome → Bool) :
      (ids.filter fun y ↦ p ((one x (some o) y).or (outcome y))) = ids.filter fun y ↦
        p (outcome y) :=
    List.filter_congr fun y hy ↦ by rw [hrest y hy]
  have hself : (one x (some o) x).or (outcome x) = some o := one_or_self hnone
  constructor
  · rw [h.scanned]
    cases o.isTaken <;> rfl
  · intro y hy
    rcases List.mem_cons.mp hy with rfl | hy
    · rw [hself]
      rfl
    · rw [hrest y hy]
      exact h.all y hy
  · rw [List.filter_cons, hself, hfilter fun o ↦ o.any (·.isTaken), h.succeeded, Option.any_some]
    cases o.isTaken <;> simp [noted]
  · rw [List.filter_cons, hself, hfilter fun o ↦ ¬ o.any (·.isTaken), h.stillFailing,
      Option.any_some]
    cases o.isTaken <;> simp [noted]

/-- The rows that are to be sent do not depend on what was treated. -/
theorem Swept.orphan (h : Swept outcome l w w') (t : POSTransaction) :
    Orphan w' t ↔ Orphan w t := by
  rw [Orphan, h.isNone]
  exact Iff.rfl

theorem Sweeps.nil (w : World) :
    Sweeps rt answer [] w [] (fun _ ↦ none) [] w where
  swept := .same rfl rfl
  only := by simp
  skipped := by simp
  once := List.nil_prefix
  calls := .nil
  called := by simp

/-- The first row breaks the sweep off. -/
theorem Treats.broken {exc : PyExc} {o : Option Outcome}
    (h : Treats rt answer t w calls o (.error exc) w') :
    ∃ sent, Sweeps rt answer (t :: txns) w calls (fun _ ↦ none) sent w' ∧
      ∃ q ∈ calls, heard rt answer q = none := by
  obtain rfl : o = none := Option.map_eq_none_iff.mp h.returns.symm
  obtain ⟨-, -, hskipped⟩ | ⟨horphan, q, rfl, hsends, hheard⟩ := h.calls
  · cases hskipped
  have hswept := h.swept
  rw [link_of_not_taken (by simp), one_none] at hswept
  have hlink : link (t :: txns) (fun _ ↦ none) = fun _ ↦ none := by
    funext x
    simp [link]
  refine ⟨[t], ⟨?_, by simp, by simp, ?_, .cons ⟨hsends, hheard⟩ .nil, by simp⟩, q,
    List.mem_singleton_self q, hheard.symm⟩
  · rw [hlink]
    exact hswept
  · rw [List.filter_cons, if_pos (decide_eq_true horphan)]
    exact List.prefix_append [t] _

/-- The first row is treated, and then the others. -/
theorem Treats.cons {o : Outcome} {r : Except PyExc Bool} (hnotin : t.id ∉ txns.map (·.id))
    (hfailed : ∀ t₀, w.db.transaction t.id = some t₀ → Failed type t₀)
    (htypes : ∀ t' ∈ txns, t'.txnType = type)
    (h : Treats rt answer t w calls (some o) r w')
    (hrest : Sweeps rt answer txns w' calls' outcome sent w'') :
    Sweeps rt answer (t :: txns) w (calls ++ calls')
      (fun y ↦ (one t.id (some o) y).or (outcome y))
      (if Orphan w t then sent else t :: sent) w'' := by
  have hnone : outcome t.id = none := outcome_eq_none hrest.only hnotin
  have hself : (one t.id (some o) t.id).or (outcome t.id) = some o := one_or_self hnone
  have hother : ∀ t' ∈ txns, (one t.id (some o) t'.id).or (outcome t'.id) = outcome t'.id := by
    intro t' ht'
    apply one_or_of_ne
    intro heq
    exact hnotin (heq ▸ List.mem_map_of_mem ht')
  have horphan := h.swept.orphan
  have hmem : ∀ t' ∈ sent, t' ∈ txns := fun t' ht' ↦
    (List.mem_filter.mp (hrest.once.subset ht')).1
  constructor
  · have hswept := h.swept.trans hrest.swept fun x ↦ by
      by_cases hx : x = t.id
      · exact .inr (hx ▸ hnone)
      · exact .inl (one_of_ne hx)
    rw [show link (t :: txns) _ = _ from funext (link_cons hnotin hrest.only)]
    exact hswept
  · intro x hx
    by_cases hxt : x = t.id
    · exact hxt ▸ List.mem_cons_self
    · rw [one_or_of_ne hxt] at hx
      exact List.mem_cons_of_mem _ (hrest.only x hx)
  · intro t' ht' hsome
    rcases List.mem_cons.mp ht' with rfl | ht'
    · rw [hself]
      obtain ⟨ho, -, hskip⟩ | ⟨ho, q, -, -, hheard⟩ := h.calls
      · exact iff_of_true hskip ho
      · exact iff_of_false (fun hs ↦ heard_ne_skipped q (hheard.symm.trans hs)) ho
    · rw [hother t' ht'] at hsome ⊢
      rw [hrest.skipped t' ht' hsome, horphan]
  · have honce := hrest.once
    simp only [horphan] at honce
    rw [List.filter_cons]
    by_cases ho : Orphan w t
    · rw [if_pos ho, if_neg (by simp [ho])]
      exact honce
    · rw [if_neg ho, if_pos (decide_eq_true ho)]
      exact (List.prefix_cons_inj t).mpr honce
  · have hcalls : List.Forall₂ (fun t' q ↦ Sends w t' q ∧
        (one t.id (some o) t'.id).or (outcome t'.id) = heard rt answer q) sent calls' := by
      refine ((List.forall₂_and_left ..).mpr ⟨hmem, hrest.calls⟩).imp ?_
      rintro t' q ⟨ht', hsends, hheard⟩
      refine ⟨hsends.of_swept h.swept ?_, (hother t' ht').trans hheard⟩
      intro htype t₀ ht₀
      obtain rfl : type = .refund := (htypes t' ht').symm.trans htype
      exact hfailed t₀ ht₀
    obtain ⟨ho, rfl, -⟩ | ⟨ho, q, rfl, hsends, hheard⟩ := h.calls
    · rw [if_pos ho]
      exact hcalls
    · rw [if_neg ho]
      exact .cons ⟨hsends, hself.trans hheard⟩ hcalls
  · intro t' ht' hsome hnot
    have hsent : t' = t ∨ t' ∈ sent := by
      rcases List.mem_cons.mp ht' with rfl | ht'
      · exact .inl rfl
      · rw [hother t' ht'] at hsome
        exact .inr (hrest.called t' ht' hsome ((horphan t').not.mpr hnot))
    split
    · rename_i ho
      refine hsent.resolve_left ?_
      rintro rfl
      exact hnot ho
    · exact List.mem_cons.mpr hsent

/-- Nothing is left to treat. -/
theorem Ends.nil (report : RetryReport) : Ends rt answer [] w report [] (.ok report) w := by
  refine ⟨_, [], .nil w, ?_, ?_⟩
  · rintro exc ⟨⟩
  · rintro report' ⟨⟩
    exact ⟨rfl, rfl, by simp, by simp, by simp⟩

/-- The first row is treated, and the sweep of the others ends. -/
theorem Ends.cons {o : Outcome} {r : Except PyExc Bool} {r' : Except PyExc RetryReport}
    {report : RetryReport} (hnotin : t.id ∉ txns.map (·.id))
    (hfailed : ∀ t₀, w.db.transaction t.id = some t₀ → Failed type t₀)
    (htypes : ∀ t' ∈ txns, t'.txnType = type)
    (h : Treats rt answer t w calls (some o) r w')
    (hends : Ends rt answer txns w' (noted report t.id o.isTaken) calls' r' w'') :
    Ends rt answer (t :: txns) w report (calls ++ calls') r' w'' := by
  obtain ⟨outcome, sent, hrest, hbroken, hreports⟩ := hends
  refine ⟨_, _, h.cons hnotin hfailed htypes hrest, ?_, ?_⟩
  · intro exc hr
    obtain ⟨q, hq, hheard⟩ := hbroken exc hr
    exact ⟨q, List.mem_append_right _ hq, hheard⟩
  · intro report' hr
    obtain ⟨hsent, hreports⟩ := hreports report' hr
    refine ⟨?_, hreports.cons hnotin (outcome_eq_none hrest.only hnotin)⟩
    simp only [h.swept.orphan] at hsent
    rw [List.filter_cons, hsent]
    by_cases ho : Orphan w t
    · rw [if_pos ho, if_neg (by simp [ho])]
    · rw [if_neg ho, if_pos (decide_eq_true ho)]

/-- **The loop**, when a row is treated as it has to be. -/
theorem wp_retryAll
    (hone : ∀ {w : World} {t : POSTransaction} {qs : List Call}, Like w t → t.txnType = type →
      (retryOne t).wp (.recording World.send answer)
        (fun qs' r w' ↦ ∃ calls o, qs' = qs ++ calls ∧ Treats rt answer t w calls o r w') qs w)
    (txns : List POSTransaction) (hnd : (txns.map (·.id)).Nodup) (hlike : ∀ t ∈ txns, Like w t)
    (hfailed : ∀ t ∈ txns, Failed type t) (report : RetryReport) (qs : List Call) :
    (retryAll retryOne txns report).wp (.recording World.send answer)
      (fun qs' r w' ↦ ∃ calls, qs' = qs ++ calls ∧ Ends rt answer txns w report calls r w') qs
      w := by
  induction txns generalizing w report qs with
  | nil =>
      exact ⟨[], (List.append_nil qs).symm, .nil report⟩
  | cons t txns ih =>
      obtain ⟨hnotin, hnd⟩ := List.nodup_cons.mp hnd
      have hft := hfailed t (.head _)
      have hfailed' : ∀ t' ∈ txns, Failed type t' :=
        fun t' ht' ↦ hfailed t' (List.mem_cons_of_mem _ ht')
      unfold retryAll
      rw [wp_bind]
      refine wp_mono ?_ (hone (hlike t (.head _)) hft.1)
      rintro _ r w₁ ⟨calls, o, rfl, htreats⟩
      cases r with
      | error exc =>
          obtain ⟨sent, hsweeps, hbroken⟩ := htreats.broken
          refine ⟨calls, rfl, _, sent, hsweeps, fun _ _ ↦ hbroken, ?_⟩
          rintro report' ⟨⟩
      | ok b =>
          obtain ⟨o, rfl, rfl⟩ := Option.map_eq_some_iff.mp htreats.returns.symm
          have hnext : ∀ t₁ ∈ txns, Like w₁ t₁ := by
            intro t₁ ht₁
            refine htreats.swept.like (hlike t₁ (List.mem_cons_of_mem _ ht₁)) (one_of_ne ?_)
            intro heq
            exact hnotin (List.mem_map.mpr ⟨t₁, ht₁, heq⟩)
          have hrow : ∀ t₀, w.db.transaction t.id = some t₀ → Failed type t₀ := by
            intro t₀ ht₀
            obtain ⟨t₁, ht₁, heq⟩ := hlike t (.head _)
            obtain rfl := Option.some.inj (ht₀.symm.trans ht₁)
            rw [heq] at hft
            exact hft
          have hgo : (retryAll retryOne txns (noted report t.id o.isTaken)).wp
              (.recording World.send answer)
              (fun qs' r w' ↦ ∃ calls, qs' = qs ++ calls ∧
                Ends rt answer (t :: txns) w report calls r w') (qs ++ calls) w₁ := by
            refine wp_mono ?_ (ih hnd hnext hfailed' (noted report t.id o.isTaken) (qs ++ calls))
            rintro _ r w' ⟨calls', rfl, hends⟩
            exact ⟨calls ++ calls', List.append_assoc .., hends.cons hnotin hrow
              (fun t' ht' ↦ (hfailed' t' ht').1) htreats⟩
          cases hb : o.isTaken <;> rw [hb] at hgo <;> exact hgo

/-- The rows that a command is for. -/
def failed (w : World) (type : TxnType) : List POSTransaction :=
  w.db.posTransactions.select fun t ↦ t.txnType = type ∧ t.status = failedStatus type

/-- Their ids. -/
def failedIds (w : World) (type : TxnType) : List Id := (failed w type).map (·.id)

/-- What the next sweep scans. -/
theorem Swept.failedIds (h : Swept outcome l w w') :
    failedIds w' type = (failedIds w type).filter fun x ↦ ¬ (outcome x).any (·.isTaken) := by
  have hids (w : World) : Sweep.failedIds w type = (w.db.posTransactions.rows.map (·.id)).filter
      fun x ↦ (w.db.transaction x).any fun t ↦ t.txnType = type ∧ t.status = failedStatus type := by
    rw [Sweep.failedIds, failed, Table.select, List.filter_map]
    congr 1
    apply List.filter_congr
    intro t ht
    change _ = (w.db.transaction t.id).any _
    rw [show w.db.transaction t.id = some t from Table.get?_of_mem ht]
    rfl
  rw [hids, hids, h.order, List.filter_filter]
  apply List.filter_congr
  intro x hx
  obtain ⟨t, ht, rfl⟩ := List.mem_map.mp hx
  rw [h.rows, show w.db.transaction t.id = some t from Table.get?_of_mem ht, Option.map_some,
    Option.any_some, Option.any_some, linkedTo_txnType, linkedTo_status, treated_txnType,
    treated_status]
  by_cases hout : (outcome t.id).any (·.isTaken)
  · have hne : Status.complete ≠ failedStatus type := by cases type <;> decide
    simp [hout, hne]
  · simp [hout]

end All

/-! ## The commands -/

/-- `retry-failed-sales` and `retry-failed-refunds`. -/
def command (rt : Runtime) : TxnType → App RetryReport
  | .sale => retryFailedSales rt
  | .refund => retryFailedRefunds rt

/-- Sentry takes every order. -/
def AcceptsOrders (rt : Runtime) (answer : (q : Call) → Option (Answer q)) : Prop :=
  ∀ request a, answer (.sentryCreatePosSo request) = some a →
    ∃ result, Sentry.createPosSo rt a = .ok result

section Commands

variable {rt : Runtime} {answer : (q : Call) → Option (Answer q)} {w w' : World}
  {type : TxnType}

theorem wp_command (type : TxnType) (w : World) :
    (command rt type).wp (.recording World.send answer)
      (Ends rt answer (failed w type) w { scanned := (failed w type).length }) [] w := by
  have hall {retryOne : POSTransaction → App Bool}
      (hone : ∀ {w : World} {t : POSTransaction} {qs : List Call}, Like w t → t.txnType = type →
        (retryOne t).wp (.recording World.send answer)
          (fun qs' r w' ↦ ∃ calls o, qs' = qs ++ calls ∧ Treats rt answer t w calls o r w') qs w) :
      (rowsIn type (failedStatus type) >>= fun rows ↦
        retryAll retryOne rows { scanned := rows.length }).wp (.recording World.send answer)
          (Ends rt answer (failed w type) w { scanned := (failed w type).length }) [] w := by
    unfold rowsIn
    simp only [wp_bind, wp_read, Prog.pure_eq, wp_pure]
    refine wp_mono ?_ (wp_retryAll hone (failed w type) nodup_select
      (fun t ht ↦ like_of_select ht) (fun t ht ↦ ?_) { scanned := (failed w type).length } [])
    · rintro _ r w' ⟨calls, rfl, hends⟩
      exact hends
    · have hsel := (List.mem_filter.mp ht).2
      rw [decide_eq_true_eq] at hsel
      exact hsel
  cases type with
  | sale => exact hall wp_retryOneSale
  | refund => exact hall wp_retryOneRefund

/-- Sentry takes a sale that is sent. -/
theorem Sends.taken {t : POSTransaction} {q : Call} (hsends : Sends w t q)
    (htype : t.txnType = .sale) (haccepts : AcceptsOrders rt answer) (hanswer : (answer q).isSome) :
    (heard rt answer q).any (·.isTaken) := by
  cases hsends with
  | sale _ =>
      obtain ⟨a, ha⟩ := Option.isSome_iff_exists.mp hanswer
      obtain ⟨result, hresult⟩ := haccepts _ a ha
      rw [heard, ha, Option.bind_some, hresult]
      rfl
  | refund hrefund _ _ =>
      rw [htype] at hrefund
      cases hrefund

theorem Sweeps.taken {txns sent : List POSTransaction} {calls : List Call}
    {outcome : Id → Option Outcome} (h : Sweeps rt answer txns w calls outcome sent w')
    (htype : ∀ t ∈ txns, t.txnType = .sale) (haccepts : AcceptsOrders rt answer)
    (hanswer : ∀ q ∈ calls, (answer q).isSome) :
    (∀ t ∈ sent, (outcome t.id).any (·.isTaken)) ∧
      ∀ q ∈ calls, (heard rt answer q).any (·.isTaken) := by
  have hsale : ∀ t ∈ sent, t.txnType = .sale := fun t ht ↦
    htype t (List.mem_filter.mp (h.once.subset ht)).1
  have hanswered : List.Forall₂ (fun q t ↦ (answer q).isSome ∧ Sends w t q ∧
      outcome t.id = heard rt answer q) calls sent :=
    (List.forall₂_and_left ..).mpr ⟨hanswer, h.calls.flip⟩
  have hall : List.Forall₂ (fun t q ↦ (heard rt answer q).any (·.isTaken) ∧
      outcome t.id = heard rt answer q) sent calls := by
    refine ((List.forall₂_and_left ..).mpr ⟨hsale, hanswered.flip⟩).imp ?_
    rintro t q ⟨ht, hq, hsends, hheard⟩
    exact ⟨hsends.taken ht haccepts hq, hheard⟩
  constructor
  · refine ((List.forall₂_and_left _ calls).mp (hall.imp (S := fun t _ ↦
      (outcome t.id).any (·.isTaken) ∧ True) ?_)).1
    rintro t q ⟨htaken, hheard⟩
    rw [hheard]
    exact ⟨htaken, trivial⟩
  · exact ((List.forall₂_and_left _ sent).mp hall.flip).1

/-- **What a sweep reports.**  Whatever Sentry answers, a sweep sends each failed payment at most
once, and makes of each row what Sentry's answer says.  A sweep that comes to its end has sent
all of them but the refunds whose parent is missing; the payments that it reports as succeeded are
those that Sentry has taken, and what it reports as still failing is what the next sweep will scan.
When Sentry takes every order, the sales come to their end and none is left. -/
theorem sweep_reports {r : Except PyExc RetryReport}
    (h : (command rt type).exec World.send answer w = (w', some r)) :
    ∃ outcome sent, Sweeps rt answer (failed w type) w
        ((command rt type).calls World.send answer w) outcome sent w' ∧
      (∀ exc, r = .error exc →
        ∃ q ∈ (command rt type).calls World.send answer w, heard rt answer q = none) ∧
      (∀ report, r = .ok report →
        sent = (failed w type).filter (fun t ↦ ¬ Orphan w t) ∧
        report.scanned = (failedIds w type).length ∧
        (∀ x ∈ failedIds w type, (outcome x).isSome) ∧
        report.succeeded = (failedIds w type).filter (fun x ↦ (outcome x).any (·.isTaken)) ∧
        report.stillFailing = (failedIds w type).filter (fun x ↦ ¬ (outcome x).any (·.isTaken)) ∧
        failedIds w' type = report.stillFailing) ∧
      (AcceptsOrders rt answer → type = .sale →
        ∃ report, r = .ok report ∧ report.succeeded = failedIds w type ∧
          failedIds w' type = []) := by
  have hr : ((command rt type).exec World.send answer w).2 = some r := by rw [h]
  obtain ⟨outcome, sent, hsweeps, hbroken, hreports⟩ :=
    (wp_recording ..).mp (wp_command type w) r hr
  rw [h, List.nil_append] at hsweeps
  rw [List.nil_append] at hbroken
  have hnext : failedIds w' type =
      (failedIds w type).filter fun x ↦ ¬ (outcome x).any (·.isTaken) := hsweeps.swept.failedIds
  refine ⟨outcome, sent, hsweeps, hbroken, ?_, ?_⟩
  · intro report hreport
    obtain ⟨hsent, hscanned, hall, hsucceeded, hfailing⟩ := hreports report hreport
    rw [List.nil_append] at hsucceeded hfailing
    refine ⟨hsent, ?_, hall, hsucceeded, hfailing, hnext.trans hfailing.symm⟩
    rw [hscanned, failedIds, List.length_map]
  · rintro haccepts rfl
    have htype : ∀ t ∈ failed w .sale, t.txnType = .sale := by
      intro t ht
      have hsel := (List.mem_filter.mp ht).2
      rw [decide_eq_true_eq] at hsel
      exact hsel.1
    obtain ⟨hrows, hcalls⟩ := hsweeps.taken htype haccepts
      (Prog.answered_of_exec (hr ▸ Option.isSome_some))
    cases r with
    | error exc =>
        obtain ⟨q, hq, hnone⟩ := hbroken exc rfl
        have htaken := hcalls q hq
        rw [hnone] at htaken
        cases htaken
    | ok report =>
        obtain ⟨hsent, -, -, hsucceeded, -⟩ := hreports report rfl
        have hids : ∀ x ∈ failedIds w .sale, (outcome x).any (·.isTaken) := by
          intro x hx
          obtain ⟨t, ht, rfl⟩ := List.mem_map.mp hx
          apply hrows
          rw [hsent]
          exact List.mem_filter.mpr ⟨ht, decide_eq_true (not_orphan_of_sale (htype t ht))⟩
        refine ⟨report, rfl, ?_, ?_⟩
        · rw [hsucceeded, List.nil_append]
          exact List.filter_eq_self.mpr hids
        · rw [hnext]
          apply List.filter_eq_nil_iff.mpr
          intro x hx
          simp [hids x hx]

end Commands

/-- Sentry takes orders and refunds. -/
def taking : (q : Call) → Option (Answer q)
  | .sentryCreatePosSo _ => some (.ok (.order "SO-1"))
  | .sentryCreatePosRefund _ =>
      some (.ok (.object [(.ofString "refund_so_id", .str (.ofString "RO-1"))]))
  | _ => none

/-- A sale and the refund of another one that Sentry did not take, and a refund whose sale is
missing. -/
def failedDay : World :=
  let refund : POSTransaction :=
    { POSTransaction.sample .refundInventoryUpdateFailed with txnType := .refund }
  { World.sample (.sample .complete) with
    db := { Db.sample (.sample .complete) with
      posTransactions :=
        { rows :=
            [.sample .complete,
              { refund with id := 1, parentTransactionId := some 0 },
              { refund with id := 2, parentTransactionId := some 9 },
              { POSTransaction.sample .inventoryUpdateFailed with id := 3 }]
          nodup := by decide } } }

/-- Sentry takes the sale and the refund; the refund without a sale is left. -/
theorem sweep_reports_day :
    ∃ w₁ w₂ sales refunds,
      (command .sample .sale).exec World.send taking failedDay = (w₁, some (.ok sales)) ∧
      (command .sample .refund).exec World.send taking w₁ = (w₂, some (.ok refunds)) ∧
      sales.succeeded = failedIds failedDay .sale ∧ failedIds w₁ .sale = [] ∧
      ((command .sample .refund).calls World.send taking w₁).length = 1 ∧
      refunds.succeeded = [1] ∧ failedIds w₂ .refund = [2] ∧
      (w₂.db.transaction 0).map (·.refundTransactionId) = some (some 1) := by
  have haccepts : AcceptsOrders .sample taking := by
    intro request a ha
    obtain rfl := Option.some.inj ha
    exact ⟨_, rfl⟩
  obtain ⟨w₁, r₁, hsales⟩ : ∃ w₁ r, (command .sample .sale).exec World.send taking failedDay =
      (w₁, some r) := ⟨_, _, rfl⟩
  obtain ⟨-, -, -, -, -, htaken⟩ := sweep_reports hsales
  obtain ⟨sales, rfl, hsucceeded, hnone⟩ := htaken haccepts rfl
  obtain rfl : ((command .sample .sale).exec World.send taking failedDay).1 = w₁ := by rw [hsales]
  obtain ⟨w₂, hrefunds, hlink⟩ : ∃ w₂, (command .sample .refund).exec World.send taking
      ((command .sample .sale).exec World.send taking failedDay).1 =
        (w₂, some (.ok { scanned := 2, succeeded := [1], stillFailing := [2] })) ∧
      (w₂.db.transaction 0).map (·.refundTransactionId) = some (some 1) := ⟨_, rfl, rfl⟩
  obtain ⟨outcome, sent, hsweeps, -, hends, -⟩ := sweep_reports hrefunds
  obtain ⟨rfl, -, -, -, -, hnext⟩ := hends _ rfl
  exact ⟨_, w₂, sales, _, hsales, hrefunds, hsucceeded, hnone, hsweeps.calls.length_eq.symm, rfl,
    hnext, hlink⟩

end HightowerPos.Sweep
