import HightowerPos.Commit

/-!
# What a commit makes of the transactions

The commits of a serial run, for the tables of the transactions and of the outbox: the rows
stay, a row is added, one row advances, or a refund is completed and its sale linked to it.
`Status.leads` is the graph of the statuses.
-/

namespace HightowerPos

open Async

/-! ## The statuses -/

/-- The type of the transactions that can be in a status; `none` for both. -/
def Status.kind : Status → Option TxnType
  | .pendingValidation | .validationFailed | .awaitingPayment | .paymentInFlight
  | .paymentSuccess | .paymentFailed | .inventoryUpdateFailed => some .sale
  | .refundPending | .refundPaymentInFlight | .refundPaymentSuccess | .refundPaymentFailed
  | .refundInventoryUpdateFailed => some .refund
  | .complete | .cancelled => none

/-- The statuses that follow a status. -/
def Status.leads : Status → List Status
  | .pendingValidation => [.awaitingPayment, .validationFailed]
  | .awaitingPayment => [.paymentInFlight, .paymentSuccess, .paymentFailed, .cancelled]
  | .paymentInFlight => [.paymentSuccess, .paymentFailed, .cancelled]
  | .paymentSuccess => [.inventoryUpdateFailed, .complete]
  | .inventoryUpdateFailed => [.inventoryUpdateFailed, .complete]
  | .refundPending =>
      [.refundPaymentInFlight, .refundPaymentSuccess, .refundPaymentFailed, .cancelled]
  | .refundPaymentInFlight => [.refundPaymentSuccess, .refundPaymentFailed, .cancelled]
  | .refundPaymentSuccess => [.refundInventoryUpdateFailed, .complete]
  | .refundInventoryUpdateFailed => [.refundInventoryUpdateFailed, .complete]
  | .validationFailed | .paymentFailed | .complete | .cancelled | .refundPaymentFailed => []

/-- A status is followed by statuses of the same type. -/
theorem Status.kind_of_leads {s s' : Status} (h : s' ∈ s.leads) (hk : s'.kind ≠ none) :
    s.kind = s'.kind := by
  revert s'
  cases s <;> decide

/-- A status in which a transaction stays is of neither type, or of a payment that failed. -/
theorem Status.kind_ne_none_of_leads {s s' : Status} (h : s' ∈ s.leads) : s.kind ≠ none := by
  revert s'
  cases s <;> decide

/-- The statuses of a transaction that is paid, and of which Sentry does not know. -/
def Status.paid : List Status :=
  [.paymentSuccess, .inventoryUpdateFailed, .refundPaymentSuccess, .refundInventoryUpdateFailed]

/-- A refund that blocks others has done so from the start. -/
theorem Status.blocking_of_leads {s s' : Status} (h : s' ∈ s.leads)
    (hs : s' ∈ Refund.refundBlockingStates) (hk : s.kind = some .refund) :
    s ∈ Refund.refundBlockingStates := by
  revert s'
  cases s <;> first | decide | exact nomatch hk

/-! ## Rows that advance -/

/-- What a commit assigns to a row, and what it puts in the outbox. -/
inductive Advances (said : Replies) (t : POSTransaction) :
    TransactionUpdate → Option POSTransaction → Prop
  | moved {u : TransactionUpdate} (hu : Moves said t u) : Advances said t u none
  | cashTaken {amount : Cents} (hs : t.status = .awaitingPayment) (ht : t.txnType = .sale)
      (ha : t.totalCents ≤ amount) :
      Advances said t (Checkout.cashTaken t.totalCents amount) none
  | saleNotSent {error : String} (hs : t.status = .paymentSuccess) :
      Advances said t (Checkout.inventoryUpdateFailed error)
        (some ((Checkout.inventoryUpdateFailed error).set t))
  | saleDone {soId : String} {a : Option Till.Attribution} (hs : t.status = .paymentSuccess) :
      Advances said t (Checkout.completion soId a) (some ((Checkout.complete soId).set t))
  | refundNotSent {error : String} (hs : t.status = .refundPaymentSuccess) :
      Advances said t (Refund.inventoryUpdateFailed error)
        (some ((Refund.inventoryUpdateFailed error).set t))

/-- What a commit assigns to a refund that Sentry has accepted, at once or when it was sent
again. -/
inductive Completes (said : Replies) (t : POSTransaction) :
    TransactionUpdate → Option POSTransaction → Prop
  | done {soId : String} {a : Option Till.Attribution} (hs : t.status = .refundPaymentSuccess) :
      Completes said t (Refund.completion soId a) (some ((Refund.complete soId).set t))
  | retried {soId : String} (hs : t.status = .refundInventoryUpdateFailed)
      (hsaid : said.resent t.id) : Completes said t (Reconciliation.retried soId t.retryCount) none

/-- The columns that a payment assigns. -/
def POSTransaction.receipt (t : POSTransaction) :
    Option PaymentMethod × Option (List Tender) × Option String :=
  (t.paymentMethod, t.tenders, t.windcaveTxnRef)

/-- A row that has advanced keeps its origin and its link, and is in a status that follows.
The payment method of a refund is that of its sale from the start, and what is paid is paid. -/
structure Advanced (t t' : POSTransaction) : Prop where
  origin : t'.origin = t.origin
  link : t'.refundTransactionId = t.refundTransactionId
  status : t'.status ∈ t.status.leads
  method : t.status.kind = some .refund → t'.paymentMethod = t.paymentMethod
  receipt : t.status ∈ Status.paid → t'.receipt = t.receipt

/-- From `s` to `s'`. -/
theorem Advanced.to {t t' : POSTransaction} {s : Status} (s' : Status) (hs : t.status = s)
    (hs' : t'.status = s') (horigin : t'.origin = t.origin)
    (hlink : t'.refundTransactionId = t.refundTransactionId) (h : s' ∈ s.leads := by decide)
    (hmethod : s.kind = some .refund → t'.paymentMethod = t.paymentMethod := by
      first | exact fun _ ↦ rfl | exact fun h ↦ absurd h (by decide))
    (hreceipt : s ∈ Status.paid → t'.receipt = t.receipt := by
      first | exact fun _ ↦ rfl | exact fun h ↦ absurd h (by decide)) :
    Advanced t t' := by
  subst hs hs'
  exact ⟨horigin, hlink, h, hmethod, hreceipt⟩

variable {said : Replies} {t : POSTransaction} {u : TransactionUpdate}
  {held : Option POSTransaction}

theorem Moves.advanced (h : Moves said t u) : Advanced t (u.set t) := by
  cases h with
  | validated hs => exact .to .awaitingPayment hs rfl rfl rfl
  | validationFailed hs => exact .to .validationFailed hs rfl rfl rfl
  | cardUnavailable hs => exact .to .paymentFailed hs rfl rfl rfl
  | cardInFlight hs => exact .to .paymentInFlight hs rfl rfl rfl
  | cardFailed hs hv =>
      rcases hv with rfl | rfl <;> rcases hs with hs | hs <;>
        exact .to .paymentFailed hs rfl rfl rfl
  | cardTaken hs hsaid hst hv =>
      rcases hv with rfl | rfl <;> rcases hs with hs | hs <;>
        exact .to .paymentSuccess hs rfl rfl rfl
  | timedOut hs => exact .to .paymentFailed hs rfl rfl rfl
  | cancelled hs => rcases hs with hs | hs <;> exact .to .cancelled hs rfl rfl rfl
  | refundUnavailable hs => exact .to .refundPaymentFailed hs rfl rfl rfl
  | refundInFlight hs => exact .to .refundPaymentInFlight hs rfl rfl rfl
  | refundFailed hs => rcases hs with hs | hs <;> exact .to .refundPaymentFailed hs rfl rfl rfl
  | cardRefunded hs =>
      rcases hs with ⟨hs, -⟩ | hs <;> exact .to .refundPaymentSuccess hs rfl rfl rfl
  | cashRefunded hs => exact .to .refundPaymentSuccess hs rfl rfl rfl
  | refundTimedOut hs => exact .to .refundPaymentFailed hs rfl rfl rfl
  | refundCancelled hs => rcases hs with hs | hs <;> exact .to .cancelled hs rfl rfl rfl
  | retried hs => exact .to .complete hs rfl rfl rfl
  | retryFailed hs =>
      rcases hs with hs | hs
      · exact .to .inventoryUpdateFailed hs hs rfl rfl
      · exact .to .refundInventoryUpdateFailed hs hs rfl rfl

theorem Advances.advanced (h : Advances said t u held) : Advanced t (u.set t) := by
  cases h with
  | moved hu => exact hu.advanced
  | cashTaken hs => exact .to .paymentSuccess hs rfl rfl rfl
  | saleNotSent hs => exact .to .inventoryUpdateFailed hs rfl rfl rfl
  | @saleDone soId a hs => cases a <;> exact .to .complete hs rfl rfl rfl
  | refundNotSent hs => exact .to .refundInventoryUpdateFailed hs rfl rfl rfl

theorem Completes.advanced (h : Completes said t u held) : Advanced t (u.set t) := by
  cases h with
  | @done soId a hs => cases a <;> exact .to .complete hs rfl rfl rfl
  | retried hs => exact .to .complete hs rfl rfl rfl

theorem Completes.status (h : Completes said t u held) : (u.set t).status = .complete := by
  cases h with
  | @done soId a hs => cases a <;> rfl
  | retried hs => rfl

/-! ## Turns -/

/-- The orders in the outbox: of which transaction, and what is posted. -/
def Db.orders (db : Db) : List (Id × FabricPayload) :=
  db.fabricOutbox.rows.map fun e ↦ (e.posTransactionId, e.payload)

/-- The outbox after `held` was put in it, if there is one. -/
def Enqueued (settings : Settings) (held : Option POSTransaction) (db db' : Db) : Prop :=
  ∃ completedAt, db'.orders = db.orders ++
    held.toList.map fun t ↦ (t.id, FabricOutbox.buildPayload settings t completedAt)

/-- A commit, for the transactions and the outbox. -/
inductive Turn (settings : Settings) (said : Replies) (w w' : World) : Prop
  | idle (hrows : w'.db.posTransactions = w.db.posTransactions)
      (horders : w'.db.orders = w.db.orders)
  | sale {cart : List RichLine} {cashierId : String} {customer : Checkout.CustomerAttachIn}
      (hrows : w'.db.posTransactions = w.db.posTransactions.add
        (Checkout.newSale settings cart cashierId customer w.now))
      (horders : w'.db.orders = w.db.orders)
  | refund {original : POSTransaction} {cashierId : String}
      (hrow : w.db.transaction original.id = some original) (htype : original.txnType = .sale)
      (hstatus : original.status = .complete)
      (hfree : ∀ r t, w.db.transaction r = some t → t.parentTransactionId = some original.id →
        t.status ∉ Refund.refundBlockingStates)
      (hrows : w'.db.posTransactions = w.db.posTransactions.add
        (Refund.newRefund original cashierId w.now))
      (horders : w'.db.orders = w.db.orders)
  | row {t : POSTransaction} {u : TransactionUpdate} {held : Option POSTransaction}
      (hrow : w.db.transaction t.id = some t) (hu : Advances said t u held)
      (hrows : w'.db.posTransactions = w.db.posTransactions.modify t.id (u.touch w.now))
      (horders : Enqueued settings held w.db w'.db)
  | refunded {t original : POSTransaction} {u : TransactionUpdate} {held : Option POSTransaction}
      (hrow : w.db.transaction t.id = some t) (hu : Completes said t u held)
      (horig : t.parentTransactionId.bind w.db.transaction = some original)
      (hrows : w'.db.posTransactions = (w.db.posTransactions.modify t.id
        (u.touch w.now)).modify original.id ((Refund.linked t.id).touch w.now))
      (horders : Enqueued settings held w.db w'.db)

theorem Enqueued.none {settings : Settings} {db db' : Db} (h : db'.orders = db.orders) :
    Enqueued settings none db db' := ⟨0, by simpa using h⟩

/-- The entry of `enqueue` is the last row. -/
theorem Enqueued.some {settings : Settings} {w w' : World} {held : POSTransaction}
    (h : w'.db.fabricOutbox = w.db.fabricOutbox.add (w.entry settings held)) :
    Enqueued settings (some held) w.db w'.db := by
  refine ⟨FabricOutbox.completedAt held w, ?_⟩
  unfold Db.orders
  rw [h]
  simp [Table.add, Table.insert, World.entry, FabricOutbox.newEntry]

variable {settings : Settings} {w w' : World}

/-- The tallies are in another table. -/
theorem Till.commitTally_rows (a : Option Till.Attribution) (w : World) :
    (Till.commitTally a w).db.posTransactions = w.db.posTransactions ∧
      (Till.commitTally a w).db.fabricOutbox = w.db.fabricOutbox := by
  cases a <;> exact ⟨rfl, rfl⟩

theorem turn_saleDone {soId : String} (hrow : w.db.transaction t.id = some t)
    (hs : t.status = .paymentSuccess) : Turn settings said w (w.saleDone settings t soId) :=
  .row hrow (.saleDone (a := w.attribution ((Checkout.complete soId).set t) false) hs)
    (Till.commitTally_rows _ _).1
    (.some (congrArg (Table.add · _) (Till.commitTally_rows _ _).2))

theorem turn_of_commit (h : Commit settings said w w') : Turn settings said w w' := by
  cases h with
  | sale => exact .sale rfl rfl
  | refund hrow htype hstatus hfree => exact .refund hrow htype hstatus hfree rfl rfl
  | moved hrow hu => exact .row hrow (.moved hu) rfl (.none rfl)
  | saleNotSent hrow hs => exact .row hrow (.saleNotSent hs) rfl (.some rfl)
  | saleDone hrow hs => exact turn_saleDone hrow hs
  | refundNotSent hrow hs => exact .row hrow (.refundNotSent hs) rfl (.some rfl)
  | @refundDone t original soId hrow hs horig =>
      exact .refunded hrow
        (.done (a := w.attribution ((Refund.complete soId).set t) true) hs) horig
        (Till.commitTally_rows _ _).1
        (.some (congrArg (Table.add · _) (Till.commitTally_rows _ _).2))
  | refundRetried hrow hs hsaid horig =>
      exact .refunded hrow (.retried hs hsaid) horig rfl (.none rfl)
  | opened | closed | rendered => exact .idle rfl rfl
  | @posted q => cases q <;> exact .idle rfl rfl
  | outbox hsame =>
      have horders := congrArg (List.map Prod.snd) hsame
      rw [List.map_map, List.map_map] at horders
      exact .idle rfl horders

theorem turn_of_cashCommit (h : CashCommit settings w w') : Turn settings said w w' := by
  cases h with
  | taken hrow hs ht ha => exact .row hrow (.cashTaken hs ht ha) rfl (.none rfl)
  | saleDone hrow hs => exact turn_saleDone hrow hs

/-- The state of a serial run moves by turns. -/
theorem Deployment.turns {D : Deployment} (h : D.Reaches said w w') :
    Relation.ReflTransGen (Turn D.settings said) w w' := by
  refine Relation.ReflTransGen.mono (fun w w' hm ↦ ?_) _ _ h
  rcases hm with (hc | hc) | hd
  · exact turn_of_commit hc
  · exact turn_of_cashCommit hc
  · have hdb := World.Drift.db hd
    exact .idle (congrArg Db.posTransactions hdb) (congrArg Db.orders hdb)

end HightowerPos
