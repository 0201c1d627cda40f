import HightowerPos.Data.Table
import HightowerPos.Python.Decimal

/-!
# The data model

The tables of `models.py` and the settings of `config.py`, with the columns and the
settings that the modelled services read or write.

* Money is `Int` cents, and integer columns are unbounded: amounts beyond 64 bits are
  out of scope.
* A uuid is a natural number; rows are stored under a fresh one (`Table.add`).
* A time is in microseconds.  `func.now()` is SQLite's `CURRENT_TIMESTAMP`, which
  counts whole seconds.
* `cart_json`, `tenders_json`, `payload_json` and the denomination columns hold the
  value whose JSON text the service stores: it is the only writer and reads the text
  back with `json.loads`.
-/

namespace HightowerPos

abbrev Id := Nat
abbrev Cents := Int
/-- Microseconds. -/
abbrev Time := Int

/-- `CURRENT_TIMESTAMP`: whole seconds. -/
def Time.timestamp (t : Time) : Time := t / 1000000 * 1000000

/-! ## Settings -/

/-- The settings the modelled services read.  `taxRate` is the decimal that
`Decimal(str(tax_rate))` makes of the float. -/
structure Settings where
  taxRate : Decimal
  windcaveStation : String
  windcaveDeviceId : String
  windcaveCurrency : String
  windcavePollIntervalMs : Int
  windcaveMaxPollDurationS : Int
  refundWindowDays : Int
  fabricOutboxDrainIntervalS : Int
  fabricOutboxBatchSize : Nat

/-! ## Transactions -/

/-- `pos_transactions.status`. -/
inductive Status
  | pendingValidation
  | validationFailed
  | awaitingPayment
  | paymentInFlight
  | paymentSuccess
  | paymentFailed
  | inventoryUpdateFailed
  | complete
  | cancelled
  | refundPending
  | refundPaymentInFlight
  | refundPaymentSuccess
  | refundPaymentFailed
  | refundInventoryUpdateFailed
deriving Repr, DecidableEq

inductive TxnType
  | sale
  | refund
deriving Repr, DecidableEq

inductive PaymentMethod
  | cash
  | card
deriving Repr, DecidableEq

/-- One line of `cart_json`. -/
structure RichLine where
  sku : String
  name : String
  warehouseId : String
  binId : String
  quantity : Int
  isTaxable : Bool
  unitPriceCents : Cents
  taxCents : Cents
  lineTotalCents : Cents
deriving Repr, DecidableEq

/-- One entry of `tenders_json`. -/
structure Tender where
  type : PaymentMethod
  amountCents : Cents
  cardBrand : Option String := none
  cardLast4 : Option String := none
  authCode : Option String := none
  externalRef : Option String := none
  amountTenderedCents : Option Cents := none
  changeCents : Option Cents := none
deriving Repr, DecidableEq

/-- A row of `pos_transactions`. -/
structure POSTransaction where
  id : Id
  status : Status
  txnType : TxnType
  parentTransactionId : Option Id := none
  refundTransactionId : Option Id := none
  cart : List RichLine
  subtotalCents : Cents
  taxCents : Cents
  totalCents : Cents
  paymentMethod : Option PaymentMethod := none
  tenders : Option (List Tender) := none
  windcaveTxnRef : Option String := none
  windcaveResponseXml : Option String := none
  sentrySoId : Option String := none
  cashierId : String
  terminalId : String
  customerId : Option String := none
  customerName : Option String := none
  customerEmail : Option String := none
  customerPhone : Option String := none
  lastError : Option String := none
  retryCount : Nat := 0
  tillSessionId : Option Id := none
  createdAt : Time
  updatedAt : Time
deriving Repr, DecidableEq

/-! ## Till sessions -/

inductive TillStatus
  | «open»
  | closed
deriving Repr, DecidableEq

/-- A denomination count: `{"hundred": 1, "fifty": 2, …}`. -/
abbrev Denominations := List (String × Int)

/-- A row of `till_sessions`. -/
structure TillSession where
  id : Id
  cashierId : String
  terminalId : String
  status : TillStatus
  openingFloatCents : Cents
  openingDenominations : Denominations
  closingCountCents : Option Cents := none
  closingDenominations : Option Denominations := none
  expectedClosingCents : Option Cents := none
  varianceCents : Option Cents := none
  cashSalesCents : Cents := 0
  cashRefundsCents : Cents := 0
  transactionCount : Int := 0
  cashTransactionCount : Int := 0
  openedAt : Time
  closedAt : Option Time := none
  pdfPath : Option String := none
deriving Repr, DecidableEq

/-! ## The Fabric outbox -/

inductive OutboxStatus
  | pending
  | inFlight
  | delivered
  | dlq
deriving Repr, DecidableEq

/-- The sales order of `build_payload`.  Its fields `source`, `fulfillment_channel` and
`status` are the literals `"POS"`, `"Store"` and `"shipped"`, and are left out. -/
structure FabricPayload where
  externalSoRef : Id
  sentrySoId : Option String
  txnType : TxnType
  parentTransactionId : Option Id
  registerId : String
  cashierId : String
  terminalId : String
  completedAt : Time
  currency : String
  subtotalCents : Cents
  taxCents : Cents
  totalCents : Cents
  paymentMethod : Option PaymentMethod
  customerId : Option String
  customerName : Option String
  customerEmail : Option String
  customerPhone : Option String
  lines : List RichLine
deriving Repr, DecidableEq

/-- A row of `fabric_outbox`. -/
structure FabricOutboxEntry where
  id : Id
  posTransactionId : Id
  payload : FabricPayload
  status : OutboxStatus
  attemptCount : Nat := 0
  nextAttemptAt : Time
  lastError : Option String := none
  fabricSoId : Option String := none
  createdAt : Time
  updatedAt : Time
deriving Repr, DecidableEq

/-! ## Prices and users -/

/-- A row of `pos_prices`. -/
structure POSPrice where
  sku : String
  unitPriceCents : Cents
  updatedAt : Time := 0
deriving Repr, DecidableEq

/-- Why `import_csv` rejects a row. -/
inductive RejectReason
  | missingColumns
  | emptySku
  | priceNotNumeric
  | priceNegative
deriving Repr, DecidableEq

/-- `RejectedLine`. -/
structure RejectedLine where
  row : Nat
  raw : String
  reason : RejectReason
deriving Repr, DecidableEq

/-- A row of `pos_price_imports`. -/
structure POSPriceImport where
  id : Id
  filename : String
  rowsImported : Nat
  rowsRejected : Nat
  rejectedLines : Option (List RejectedLine)
  importedBy : String
  createdAt : Time
deriving Repr, DecidableEq

/-- A row of `pos_users`. -/
structure POSUser where
  username : String
  displayName : String := ""
  isActive : Bool := true
  mustChangePassword : Bool := false
deriving Repr, DecidableEq

/-- A row of `pos_sessions`. -/
structure POSSession where
  sessionToken : String
  username : String
  expiresAt : Time
deriving Repr, DecidableEq

/-! ## The database -/

abbrev TransactionUpdate := Update POSTransaction POSTransaction.id
abbrev TillUpdate := Update TillSession TillSession.id
abbrev OutboxUpdate := Update FabricOutboxEntry FabricOutboxEntry.id

@[simp] theorem TransactionUpdate.id_set (u : TransactionUpdate) (t : POSTransaction) :
    (u.set t).id = t.id := u.keeps t

@[simp] theorem TillUpdate.id_set (u : TillUpdate) (s : TillSession) :
    (u.set s).id = s.id := u.keeps s

@[simp] theorem OutboxUpdate.id_set (u : OutboxUpdate) (e : FabricOutboxEntry) :
    (u.set e).id = e.id := u.keeps e

/-- The tables. -/
structure Db where
  posTransactions : Table POSTransaction POSTransaction.id
  tillSessions : Table TillSession TillSession.id
  fabricOutbox : Table FabricOutboxEntry FabricOutboxEntry.id
  posPrices : Table POSPrice POSPrice.sku
  posUsers : Table POSUser POSUser.username
  posSessions : Table POSSession POSSession.sessionToken := .empty
  posPriceImports : Table POSPriceImport POSPriceImport.id := .empty

namespace Db

/-- `db.get(POSTransaction, id)`. -/
def transaction (db : Db) (id : Id) : Option POSTransaction := db.posTransactions.get? id

/-- `db.get(TillSession, id)`. -/
def session (db : Db) (id : Id) : Option TillSession := db.tillSessions.get? id

/-- `db.get(FabricOutboxEntry, id)`. -/
def outboxEntry (db : Db) (id : Id) : Option FabricOutboxEntry := db.fabricOutbox.get? id

end Db

end HightowerPos
