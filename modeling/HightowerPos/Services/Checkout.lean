import HightowerPos.Services.Till
import HightowerPos.Services.FabricOutbox

/-!
# Sales

`services/checkout.py`, and the route that leaves a poller behind.  What a commit
assigns is an `Update` of its own, named after what has happened to the sale; the
handlers below are then read next to the source.

A handler passes on the columns it has assigned and not yet committed as `dirty`.
-/

namespace HightowerPos.Checkout

open Async

/-- `TERMINAL_STATUSES`. -/
def terminalStatuses : List Status :=
  [.complete, .paymentFailed, .validationFailed, .inventoryUpdateFailed, .cancelled]

/-! ## What is assigned -/

/-- The validation failed. -/
def validationFailed (error : String) : TransactionUpdate where
  set t := { t with status := .validationFailed, lastError := some error }

/-- The cart is valid. -/
def validated : TransactionUpdate where
  set t := { t with status := .awaitingPayment }

/-- The cash tender of a sale. -/
def cashTender (totalCents amountTenderedCents : Cents) : Tender where
  type := .cash
  amountCents := totalCents
  amountTenderedCents := some amountTenderedCents
  changeCents := some (amountTenderedCents - totalCents)

/-- Cash was taken. -/
def cashTaken (totalCents amountTenderedCents : Cents) : TransactionUpdate where
  set t :=
    { t with
      status := .paymentSuccess
      paymentMethod := some .cash
      tenders := some [cashTender totalCents amountTenderedCents] }

/-- The terminal answered the charge. -/
def charged (rawXml : String) : TransactionUpdate where
  set t := { t with paymentMethod := some .card, windcaveResponseXml := some rawXml }

/-- The charge is under way. -/
def inFlight : TransactionUpdate where
  set t := { t with status := .paymentInFlight }

/-- The payment failed. -/
def paymentFailed (error : String) : TransactionUpdate where
  set t := { t with status := .paymentFailed, lastError := some error }

/-- `txn.windcave_response_xml = status.raw_xml`. -/
def replied (rawXml : String) : TransactionUpdate where
  set t := { t with windcaveResponseXml := some rawXml }

/-- The card tender of a sale; an approved amount of zero counts as missing. -/
def cardTender (totalCents : Cents) (result : WindcaveResult) : Tender where
  type := .card
  amountCents := match result.amountCents with
    | some (n + 1) => n + 1
    | _ => totalCents
  cardBrand := result.cardBrand
  cardLast4 := result.cardLast4
  authCode := result.authCode
  externalRef := result.dpsTxnRef

/-- The card was charged. -/
def cardTaken (totalCents : Cents) (result : WindcaveResult) : TransactionUpdate where
  set t :=
    { t with
      status := .paymentSuccess
      paymentMethod := some .card
      windcaveTxnRef := result.dpsTxnRef
      tenders := some [cardTender totalCents result] }

/-- The cashier cancelled. -/
def cancelled : TransactionUpdate where
  set t := { t with status := .cancelled }

/-- Sentry refused the order. -/
def inventoryUpdateFailed (error : String) : TransactionUpdate where
  set t := { t with status := .inventoryUpdateFailed, lastError := some error }

/-- Sentry has the order. -/
def complete (soId : String) : TransactionUpdate where
  set t := { t with status := .complete, sentrySoId := some soId }

/-! ## Starting a sale -/

/-- `CartLineIn`. -/
structure CartLineIn where
  sku : String
  name : String := ""
  warehouseId : String
  binId : String
  quantity : Int
  isTaxable : Bool := true
deriving Repr, DecidableEq

/-- `CustomerAttachIn`. -/
structure CustomerAttachIn where
  customerId : Option String := none
  name : Option String := none
  email : Option String := none
  phone : Option String := none
deriving Repr, DecidableEq

/-- What `StartRequest` asks of the lines: there is one, and the quantities are positive. -/
def validLines (lines : List CartLineIn) : Bool := lines ≠ [] && lines.all (0 < ·.quantity)

/-- `compute_line_tax`. -/
def computeLineTax (lineSubtotalCents : Cents) (taxRate : Decimal) (taxable : Bool) :
    Except PyExc Cents :=
  if taxable then
    match ((Decimal.ofInt lineSubtotalCents).mul taxRate).quantizeUnit with
    | some tax => .ok tax
    | none => .error .invalidOperation
  else .ok 0

/-- `pricing.get_price_cents`. -/
def getPriceCents (sku : String) : App (Option Cents) := do
  let w ← Prog.read
  return (w.db.posPrices.get? sku).map (·.unitPriceCents)

/-- The first loop of `start_checkout`: the SKUs without a price and the prices. -/
def lookupPrices : List CartLineIn → List String → List (String × Cents) →
    App (List String × List (String × Cents))
  | [], missing, prices => return (missing, prices)
  | line :: lines, missing, prices =>
      if (prices.lookup line.sku).isSome then lookupPrices lines missing prices
      else do
        match ← getPriceCents line.sku with
        | none =>
            lookupPrices lines
              (if line.sku ∈ missing then missing else missing ++ [line.sku]) prices
        | some price => lookupPrices lines missing (prices ++ [(line.sku, price)])

/-- What that loop finds in the tables of `db`. -/
def pricesOf (db : Db) : List CartLineIn → List String → List (String × Cents) →
    List String × List (String × Cents)
  | [], missing, prices => (missing, prices)
  | line :: lines, missing, prices =>
      if (prices.lookup line.sku).isSome then pricesOf db lines missing prices
      else
        match (db.posPrices.get? line.sku).map (·.unitPriceCents) with
        | none =>
            pricesOf db lines (if line.sku ∈ missing then missing else missing ++ [line.sku]) prices
        | some price => pricesOf db lines missing (prices ++ [(line.sku, price)])

/-- The loop only reads. -/
theorem wp_lookupPrices {γ : Type} {C : Calculus World Call Answer γ} {g : γ} {w : World}
    (lines : List CartLineIn) (missing : List String) (prices : List (String × Cents))
    (post : γ → Except PyExc (List String × List (String × Cents)) → World → Prop) :
    (lookupPrices lines missing prices).wp C post g w =
      post g (.ok (pricesOf w.db lines missing prices)) w := by
  induction lines generalizing missing prices with
  | nil => rfl
  | cons line lines ih =>
      unfold lookupPrices pricesOf
      split
      · exact ih missing prices
      · simp only [getPriceCents, wp_bind, wp_read, Prog.pure_eq, wp_pure]
        cases (w.db.posPrices.get? line.sku).map (·.unitPriceCents) with
        | none => exact ih _ prices
        | some price => exact ih missing _

/-- One line of the cart that is stored. -/
def richLine (settings : Settings) (prices : List (String × Cents)) (line : CartLineIn) :
    Except PyExc RichLine := do
  let unitPrice := (prices.lookup line.sku).getD 0
  let lineSubtotal := unitPrice * line.quantity
  let lineTax ← computeLineTax lineSubtotal settings.taxRate line.isTaxable
  return {
    sku := line.sku
    name := line.name
    warehouseId := line.warehouseId
    binId := line.binId
    quantity := line.quantity
    isTaxable := line.isTaxable
    unitPriceCents := unitPrice
    taxCents := lineTax
    lineTotalCents := lineSubtotal + lineTax }

/-- `value or None`. -/
def orNone : Option String → Option String
  | some "" => none
  | value => value

/-- The row that `start_checkout` stores. -/
def newSale (settings : Settings) (cart : List RichLine) (cashierId : String)
    (customer : CustomerAttachIn) (now : Time) : Draft POSTransaction POSTransaction.id where
  build id :=
    let subtotal := (cart.map fun l ↦ l.unitPriceCents * l.quantity).sum
    let tax := (cart.map (·.taxCents)).sum
    { id := id
      status := .pendingValidation
      txnType := .sale
      cart := cart
      subtotalCents := subtotal
      taxCents := tax
      totalCents := subtotal + tax
      cashierId := cashierId
      terminalId := settings.windcaveStation
      customerId := orNone customer.customerId
      customerName := orNone customer.name
      customerEmail := orNone customer.email
      customerPhone := orNone customer.phone
      createdAt := now.timestamp
      updatedAt := now.timestamp }

/-- Store a row under a fresh id; it is returned as `db.refresh` loads it. -/
def storeTransaction (d : Time → Draft POSTransaction POSTransaction.id) :
    App POSTransaction :=
  .atomic (fun w ↦ .ok (w.addTransaction (d w.now))) fun w ↦
    .pure ((d w.now).build w.db.posTransactions.fresh)

/-- `c.model_dump()`. -/
def conflictJson (c : CartConflict) : Json :=
  .object [
    (.ofString "line_index", .int c.lineIndex),
    (.ofString "sku", .str (.ofString c.sku)),
    (.ofString "warehouse_id", .str (.ofString c.warehouseId)),
    (.ofString "bin_id", .str (.ofString c.binId)),
    (.ofString "requested_qty", .int c.requestedQty),
    (.ofString "available_qty", .int c.availableQty),
    (.ofString "reason", .str (.ofString c.reason))]

def cartLine (line : CartLineIn) : CartLine :=
  ⟨line.sku, line.warehouseId, line.binId, line.quantity⟩

/-- The end of `start_checkout`: what Sentry's answer makes of the stored row. -/
def finishStart (rt : Runtime) (txn : POSTransaction) (outcome : Attempts) :
    App POSTransaction := do
  match Sentry.validateCart rt outcome with
  | .error (.sentryClient exc) =>
      let error ← App.bindText (.ofString "sentry_unavailable: " ++ exc.message)
      let _ ← App.saveTransaction txn (validationFailed error)
      .raise (.checkout .sentryUnavailable)
  | .error e => .raise e
  | .ok result =>
      if result.valid then App.saveTransaction txn validated
      else
        let error := (Json.array (result.conflicts.map conflictJson)).dumps
        let _ ← App.saveTransaction txn (validationFailed error)
        .raise (.checkout (.validationFailed result.conflicts))

/-- `start_checkout`. -/
def startCheckout (rt : Runtime) (settings : Settings) (lines : List CartLineIn)
    (cashierId : String) (customer : Option CustomerAttachIn) : App POSTransaction := do
  let (missing, prices) ← lookupPrices lines [] []
  if missing ≠ [] then .raise (.checkout (.priceMissing missing))
  else
    let cart ← App.ofExcept (lines.mapM (richLine settings prices))
    let txn ← storeTransaction fun now ↦ newSale settings cart cashierId (customer.getD {}) now
    let outcome ← App.call (.sentryValidateCart (lines.map cartLine))
    finishStart rt txn outcome

/-! ## Sending the order -/

/-- `f"{exc.error_code or 'unknown'}: {exc}"`. -/
def errorText (exc : SentryClientError) : PyStr :=
  exc.errorCode.getD (.ofString "unknown") ++ (.ofString ": " ++ exc.message)

def checkoutLine (line : RichLine) : CheckoutLine where
  sku := line.sku
  warehouseId := line.warehouseId
  binId := line.binId
  quantity := line.quantity
  unitPriceCents := line.unitPriceCents
  taxCents := line.taxCents
  lineTotalCents := line.lineTotalCents

/-- `_build_checkout_request`. -/
def buildCheckoutRequest (txn : POSTransaction) (method : PaymentMethod) (now : Time) :
    CheckoutRequest where
  idempotencyKey := txn.id
  externalTxnRef := txn.windcaveTxnRef
  cashierId := txn.cashierId
  terminalId := txn.terminalId
  completedAt := now
  paymentSummary :=
    { method := method
      subtotalCents := txn.subtotalCents
      taxCents := txn.taxCents
      totalCents := txn.totalCents
      tenders := txn.tenders.getD [] }
  lines := txn.cart.map checkoutLine

/-- What a sale that Sentry has accepted is assigned, with the stamp of its session. -/
def completion (soId : String) : Option Till.Attribution → TransactionUpdate
  | none => complete soId
  | some a => (complete soId).andThen a.stamp

theorem completion_status (soId : String) (a : Option Till.Attribution) (t : POSTransaction) :
    ((completion soId a).set t).status = .complete := by
  cases a <;> rfl

/-- The last commit of a sale that Sentry has accepted. -/
def commitComplete (txn : POSTransaction) (soId : String)
    (attribution : Option Till.Attribution)
    (entry : Draft FabricOutboxEntry FabricOutboxEntry.id) (w : World) : World :=
  let w := w.updateTransaction txn.id (completion soId attribution)
  (Till.commitTally attribution w).addOutboxEntry entry

/-- What Sentry's answer makes of a paid sale. -/
def finishSend (rt : Runtime) (settings : Settings) (txn : POSTransaction)
    (request : CheckoutRequest) (outcome : Attempts) : App Unit := do
  match Sentry.createPosSo rt outcome with
  | .error (.sentryClient exc) =>
      let error ← App.bindText (errorText exc)
      let entry ← FabricOutbox.enqueue settings ((inventoryUpdateFailed error).set txn)
      App.commit fun w ↦
        (w.updateTransaction txn.id (inventoryUpdateFailed error)).addOutboxEntry entry
      -- whatever this call raises is logged and dropped
      let _ ← App.call (.sentryLogInboundActivity "checkout_failed_post_payment"
        (.checkout request) exc.message)
      return ()
  | .error e => .raise e
  | .ok result =>
      let txn := (complete result.soId).set txn
      let attribution ← Till.attributeTransaction txn false
      let entry ← FabricOutbox.enqueue settings txn
      App.commit (commitComplete txn result.soId attribution entry)

/-- `_send_to_sentry`. -/
def sendToSentry (rt : Runtime) (settings : Settings) (txn : POSTransaction)
    (method : PaymentMethod) : App Unit := do
  let w ← Prog.read
  let request := buildCheckoutRequest txn method w.now
  let outcome ← App.call (.sentryCreatePosSo request)
  finishSend rt settings txn request outcome

/-! ## Paying -/

/-- `_load_for_payment`. -/
def loadForPayment (txnId : Id) : App POSTransaction := do
  match ← App.getTransaction txnId with
  | none => .raise (.checkout .transactionNotFound)
  | some txn =>
      if txn.txnType ≠ .sale then .raise (.checkout (.invalidState txn.status))
      else if txn.status ≠ .awaitingPayment then
        .raise (.checkout (.invalidState txn.status))
      else return txn

/-- A row that may be paid, or a refusal. -/
theorem wp_loadForPayment {γ : Type} {C : Calculus World Call Answer γ} {g : γ} {w : World}
    {txnId : Id} {post : γ → Except PyExc POSTransaction → World → Prop}
    (hok : ∀ txn, w.db.transaction txnId = some txn → txn.txnType = .sale →
      txn.status = .awaitingPayment → post g (.ok txn) w)
    (herr : ∀ e, post g (.error (.checkout e)) w) :
    (loadForPayment txnId).wp C post g w := by
  unfold loadForPayment
  simp only [wp_bind, App.wp_getTransaction]
  cases hrow : w.db.transaction txnId with
  | none => exact herr _
  | some txn =>
      by_cases htype : txn.txnType = .sale
      · by_cases hstatus : txn.status = .awaitingPayment
        · simpa [htype, hstatus] using hok txn hrow htype hstatus
        · simpa [htype, hstatus] using herr _
      · simpa [htype] using herr _

/-- `charge_cash`. -/
def chargeCash (rt : Runtime) (settings : Settings) (txnId : Id)
    (amountTenderedCents : Cents) : App Unit := do
  let txn ← loadForPayment txnId
  if amountTenderedCents < txn.totalCents then
    .raise (.checkout (.insufficientTender txn.totalCents))
  else
    let txn ← App.saveTransaction txn (cashTaken txn.totalCents amountTenderedCents)
    sendToSentry rt settings txn .cash

/-- The text of a decline. -/
def declineText (status : WindcaveStatusResponse) : String :=
  match status.result with
  | none => "declined"
  | some result =>
      let reason := ((orNone result.responseText).orElse fun _ ↦ result.responseCode).getD "None"
      s!"declined: {reason}"

/-- `_finalize_card_charge`. -/
def finalizeCardCharge (rt : Runtime) (settings : Settings) (txn : POSTransaction)
    (dirty : TransactionUpdate) (status : WindcaveStatusResponse) : App Unit := do
  let dirty := dirty.andThen (replied status.rawXml)
  if status.signatureRequired then
    let _ ← App.saveTransaction txn
      (dirty.andThen (paymentFailed "signature verification required (not supported in v1)"))
    return ()
  else if !status.approved then
    let _ ← App.saveTransaction txn (dirty.andThen (paymentFailed (declineText status)))
    return ()
  else
    match status.result with
    | none => .raise .assertion
    | some result =>
        let txn ← App.saveTransaction txn (dirty.andThen (cardTaken txn.totalCents result))
        sendToSentry rt settings txn .card

/-- `charge_card`; it returns whether the charge is still under way. -/
def chargeCard (rt : Runtime) (settings : Settings) (txnId : Id) : App Bool := do
  let txn ← loadForPayment txnId
  App.ofExcept (Windcave.formatAmount txn.totalCents)
  let initial : Except PyExc WindcaveStatusResponse ←
    App.call (.windcaveCharge txn.totalCents txn.id)
  match initial with
  | .error (.windcaveClient message) =>
      let _ ← App.saveTransaction txn (paymentFailed s!"windcave_unavailable: {message}")
      .raise (.checkout .windcaveUnavailable)
  | .error e => .raise e
  | .ok initial =>
      if initial.complete then
        finalizeCardCharge rt settings txn (charged initial.rawXml) initial
        return false
      else
        let _ ← App.saveTransaction txn ((charged initial.rawXml).andThen inFlight)
        return true

/-! ## Polling -/

/-- The loop of the pollers, from a time on its own clock; `fuel` bounds the iterations
the model follows. -/
def pollLoop (settings : Settings) (txnId : Id) :
    (fuel : Nat) → (elapsedMs : Int) → App (Option WindcaveStatusResponse)
  | 0, elapsedMs =>
      if elapsedMs < settings.windcaveMaxPollDurationS * 1000 then do
        let never ← App.call (.pollOn txnId)
        nomatch never
      else return none
  | fuel + 1, elapsedMs =>
      if elapsedMs < settings.windcaveMaxPollDurationS * 1000 then do
        let current : Except PyExc WindcaveStatusResponse ←
          App.call (.windcaveStatus txnId elapsedMs)
        match current with
        | .error (.windcaveClient _) =>
            let _ ← App.call (.pollSleep txnId elapsedMs)
            pollLoop settings txnId fuel (elapsedMs + settings.windcavePollIntervalMs)
        | .error e => .raise e
        | .ok current =>
            if current.complete then return some current
            else
              let _ ← App.call (.pollSleep txnId elapsedMs)
              pollLoop settings txnId fuel (elapsedMs + settings.windcavePollIntervalMs)
      else return none

/-- What is asked of one iteration of the poll loop, when `J` is asked at its end. -/
def PollStep {γ : Type} (C : Calculus World Call Answer γ) (txnId : Id)
    (post : γ → Except PyExc (Option WindcaveStatusResponse) → World → Prop)
    (J : γ → World → Prop) (elapsedMs : Int) (g : γ) (w : World) :
    Except PyExc WindcaveStatusResponse → Prop
  | .error (.windcaveClient _) =>
      C.await g w (.pollSleep txnId elapsedMs) fun _ g w ↦ J g w
  | .error e => post g (.error e) w
  | .ok current =>
      if current.complete then post g (.ok (some current)) w
      else C.await g w (.pollSleep txnId elapsedMs) fun _ g w ↦ J g w

/-- The deadline of the pollers has passed. -/
def PastDeadline (settings : Settings) (elapsedMs : Int) : Prop :=
  settings.windcaveMaxPollDurationS * 1000 ≤ elapsedMs

/-- The rule of the poll loop: `J` is its invariant, at each time on the poller's
clock. -/
theorem wp_pollLoop {γ : Type} {C : Calculus World Call Answer γ} {settings : Settings}
    {txnId : Id} {post : γ → Except PyExc (Option WindcaveStatusResponse) → World → Prop}
    {J : Int → γ → World → Prop}
    (hend : ∀ e g w, PastDeadline settings e → J e g w → post g (.ok none) w)
    (hon : ∀ e g w, J e g w → C.await g w (.pollOn txnId) fun _ _ _ ↦ True)
    (hask : ∀ e g w, J e g w → C.await g w (.windcaveStatus txnId e) fun a g' w' ↦
      PollStep C txnId post (J (e + settings.windcavePollIntervalMs)) e g' w' a)
    (fuel : Nat) {elapsedMs : Int} {g : γ} {w : World} (h : J elapsedMs g w) :
    (pollLoop settings txnId fuel elapsedMs).wp C post g w := by
  induction fuel generalizing elapsedMs g w with
  | zero =>
      unfold pollLoop
      split
      · exact C.mono (fun a _ _ _ ↦ nomatch a) (hon _ g w h)
      · next he => exact hend _ g w (not_lt.mp he) h
  | succ fuel ih =>
      unfold pollLoop
      split
      · rw [wp_bind]
        refine C.mono (fun a g' w' ha ↦ ?_) (hask elapsedMs g w h)
        have hsleep : (C.await g' w' (.pollSleep txnId elapsedMs) fun _ g w ↦
              J (elapsedMs + settings.windcavePollIntervalMs) g w) →
            C.await g' w' (.pollSleep txnId elapsedMs) fun _ g w ↦
              (pollLoop settings txnId fuel
                (elapsedMs + settings.windcavePollIntervalMs)).wp C post g w :=
          C.mono fun _ _ _ hJ ↦ ih hJ
        cases a with
        | error e => cases e <;> first | exact ha | exact hsleep ha
        | ok current =>
            by_cases hc : current.complete = true
            · simpa only [PollStep, wp_pure, Prog.pure_eq, hc, if_true] using ha
            · simp only [PollStep, wp_pure, hc, if_false, Bool.false_eq_true] at ha ⊢
              exact hsleep ha
      · next he => exact hend _ g w (not_lt.mp he) h

/-- The end of `poll_card_until_complete`. -/
def finishPoll (rt : Runtime) (settings : Settings) (txnId : Id)
    (finalStatus : Option WindcaveStatusResponse) : App Unit := do
  match ← App.getTransaction txnId with
  | none => return ()
  | some txn =>
      if txn.status ≠ .paymentInFlight then return ()
      else
        match finalStatus with
        | none =>
            let _ ← App.saveTransaction txn (paymentFailed "polling_timeout")
            return ()
        | some status => finalizeCardCharge rt settings txn .id status

/-- `poll_card_until_complete`. -/
def pollCardUntilComplete (rt : Runtime) (settings : Settings) (fuel : Nat) (txnId : Id) :
    App Unit := do
  let finalStatus ← pollLoop settings txnId fuel 0
  finishPoll rt settings txnId finalStatus

/-- The route of `charge_card`: a charge that is under way leaves a poller behind. -/
def chargeCardRoute (rt : Runtime) (settings : Settings) (fuel : Nat) (txnId : Id) :
    App Unit := do
  if ← chargeCard rt settings txnId then
    let _ ← App.call (.respond txnId)
    pollCardUntilComplete rt settings fuel txnId
  else return ()

/-! ## Cancelling -/

/-- `cancel_checkout`. -/
def cancelCheckout (txnId : Id) : App Unit := do
  match ← App.getTransaction txnId with
  | none => .raise (.checkout .transactionNotFound)
  | some txn =>
      if txn.status ≠ .awaitingPayment ∧ txn.status ≠ .paymentInFlight then
        .raise (.checkout (.invalidState txn.status))
      else if txn.status = .paymentInFlight ∧ txn.paymentMethod = some .card then
        let answer : Except PyExc Bool ← App.call (.windcaveCancel txn.id)
        match answer with
        | .error (.windcaveClient _) | .ok _ =>
            let _ ← App.saveTransaction txn cancelled
            return ()
        | .error e => .raise e
      else
        let _ ← App.saveTransaction txn cancelled
        return ()

end HightowerPos.Checkout
