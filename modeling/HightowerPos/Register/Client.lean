import HightowerPos.Register.Cart

/-!
# The payment flow of the register

`store/checkout.ts` with the components that drive it: `PayPanel`, `CashTenderModal`,
`PaymentInFlight` and `PaymentResult`.  An asynchronous function of a component is a `Task`
that waits for an HTTP response; `Client.receive` is what it does with the response, or
without one.  What a component only shows (the result, the error, the receipt) is left out.
-/

namespace HightowerPos.Register

/-! ## The API -/

/-- The requests of `api/checkout.ts`. -/
inductive HttpRequest
  | start (lines : List Checkout.CartLineIn) (customer : Option Checkout.CustomerAttachIn)
  | chargeCard (transactionId : Id)
  | chargeCash (transactionId : Id) (amountTenderedCents : Cents)
  | status (transactionId : Id)
  | cancel (transactionId : Id)

/-- The bodies of the responses, with the fields that the register reads. -/
inductive Body
  | started (transactionId : Id) (totalCents : Cents)
  | charged (transactionId : Id)
  | tendered
  | status (status : Status) (isTerminal : Bool)
  | cancelled
deriving Repr, DecidableEq

/-! ## `store/checkout.ts` -/

inductive CheckoutPhase
  | idle
  | inFlight
  | tenderingCash
  | result
deriving Repr, DecidableEq

structure CheckoutState where
  phase : CheckoutPhase := .idle
  transactionId : Option Id := none
  totalCents : Cents := 0
  status : Option Status := none
deriving Repr, DecidableEq

namespace CheckoutState

def startedAt (transactionId : Id) (s : CheckoutState) : CheckoutState :=
  { s with
    phase := .inFlight, transactionId := some transactionId, status := some .paymentInFlight }

def startedCash (transactionId : Id) (totalCents : Cents) : CheckoutState where
  phase := .tenderingCash
  transactionId := some transactionId
  totalCents := totalCents
  status := some .awaitingPayment

def finished (status : Status) (s : CheckoutState) : CheckoutState :=
  { s with phase := .result, status := some status }

def failed (s : CheckoutState) : CheckoutState :=
  { s with phase := .result, transactionId := none, status := some .paymentFailed }

def reset : CheckoutState := {}

end CheckoutState

/-- `isSuccessStatus`. -/
def isSuccessStatus (status : Option Status) : Bool := status = some .complete

/-! ## The components -/

/-- An asynchronous function that waits for a response: `handleCard` for `start` and then for
`charge-card`, `handleCash`, `handleTender` for `charge-cash` and then for the status, the two
`handleCancel`s, and the query that polls the status. -/
inductive Task
  | cardStart
  | cardCharge (transactionId : Id)
  | cashStart
  | tender (transactionId : Id)
  | tenderStatus (transactionId : Id)
  | cancelCash (transactionId : Id)
  | cancelCard (transactionId : Id)
  | poll (transactionId : Id)
deriving Repr, DecidableEq

namespace Task

/-- `start.isPending || charge.isPending` of `PayPanel`. -/
def paying : Task → Bool
  | .cardStart | .cardCharge _ | .cashStart => true
  | _ => false

/-- `charge.isPending` of `CashTenderModal`. -/
def tendering : Task → Bool
  | .tender _ => true
  | _ => false

/-- The status is being fetched by the query. -/
def polling : Task → Bool
  | .poll _ => true
  | _ => false

end Task

/-- The register: the cart, the attached customer, the checkout store, and how often the cart
was cleared. -/
structure Client where
  lines : List CartLine
  attached : Option Checkout.CustomerAttachIn := none
  checkout : CheckoutState := {}
  clears : Nat := 0

/-- What the cashier does, and the timer of the status query. -/
inductive Action
  | edit (lines : List CartLine) (attached : Option Checkout.CustomerAttachIn)
  | payCard
  | payCash
  | tender (amountTenderedCents : Cents)
  | cancelCash
  | cancelCard
  | poll
  | done

namespace Client

/-- `canPay` of `PayPanel`. -/
def canPay (c : Client) (isPending : Bool) : Bool :=
  !c.lines.isEmpty && !isPending && c.checkout.phase = .idle

/-- `PaymentResult.handleDone`. -/
def handleDone (c : Client) : Client :=
  if isSuccessStatus c.checkout.status then
    { lines := [], attached := none, checkout := .reset, clears := c.clears + 1 }
  else { c with checkout := .reset }

/-- What an action does when the component offers it, with the request that it sends;
`pending` says of a kind of task whether one is waiting. -/
def act (c : Client) (pending : (Task → Bool) → Bool) :
    Action → Option (Client × Option (Task × HttpRequest))
  | .edit lines attached => some ({ c with lines := lines, attached := attached }, none)
  | .payCard =>
      if c.canPay (pending Task.paying) then
        some (c, some (.cardStart, .start (buildLinesPayload c.lines) c.attached))
      else none
  | .payCash =>
      if c.canPay (pending Task.paying) then
        some (c, some (.cashStart, .start (buildLinesPayload c.lines) c.attached))
      else none
  | .tender amount => match c.checkout.phase, c.checkout.transactionId with
      | .tenderingCash, some x =>
          if c.checkout.totalCents ≤ amount ∧ 0 < c.checkout.totalCents ∧
              !pending Task.tendering then
            some (c, some (.tender x, .chargeCash x amount))
          else none
      | _, _ => none
  | .cancelCash => match c.checkout.phase, c.checkout.transactionId with
      -- the dialog can also be closed while the button is disabled
      | .tenderingCash, some x => some (c, some (.cancelCash x, .cancel x))
      | _, _ => none
  | .cancelCard => match c.checkout.phase, c.checkout.transactionId with
      | .inFlight, some x => some (c, some (.cancelCard x, .cancel x))
      | _, _ => none
  | .poll => match c.checkout.phase, c.checkout.transactionId with
      | .inFlight, some x =>
          if pending Task.polling then none else some (c, some (.poll x, .status x))
      | _, _ => none
  | .done => if c.checkout.phase = .result then some (c.handleDone, none) else none

/-- What a task does with a response, or without one, and the request that it sends then. -/
def receive (c : Client) : Task → Option Body → Client × Option (Task × HttpRequest)
  | .cardStart, some (.started x _) => (c, some (.cardCharge x, .chargeCard x))
  | .cardCharge _, some (.charged x) => ({ c with checkout := c.checkout.startedAt x }, none)
  | .cashStart, some (.started x total) => ({ c with checkout := .startedCash x total }, none)
  | .cardStart, none | .cardCharge _, none | .cashStart, none =>
      ({ c with checkout := c.checkout.failed }, none)
  | .tender x, some _ => (c, some (.tenderStatus x, .status x))
  | .tender _, none => ({ c with checkout := c.checkout.finished .paymentFailed }, none)
  | .tenderStatus _, some (.status s _) => ({ c with checkout := c.checkout.finished s }, none)
  | .tenderStatus _, none => ({ c with checkout := c.checkout.finished .complete }, none)
  | .cancelCash _, _ => ({ c with checkout := .reset }, none)
  | .poll x, some (.status s isTerminal) =>
      -- the component sees the data of its present transaction
      if c.checkout.transactionId = some x ∧ isTerminal then
        ({ c with checkout := c.checkout.finished s }, none)
      else (c, none)
  | _, _ => (c, none)

end Client

end HightowerPos.Register
