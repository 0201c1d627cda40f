import HightowerPos.Async.Stretch
import HightowerPos.Register.Client
import HightowerPos.Service

/-!
# The register and the service

`routes/checkout.py` serves the requests of the register.  An `Exchange` is a request with what
has become of it: it is on its way, its handler is under way, or the handler is over and the
response on its way back.  A response may be lost at any time, and a request may arrive after
the register has given it up; the handler runs all the same.
-/

namespace HightowerPos.Register

open Async

/-! ## The routes -/

/-- `get_status`, with the fields that the register reads. -/
def getStatus (txnId : Id) : App Body := do
  match ← App.getTransaction txnId with
  | none => .raise (.checkout .transactionNotFound)
  | some txn => return .status txn.status (txn.status ∈ Checkout.terminalStatuses)

/-- The handler of a request from the cashier's register. -/
def serve (D : Deployment) (cashierId : String) : HttpRequest → App Body
  | .start lines customer => do
      let txn ← Checkout.startCheckout D.runtime D.settings lines cashierId customer
      return .started txn.id txn.totalCents
  | .chargeCard x => do
      D.handle (.chargeCard x)
      return .charged x
  | .chargeCash x amount => do
      D.handle (.chargeCash x amount)
      return .tendered
  | .status x => getStatus x
  | .cancel x => do
      D.handle (.cancelCheckout x)
      return .cancelled

/-! ## Exchanges -/

/-- A request is on its way, or it has arrived and its handler has come to a stop. -/
inductive Stage
  | sent
  | served (stop : Stop World Call Answer PyExc Body)

/-- The response that goes out where a handler stops: an error, a body, or what `charge-card`
answers before its poller starts. -/
def responseOf : Stop World Call Answer PyExc Body → Option (Option Body)
  | .over r => some r.toOption
  | .waits (.respond x) _ => some (some (.charged x))
  | .waits _ _ => none

/-- A request of the register, with the response that is out.  `task` waits for it; `cart` is
how often the cart had been cleared when the request was sent, and `row` is the row that the
request has stored. -/
structure Exchange where
  task : Option Task
  cart : Nat
  request : HttpRequest
  stage : Stage := .sent
  response : Option (Option Body) := none
  row : Option Id := none

/-- The exchange where its handler has come to a stop. -/
def Exchange.stopped (e : Exchange) (stop : Stop World Call Answer PyExc Body) : Exchange :=
  { e with stage := .served stop, response := e.response.or (responseOf stop) }

/-- The row that a start has stored. -/
def storedRow (request : HttpRequest) (w w' : World) : Option Id :=
  match request with
  | .start _ _ =>
      let x := w.db.posTransactions.fresh
      (w'.db.transaction x).map fun _ ↦ x
  | _ => none

/-- The register with the service. -/
structure Shop where
  world : World
  client : Client
  exchanges : List Exchange := []

namespace Shop

/-- A task of some kind waits for its response. -/
def pending (c : Shop) (kind : Task → Bool) : Bool :=
  c.exchanges.any fun e ↦ e.task.any kind

/-- The exchange of a request that the register sends. -/
def request (client : Client) (out : Option (Task × HttpRequest)) : List Exchange :=
  (out.map fun o ↦ { task := some o.1, cart := client.clears, request := o.2 }).toList

/-- The register after an action. -/
def act (c : Shop) (a : Action) : Option Shop :=
  (c.client.act c.pending a).map fun (client, out) ↦
    { c with client := client, exchanges := c.exchanges ++ request client out }

/-- The register after a task has got its response, or has given it up. -/
def receive (c : Shop) (l r : List Exchange) (e : Exchange) (task : Task) (body : Option Body) :
    Shop :=
  let (client, out) := c.client.receive task body
  { c with
    client := client
    exchanges := l ++ { e with task := none } :: r ++ request client out }

/-- What may happen to a call of the service and to a response. -/
structure Terms where
  answers : Shop → (q : Call) → Answer q → Prop
  receives : Shop → Task → Option Body → Prop

/-- Everything may happen. -/
def Terms.free : Terms where
  answers _ _ _ := True
  receives _ _ _ := True

/-- One step. -/
inductive Step (D : Deployment) (cashierId : String) (T : Terms) : Shop → Shop → Prop
  | act {c c' : Shop} (a : Action) (h : c.act a = some c') : Step D cashierId T c c'
  | /-- A request arrives, and its handler runs to its first await. -/
    arrive {w : World} {client : Client} {l r : List Exchange} {e : Exchange}
      (he : e.stage = .sent) {w' : World} {stop : Stop World Call Answer PyExc Body}
      (h : (serve D cashierId e.request).stretch World.send w = (w', stop)) :
      Step D cashierId T ⟨w, client, l ++ e :: r⟩
        ⟨w', client, l ++ { e.stopped stop with row := storedRow e.request w w' } :: r⟩
  | /-- A call of a handler is answered. -/
    resume {w : World} {client : Client} {l r : List Exchange} {e : Exchange} {q : Call}
      {k : Answer q → App Body} (he : e.stage = .served (.waits q k)) (a : Answer q)
      (ht : T.answers ⟨w, client, l ++ e :: r⟩ q a) {w' : World}
      {stop : Stop World Call Answer PyExc Body} (h : (k a).stretch World.send w = (w', stop)) :
      Step D cashierId T ⟨w, client, l ++ e :: r⟩
        ⟨w', client, l ++ e.stopped stop :: r⟩
  | /-- The register gets a response. -/
    deliver {w : World} {client : Client} {l r : List Exchange} {e : Exchange} {task : Task}
      {body : Option Body} (he : e.task = some task) (hb : e.response = some body)
      (ht : T.receives ⟨w, client, l ++ e :: r⟩ task body) :
      Step D cashierId T ⟨w, client, l ++ e :: r⟩
        (receive ⟨w, client, l ++ e :: r⟩ l r e task body)
  | /-- A request or its response is lost. -/
    lose {w : World} {client : Client} {l r : List Exchange} {e : Exchange} {task : Task}
      (he : e.task = some task) (ht : T.receives ⟨w, client, l ++ e :: r⟩ task none) :
      Step D cashierId T ⟨w, client, l ++ e :: r⟩
        (receive ⟨w, client, l ++ e :: r⟩ l r e task none)
  | drift {w w' : World} {client : Client} {l : List Exchange} (h : World.Drift w w') :
      Step D cashierId T ⟨w, client, l⟩ ⟨w', client, l⟩

/-- Any number of steps. -/
abbrev Run (D : Deployment) (cashierId : String) (T : Terms) : Shop → Shop → Prop :=
  Relation.ReflTransGen (Step D cashierId T)

/-! ## Payments of a cart -/

/-- The statuses of a captured payment. -/
def capturedStatuses : List Status := [.paymentSuccess, .complete, .inventoryUpdateFailed]

/-- The payment of the transaction is captured. -/
def Captured (c : Shop) (x : Id) : Prop := ∃ s ∈ capturedStatuses, c.world.status x = some s

/-- The transaction was started from the cart that followed `n` clears. -/
def StartedFrom (c : Shop) (x : Id) (n : Nat) : Prop :=
  ∃ e ∈ c.exchanges, e.row = some x ∧ e.cart = n

end Shop

end HightowerPos.Register
