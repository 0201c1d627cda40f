import HightowerPos.Service
import HightowerPos.Services.Users

/-!
# The routes

The routes that take a session, but for the four of `auth.py`, with what they depend on:
`get_auth`, which asks for a session of an active user, or `get_current_user`, which also asks
that the user need not change the password.  Most routers take the second; `till.py` and
`admin_users.py` take the first.

What a route answers is left out.  The routes behind `get_current_user` that read, talk to Sentry
or Fabric about items and customers, or import prices are a parameter of `serve`.
-/

namespace HightowerPos

open Async

/-- A route. -/
inductive Route
  | lookupItem
  | listPrices
  | listPriceImports
  | getPrice
  | importPrices
  | startCheckout
  | chargeCash
  | chargeCard
  | checkoutStatus
  | cancelCheckout
  | lookupRefund
  | startRefund
  | chargeCardRefund
  | chargeCashRefund
  | refundStatus
  | cancelRefund
  | openTill
  | currentTill
  | closeTill
  | sessionPdf
  | listSessions
  | listSessionTransactions
  | listTransactions
  | getTransaction
  | retrySentry
  | listFabricOutbox
  | retryFabricOutboxEntry
  | listUsers
  | createUser
  | deactivateUser
  | resetPassword
  | lookupCustomer
  | createCustomer
  | healthDependencies
deriving Repr, DecidableEq

namespace Route

/-- What a route depends on. -/
inductive Dependency
  | getAuth
  | getCurrentUser
deriving Repr, DecidableEq

def dependency : Route → Dependency
  | .openTill | .currentTill | .closeTill | .sessionPdf | .listSessions
  | .listSessionTransactions => .getAuth
  | .listUsers | .createUser | .deactivateUser | .resetPassword => .getAuth
  | .lookupItem | .listPrices | .listPriceImports | .getPrice | .importPrices => .getCurrentUser
  | .startCheckout | .chargeCash | .chargeCard | .checkoutStatus | .cancelCheckout =>
      .getCurrentUser
  | .lookupRefund | .startRefund | .chargeCardRefund | .chargeCashRefund | .refundStatus
  | .cancelRefund => .getCurrentUser
  | .listTransactions | .getTransaction | .retrySentry | .listFabricOutbox
  | .retryFabricOutboxEntry => .getCurrentUser
  | .lookupCustomer | .createCustomer => .getCurrentUser
  | .healthDependencies => .getCurrentUser

/-- The filters of `list_sessions`. -/
structure SessionFilter where
  cashierId : Option String := none
  since : Option Time := none
  upTo : Option Time := none
  status : Option String := some "CLOSED"
  limit : Nat := 50
  offset : Nat := 0

/-- The parameters of a route, of its path, its query and its body; with those of `session_pdf`,
whether the file of the report is there. -/
@[reducible] def Params : Route → Type
  | .lookupItem => Option String × Option String
  | .listPrices => Option String × Nat
  | .listPriceImports => Nat
  | .getPrice => String
  | .importPrices => Option String × List UInt8
  | .startCheckout => List Checkout.CartLineIn × Option Checkout.CustomerAttachIn
  | .chargeCash => Id × Cents
  | .chargeCard | .checkoutStatus | .cancelCheckout | .lookupRefund | .startRefund
  | .chargeCardRefund | .chargeCashRefund | .refundStatus | .cancelRefund => Id
  | .openTill | .closeTill => Denominations
  | .currentTill | .listUsers | .healthDependencies => Unit
  | .sessionPdf => Id × Bool
  | .listSessions => SessionFilter
  | .listSessionTransactions | .getTransaction | .retrySentry | .retryFabricOutboxEntry => Id
  | .listTransactions => Option String × Option String × Nat
  | .listFabricOutbox => Option String × Nat
  | .createUser => String × String
  | .deactivateUser | .resetPassword => String
  | .lookupCustomer | .createCustomer => Option String × Option String × Option String

end Route

namespace Routes

/-- `session_pdf`; `found` says whether the file of the report is there. -/
def sessionPdf (sessionId : Id) (found : Bool) : App Unit := do
  let w ← Prog.read
  match w.db.session sessionId with
  | none => .raise (.http 404 "session_not_found")
  | some session =>
      if session.status ≠ .closed then .raise (.http 404 "session_not_closed")
      else if session.pdfPath.isSome && found then return ()
      else
        match w.db.posUsers.get? session.cashierId with
        | none => .raise (.http 500 "cashier_not_found")
        | some _ =>
            let rendered : Option String ← App.call (.renderCloseReport session)
            match rendered with
            | none => .raise (.http 500 "pdf_render_failed")
            | some path => App.commit fun w ↦ w.updateSession session.id (Till.withPdfPath path)

/-- `list_session_transactions`. -/
def listSessionTransactions (sessionId : Id) : App Unit := do
  let w ← Prog.read
  match w.db.session sessionId with
  | none => .raise (.http 404 "session_not_found")
  | some _ => return ()

/-- A route with its parameters, on the session of a cookie; `other` are the routes whose bodies
are left out. -/
def serve (D : Deployment) (other : (r : Route) → r.Params → App Unit) (token : Option String) :
    (r : Route) → r.Params → App Unit
  | .startCheckout, (lines, customer) => Users.withCurrentUser token fun user ↦
      D.handle (.startCheckout lines user.username customer)
  | .chargeCash, (x, amount) => Users.withCurrentUser token fun _ ↦
      D.handle (.chargeCash x amount)
  | .chargeCard, x => Users.withCurrentUser token fun _ ↦ D.handle (.chargeCard x)
  | .cancelCheckout, x => Users.withCurrentUser token fun _ ↦ D.handle (.cancelCheckout x)
  | .lookupRefund, x => Users.withCurrentUser token fun _ ↦ D.handle (.lookupRefund x)
  | .startRefund, x => Users.withCurrentUser token fun user ↦
      D.handle (.startRefund x user.username)
  | .chargeCardRefund, x => Users.withCurrentUser token fun _ ↦ D.handle (.chargeCardRefund x)
  | .chargeCashRefund, x => Users.withCurrentUser token fun _ ↦ D.handle (.chargeCashRefund x)
  | .cancelRefund, x => Users.withCurrentUser token fun _ ↦ D.handle (.cancelRefund x)
  | .retrySentry, x => Users.withCurrentUser token fun _ ↦ D.handle (.retrySentry x)
  | .retryFabricOutboxEntry, x => Users.withCurrentUser token fun _ ↦
      D.handle (.retryFabricOutboxEntry x)
  | .openTill, counts => Users.withAuth token fun ctx ↦
      D.handle (.openTill ctx.user.username counts)
  | .currentTill, () => Users.withAuth token fun ctx ↦ D.handle (.currentTill ctx.user.username)
  | .closeTill, counts => Users.withAuth token fun ctx ↦
      D.handle (.closeTill ctx.user.username counts)
  | .sessionPdf, (x, found) => Users.withAuth token fun _ ↦ sessionPdf x found
  | .listSessions, _ => Users.withAuth token fun _ ↦ .pure ()
  | .listSessionTransactions, x => Users.withAuth token fun _ ↦ listSessionTransactions x
  | .listUsers, () => Users.withAuth token fun _ ↦ .pure ()
  | .createUser, (username, displayName) => Users.createUser token username displayName
  | .deactivateUser, username => Users.deactivateUser token username
  | .resetPassword, username => Users.resetPassword token username
  | .lookupItem, p => Users.withCurrentUser token fun _ ↦ other .lookupItem p
  | .listPrices, p => Users.withCurrentUser token fun _ ↦ other .listPrices p
  | .listPriceImports, p => Users.withCurrentUser token fun _ ↦ other .listPriceImports p
  | .getPrice, p => Users.withCurrentUser token fun _ ↦ other .getPrice p
  | .importPrices, p => Users.withCurrentUser token fun _ ↦ other .importPrices p
  | .checkoutStatus, p => Users.withCurrentUser token fun _ ↦ other .checkoutStatus p
  | .refundStatus, p => Users.withCurrentUser token fun _ ↦ other .refundStatus p
  | .listTransactions, p => Users.withCurrentUser token fun _ ↦ other .listTransactions p
  | .getTransaction, p => Users.withCurrentUser token fun _ ↦ other .getTransaction p
  | .listFabricOutbox, p => Users.withCurrentUser token fun _ ↦ other .listFabricOutbox p
  | .lookupCustomer, p => Users.withCurrentUser token fun _ ↦ other .lookupCustomer p
  | .createCustomer, p => Users.withCurrentUser token fun _ ↦ other .createCustomer p
  | .healthDependencies, p => Users.withCurrentUser token fun _ ↦ other .healthDependencies p

end Routes

end HightowerPos
