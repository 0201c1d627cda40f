import HightowerPos.Async.Monitor
import HightowerPos.Python.Datetime

/-!
# The print agent

`print_agent`: the wrapper `StarTSP100` around a USB printer, the endpoints of `agent.py` and the
callbacks of the tray.  FastAPI serves each request in a thread of a pool, and the tray has a
thread of its own, so that a request may be interrupted at each access to a global or to an
attribute, and at each call of the driver.

What python-escpos does is left to the answers: each call of a driver returns or raises, and
`_connect` gives a driver or raises.  The end of the process is the end of a run.
-/

namespace HightowerPos.PrintAgent

open Async

/-- `print_agent.__version__`. -/
def version : String := "0.1.0"

/-- The settings that the agent reads while it runs. -/
structure Settings where
  allowedOrigin : String := "http://pos-vm.local:8080"
  drawerPin : Int := 2
  printTestOnStartup : Bool := true

/-! ## State and calls -/

abbrev StarId := Nat
abbrev Driver := Nat

/-- The attributes of a `StarTSP100`; `reconnect` says whether there is a `_reconnect`. -/
structure StarTSP100 where
  driver : Option Driver
  reconnect : Bool
deriving Repr, DecidableEq

/-- The objects, the globals `_printer` and `_last_print_at`, and the clock. -/
structure Agent where
  stars : List StarTSP100 := []
  printer : Option StarId := none
  lastPrintAt : Option Time := none
  now : Time := 0

/-- What the agent raises. -/
inductive Exc
  | runtime (message : String)
  | driver (message : String)
  | http (statusCode : Nat) (error : String) (message : Option String)
deriving Repr, DecidableEq

/-- `str(exc)`. -/
def Exc.message : Exc → String
  | runtime message | driver message => message
  | http _ error _ => error

/-- `PrintRequest`. -/
structure PrintRequest where
  format : String := "text"
  content : String
  cut : Bool := true
  openDrawerAfter : Bool := false
deriving Repr, DecidableEq

/-- What a request is answered. -/
inductive Response
  | preflight
  | printed
  | drawerOpened
  | status (printerOnline : Bool) (lastPrintAt : Option Time)
  | error (statusCode : Nat) (error : String) (message : Option String)
deriving Repr, DecidableEq

/-- The calls of the drivers, and the response to the client.  A call carries the object whose
driver it is. -/
inductive Command
  | text (star : StarId) (driver : Driver) (text : String)
  | cut (star : StarId) (driver : Driver)
  | cashdraw (star : StarId) (driver : Driver) (pin : Int)
  | isOnline (star : StarId) (driver : Driver)
  | close (star : StarId) (driver : Driver)
  | connect
  | respond (r : Response)
deriving Repr, DecidableEq

@[reducible] def Command.Answer : Command → Type
  | .text _ _ _ | .cut _ _ | .cashdraw _ _ _ | .close _ _ => Except Exc Unit
  | .isOnline _ _ => Except Exc Bool
  | .connect => Except Exc Driver
  | .respond _ => Unit

instance (c : Command) : Nonempty c.Answer := by
  cases c with
  | respond r => exact ⟨()⟩
  | _ => exact ⟨.error (.driver "")⟩

/-- What is done under the lock of an object. -/
inductive Job
  | printText (text : String) (cut : Bool)
  | openDrawer (pin : Int)
deriving Repr, DecidableEq

/-- Code of the agent. -/
abbrev App := Code Agent StarId Job Command Command.Answer Exc

/-- `return` or `raise`. -/
def ofExcept {α : Type} : Except Exc α → App α
  | .ok a => .pure a
  | .error e => .raise e

/-- A call of a driver, which returns or raises. -/
def attempt {α : Type} (c : Command) (result : c.Answer → Except Exc α) : App α :=
  .await (.command c) fun a ↦ ofExcept (result a)

/-- `self._driver`. -/
def Agent.driver (s : Agent) (self : StarId) : Option Driver := (s.stars[self]?).bind (·.driver)

/-- `self._driver = driver`. -/
def Agent.setDriver (s : Agent) (self : StarId) (d : Driver) : Agent :=
  { s with stars := s.stars.modify self fun star ↦ { star with driver := some d } }

/-! ## `StarTSP100` -/

namespace StarTSP100

/-- The property `driver`. -/
def driverOf (self : StarId) : App Driver := do
  let s ← Prog.read
  match s.driver self with
  | none => .raise (.runtime "printer driver not initialised")
  | some d => return d

/-- `self.driver.text(text)`, and `self.driver.cut(mode="PART")` when it is asked for. -/
def emit (self : StarId) (text : String) (cut : Bool) : App Unit := do
  let d ← driverOf self
  attempt (.text self d text) id
  if cut then do
    let d ← driverOf self
    attempt (.cut self d) id

/-- `self.driver.cashdraw(pin)`. -/
def kick (self : StarId) (pin : Int) : App Unit := do
  let d ← driverOf self
  attempt (.cashdraw self d pin) id

/-- `driver.close()`, with every exception swallowed. -/
def closeQuietly (self : StarId) (d : Driver) : App Unit :=
  (attempt (.close self d) id).catching fun _ ↦ .pure ()

/-- `_try_reconnect`, in a handler of `e`. -/
def tryReconnect (self : StarId) (e : Exc) : App Unit := do
  let s ← Prog.read
  if ((s.stars[self]?).map (·.reconnect)).getD false then do
    let s ← Prog.read
    match s.driver self with
    | some d => closeQuietly self d
    | none => .pure ()
    let d ← attempt .connect id
    Prog.commit fun s ↦ .ok (s.setDriver self d)
  else .raise e

/-- `print_text`. -/
def printText (self : StarId) (text : String) (cut : Bool) : App Unit :=
  Code.holding self (.printText text cut) ((emit self text cut).catching fun e ↦ do
    tryReconnect self e
    emit self text cut)

/-- `open_drawer`. -/
def openDrawer (self : StarId) (pin : Int) : App Unit :=
  Code.holding self (.openDrawer pin) ((kick self pin).catching fun e ↦ do
    tryReconnect self e
    kick self pin)

/-- `is_online`, which takes no lock. -/
def isOnline (self : StarId) : App Bool :=
  Prog.catching (do
    let d ← driverOf self
    attempt (.isOnline self d) id) fun _ ↦ .pure false

/-- `close`, which takes no lock. -/
def close (self : StarId) : App Unit := do
  let s ← Prog.read
  match s.driver self with
  | none => return ()
  | some _ => do
      let s ← Prog.read
      match s.driver self with
      | none => return ()
      | some d => closeQuietly self d

/-- `open_usb`. -/
def openUsb : App StarId := do
  let d ← attempt .connect id
  .atomic (fun s ↦ .ok { s with stars := s.stars ++ [⟨some d, true⟩] }) fun s ↦
    .pure s.stars.length

end StarTSP100

/-! ## Endpoints -/

/-- `get_printer`. -/
def getPrinter : App StarId := do
  let s ← Prog.read
  match s.printer with
  | none => .raise (.http 503 "printer_not_initialised" none)
  | some star => return star

/-- `_last_print_at = datetime.now(UTC)`. -/
def stamp : App Unit := Prog.commit fun s ↦ .ok { s with lastPrintAt := some s.now }

/-- `print_endpoint`. -/
def printEndpoint (S : Settings) (body : PrintRequest) : App Response := do
  let printer ← getPrinter
  if body.format = "text" then do
    Prog.catching (do
      StarTSP100.printText printer body.content body.cut
      if body.openDrawerAfter then StarTSP100.openDrawer printer S.drawerPin)
      fun e ↦ .raise (.http 503 "printer_offline" (some e.message))
    stamp
    return .printed
  else .raise (.http 422 "string_pattern_mismatch" none)

/-- `open_drawer_endpoint`. -/
def openDrawerEndpoint (S : Settings) : App Response := do
  let printer ← getPrinter
  Prog.catching (StarTSP100.openDrawer printer S.drawerPin)
    fun e ↦ .raise (.http 503 "drawer_offline" (some e.message))
  return .drawerOpened

/-- `status_endpoint`. -/
def statusEndpoint : App Response := do
  let printer ← getPrinter
  let online ← StarTSP100.isOnline printer
  let s ← Prog.read
  return .status online s.lastPrintAt

/-- The text of `test_print_endpoint`. -/
def testPrintBody (now : Time) : String :=
  "Hightower Print Agent\n" ++ s!"Version: {version}\n" ++ Time.dateTime now ++ "\n" ++
    "If you can read this, the\nprinter is wired correctly.\n"

/-- `test_print_endpoint`. -/
def testPrintEndpoint : App Response := do
  let printer ← getPrinter
  let s ← Prog.read
  Prog.catching (StarTSP100.printText printer (testPrintBody s.now) true)
    fun e ↦ .raise (.http 503 "printer_offline" (some e.message))
  stamp
  return .printed

/-- The endpoints. -/
inductive Endpoint
  | print (body : PrintRequest)
  | openDrawer
  | status
  | testPrint
deriving Repr, DecidableEq

def Endpoint.serve (S : Settings) : Endpoint → App Response
  | .print body => printEndpoint S body
  | .openDrawer => openDrawerEndpoint S
  | .status => statusEndpoint
  | .testPrint => testPrintEndpoint

/-- The response that FastAPI makes of an exception. -/
def Exc.response : Exc → Response
  | .http statusCode error message => .error statusCode error message
  | _ => .error 500 "Internal Server Error" none

def respond (r : Response) : App Unit := .await (.command (.respond r)) fun _ ↦ .pure ()

/-- `allow_methods` of `CORSMiddleware`. -/
def allowMethods : List String := ["GET", "POST", "OPTIONS"]

/-- What `CORSMiddleware` and the router answer to OPTIONS, which no route serves.  A request that
has an `Origin` and an `Access-Control-Request-Method` is a preflight. -/
def Settings.options (S : Settings) : Option String → Option String → Response
  | some origin, some requested =>
      let failures := (if origin = S.allowedOrigin then [] else ["origin"]) ++
        if requested ∈ allowMethods then [] else ["method"]
      if failures = [] then .preflight
      else .error 400 ("Disallowed CORS " ++ ", ".intercalate failures) none
  | _, _ => .error 405 "Method Not Allowed" none

/-- What is asked for: OPTIONS, with the header `Access-Control-Request-Method`, or an endpoint by
its method. -/
inductive Target
  | options (requested : Option String)
  | endpoint (endpoint : Endpoint)
deriving Repr, DecidableEq

/-- A request, behind `origin_check`, which lets OPTIONS pass. -/
def http (S : Settings) (origin : Option String) : Target → App Unit
  | .options requested => respond (S.options origin requested)
  | .endpoint endpoint =>
      if origin = some S.allowedOrigin then do
        let r ← Prog.catching (endpoint.serve S) fun e ↦ .pure e.response
        respond r
      else respond (.error 403 "forbidden_origin" none)

/-! ## The process and the tray -/

/-- `_bootstrap_printer`. -/
def bootstrapPrinter (S : Settings) : App Unit := do
  let star ← StarTSP100.openUsb
  Prog.commit fun s ↦ .ok { s with printer := some star }
  if S.printTestOnStartup then
    Prog.catching (StarTSP100.printText star s!"Hightower Print Agent v{version} online.\n" true)
      fun _ ↦ .pure ()

/-- `_online`. -/
def trayOnline : App Unit := do
  let s ← Prog.read
  match s.printer with
  | none => return ()
  | some _ => do
      let printer ← getPrinter
      let _ ← StarTSP100.isOnline printer
      return ()

/-- `_on_test_print`, whose exceptions the tray swallows. -/
def trayTestPrint : App Unit := do
  let s ← Prog.read
  match s.printer with
  | none => return ()
  | some _ => do
      let printer ← getPrinter
      let s ← Prog.read
      Prog.catching (StarTSP100.printText printer
        ("Tray test print\n" ++ Time.dateTime s.now ++ "\n") true) fun _ ↦ .pure ()

/-- `_on_reconnect`: the object is replaced, and with it the lock. -/
def trayReconnect : App Unit := do
  let s ← Prog.read
  match s.printer with
  | none => return ()
  | some _ => do
      let printer ← getPrinter
      StarTSP100.close printer
      let star ← StarTSP100.openUsb
      Prog.commit fun s ↦ .ok { s with printer := some star }

/-- `_on_quit`, up to `os._exit`. -/
def trayQuit : App Unit := do
  let s ← Prog.read
  match s.printer with
  | none => return ()
  | some _ => do
      let printer ← getPrinter
      StarTSP100.close printer

/-- What a thread of the agent is started for. -/
inductive Request
  | bootstrap
  | http (origin : Option String) (target : Target)
  | trayOnline
  | trayTestPrint
  | trayReconnect
  | trayQuit
deriving Repr, DecidableEq

def handle (S : Settings) : Request → App Unit
  | .bootstrap => bootstrapPrinter S
  | .http origin target => http S origin target
  | .trayOnline => trayOnline
  | .trayTestPrint => trayTestPrint
  | .trayReconnect => trayReconnect
  | .trayQuit => trayQuit

/-- The agent, with drivers that may do anything; the clock does not run backwards. -/
def machine (S : Settings) : Machine Agent StarId Job Command Command.Answer Exc Request where
  handle := handle S
  object s l := l < s.stars.length
  reply _ _ _ := True
  drift s s' := ∃ t, s.now ≤ t ∧ s' = { s with now := t }

end HightowerPos.PrintAgent
