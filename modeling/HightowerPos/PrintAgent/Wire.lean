import HightowerPos.Async.Orderly
import HightowerPos.PrintAgent.Agent

/-!
# What goes over the wire

`StarTSP100` "serializes access behind a lock so concurrent requests don't interleave bytes on
the wire, and reconnects once".  `Work` is what one call of `print_text` or of `open_drawer` sends,
and what is sent through an object under its lock are whole calls, one after the other
(`calls_serial`).  `is_online` and `close` take no lock: a status query goes out at any time, and so
does the close of a tray that reconnects, in the middle of a receipt.  The lock is that of the
object; the tray's reconnect makes a new object, with a lock of its own.
-/

namespace HightowerPos.PrintAgent

open Async

/-- The commands of a call, with their answers. -/
abbrev Trace := List (Exchange Command Command.Answer)

/-! ## Calls -/

/-- One try of a job that finds the driver `d`, and `d'` where it looks for it again; the flag
says whether it returns. -/
inductive Tried (l : StarId) : Job → Option Driver → Option Driver → Trace → Bool → Prop
  | noDriver (j : Job) (d' : Option Driver) : Tried l j none d' [] false
  | textFails (t : String) (cut : Bool) (d : Driver) (d' : Option Driver) (e : Exc) :
      Tried l (.printText t cut) (some d) d' [⟨.text l d t, .error e⟩] false
  | text (t : String) (d : Driver) (d' : Option Driver) :
      Tried l (.printText t false) (some d) d' [⟨.text l d t, .ok ()⟩] true
  | noCutter (t : String) (d : Driver) :
      Tried l (.printText t true) (some d) none [⟨.text l d t, .ok ()⟩] false
  | cutFails (t : String) (d d' : Driver) (e : Exc) :
      Tried l (.printText t true) (some d) (some d')
        [⟨.text l d t, .ok ()⟩, ⟨.cut l d', .error e⟩] false
  | cut (t : String) (d d' : Driver) :
      Tried l (.printText t true) (some d) (some d')
        [⟨.text l d t, .ok ()⟩, ⟨.cut l d', .ok ()⟩] true
  | kickFails (pin : Int) (d : Driver) (d' : Option Driver) (e : Exc) :
      Tried l (.openDrawer pin) (some d) d' [⟨.cashdraw l d pin, .error e⟩] false
  | kick (pin : Int) (d : Driver) (d' : Option Driver) :
      Tried l (.openDrawer pin) (some d) d' [⟨.cashdraw l d pin, .ok ()⟩] true

/-- The old driver is closed; what `close` raises is swallowed. -/
inductive Closed (l : StarId) : Option Driver → Trace → Prop
  | none : Closed l none []
  | some (d : Driver) (a : Except Exc Unit) : Closed l (some d) [⟨.close l d, a⟩]

/-- A call of `print_text` or of `open_drawer`: a try, and when it fails a second one with a new
driver. -/
inductive Work (l : StarId) (j : Job) : StarTSP100 → Trace → StarTSP100 → Bool → Prop
  | once {v : StarTSP100} {tr : Trace} (h : Tried l j v.driver v.driver tr true) :
      Work l j v tr v true
  | noReconnect {v : StarTSP100} {tr : Trace} (h : Tried l j v.driver v.driver tr false)
      (hv : v.reconnect = false) : Work l j v tr v false
  | offline {v : StarTSP100} {tr cl : Trace} (h : Tried l j v.driver v.driver tr false)
      (hv : v.reconnect = true) (hcl : Closed l v.driver cl) (e : Exc) :
      Work l j v (tr ++ cl ++ [⟨.connect, .error e⟩]) v false
  | again {v : StarTSP100} {tr cl tr' : Trace} {d : Driver} {ok : Bool}
      (h : Tried l j v.driver v.driver tr false) (hv : v.reconnect = true)
      (hcl : Closed l v.driver cl) (h' : Tried l j (some d) (some d) tr' ok) :
      Work l j v (tr ++ cl ++ [⟨.connect, .ok d⟩] ++ tr') { v with driver := some d } ok

/-- The object that a command is sent through. -/
def Command.star : Command → Option StarId
  | .text l _ _ | .cut l _ | .cashdraw l _ _ | .isOnline l _ | .close l _ => some l
  | .connect | .respond _ => none

/-- The object under whose lock it is sent. -/
def Command.locked : Command → Option StarId
  | .text l _ _ | .cut l _ | .cashdraw l _ _ => some l
  | .isOnline _ _ | .close _ _ | .connect | .respond _ => none

/-- The printers and the calls under their locks. -/
def monitor : Monitor Agent StarId Job Command StarTSP100 Command.Answer where
  cell s l := s.stars[l]?
  owner := Command.locked
  work l j v tr v' := ∃ ok, Work l j v tr v' ok

/-! ## The calls heed the lock -/

section Heeds

variable {l : StarId} {j : Job} {v₀ v : StarTSP100} {tr : Trace} {α β : Type}

/-- Code that takes and gives back what locks it needs. -/
abbrev Keeps (p : App α) : Prop := p.Heeds monitor (fun _ ph ↦ ph = .outside) .outside

theorem driver_eq {s : Agent} (h : s.stars[l]? = some v) : s.driver l = v.driver := by
  rw [Agent.driver, h, Option.bind_some]

theorem heeds_ofExcept {r : Except Exc α} {ph : Phase StarId Job Command StarTSP100 Command.Answer}
    {post : Except Exc α → Phase StarId Job Command StarTSP100 Command.Answer → Prop}
    (h : post r ph) : (ofExcept r).Heeds monitor post ph := by
  cases r <;> exact h

theorem heeds_attempt {c : Command} {result : c.Answer → Except Exc α}
    {ph : Phase StarId Job Command StarTSP100 Command.Answer}
    {post : Except Exc α → Phase StarId Job Command StarTSP100 Command.Answer → Prop}
    (hc : monitor.Issues ph c) (h : ∀ a, post (result a) (ph.issue ⟨c, a⟩)) :
    (attempt c result).Heeds monitor post ph :=
  ⟨hc, fun a ↦ heeds_ofExcept (h a)⟩

/-- Under the lock the driver is the one that the call knows. -/
theorem heeds_driverOf {post : Except Exc Driver →
      Phase StarId Job Command StarTSP100 Command.Answer → Prop}
    (hnone : v.driver = none → ∀ e, post (.error e) (.inside l j v₀ v tr))
    (hsome : ∀ d, v.driver = some d → post (.ok d) (.inside l j v₀ v tr)) :
    (StarTSP100.driverOf l).Heeds monitor post (.inside l j v₀ v tr) := by
  refine heeds_read fun s hs ↦ ?_
  rw [driver_eq hs]
  cases hd : v.driver with
  | none => exact hnone hd _
  | some d => exact hsome d hd

theorem heeds_emit (t : String) (cut : Bool) :
    (StarTSP100.emit l t cut).Heeds monitor
      (fun r ph ↦ ∃ tr' ok, ph = .inside l j v₀ v (tr ++ tr') ∧ ok = r.toBool ∧
        Tried l (.printText t cut) v.driver v.driver tr' ok) (.inside l j v₀ v tr) := by
  refine heeds_bind (heeds_driverOf (fun hd e ↦ ?_) fun d hd ↦ ?_)
  · exact ⟨[], false, by rw [List.append_nil], rfl, hd ▸ .noDriver _ _⟩
  refine heeds_bind (heeds_attempt (fun _ h ↦ h) fun a ↦ ?_)
  cases a with
  | error e => exact ⟨_, false, rfl, rfl, hd ▸ .textFails t cut d _ e⟩
  | ok _ =>
      cases cut with
      | false => exact ⟨_, true, rfl, rfl, hd ▸ .text t d _⟩
      | true =>
          refine heeds_bind (heeds_driverOf (fun hd' _ ↦ ?_) fun d' hd' ↦ ?_)
          · rw [hd] at hd'
            cases hd'
          refine heeds_attempt (fun _ h ↦ h) fun a' ↦ ?_
          simp only [Phase.issue, List.append_assoc, List.cons_append, List.nil_append]
          rw [hd]
          obtain rfl : d' = d := Option.some.inj (hd'.symm.trans hd)
          cases a' with
          | error e => exact ⟨_, false, rfl, rfl, .cutFails t d' d' e⟩
          | ok _ => exact ⟨_, true, rfl, rfl, .cut t d' d'⟩

theorem heeds_kick (pin : Int) :
    (StarTSP100.kick l pin).Heeds monitor
      (fun r ph ↦ ∃ tr' ok, ph = .inside l j v₀ v (tr ++ tr') ∧ ok = r.toBool ∧
        Tried l (.openDrawer pin) v.driver v.driver tr' ok) (.inside l j v₀ v tr) := by
  refine heeds_bind (heeds_driverOf (fun hd e ↦ ?_) fun d hd ↦ ?_)
  · exact ⟨[], false, by rw [List.append_nil], rfl, hd ▸ .noDriver _ _⟩
  refine heeds_attempt (fun _ h ↦ h) fun a ↦ ?_
  cases a with
  | error e => exact ⟨_, false, rfl, rfl, hd ▸ .kickFails pin d _ e⟩
  | ok _ => exact ⟨_, true, rfl, rfl, hd ▸ .kick pin d _⟩

/-- The reconnect closes the driver and puts a new one in its place, or raises. -/
theorem heeds_tryReconnect (e : Exc)
    {post : Except Exc Unit → Phase StarId Job Command StarTSP100 Command.Answer → Prop}
    (hno : v.reconnect = false → post (.error e) (.inside l j v₀ v tr))
    (hoff : v.reconnect = true → ∀ cl e', Closed l v.driver cl →
      post (.error e') (.inside l j v₀ v (tr ++ (cl ++ [⟨.connect, .error e'⟩]))))
    (hon : v.reconnect = true → ∀ cl d, Closed l v.driver cl →
      post (.ok ()) (.inside l j v₀ { v with driver := some d }
        (tr ++ (cl ++ [⟨.connect, .ok d⟩])))) :
    (StarTSP100.tryReconnect l e).Heeds monitor post (.inside l j v₀ v tr) := by
  refine heeds_read fun s hs ↦ ?_
  have hrec : ((s.stars[l]?).map (·.reconnect)).getD false = v.reconnect := by
    rw [show s.stars[l]? = some v from hs, Option.map_some, Option.getD_some]
  rw [hrec]
  cases hv : v.reconnect with
  | false => exact hno hv
  | true =>
      refine heeds_read fun s hs ↦ ?_
      rw [driver_eq hs]
      -- after the close the driver is replaced
      have hconnect (cl : Trace) (hcl : Closed l v.driver cl) :
          (do
            let d ← attempt .connect id
            Prog.commit fun s ↦ .ok (s.setDriver l d) : App Unit).Heeds monitor post
            (.inside l j v₀ v (tr ++ cl)) := by
        refine heeds_bind (heeds_attempt (fun _ h ↦ by cases h) fun a ↦ ?_)
        simp only [Phase.issue, List.append_assoc]
        cases a with
        | error e' => exact hoff hv cl e' hcl
        | ok d =>
            refine fun s' hs' ↦ ⟨_, ⟨{ v with driver := some d }, rfl, ?_, fun l' u hne hu ↦ ?_⟩,
              hon hv cl d hcl⟩
            · change (s'.stars.modify l _)[l]? = _
              rw [List.getElem?_modify_eq, show s'.stars[l]? = some v from hs', Option.map_eq_map,
                Option.map_some]
            · change (s'.stars.modify l _)[l']? = _
              rw [List.getElem?_modify_ne _ _ (fun h ↦ hne (congrArg some h))]
              exact hu
      cases hd : v.driver with
      | none =>
          have := hconnect [] (hd ▸ .none)
          rwa [List.append_nil] at this
      | some d =>
          refine heeds_bind (heeds_catching (heeds_attempt (fun _ h ↦ by cases h) fun a ↦ ?_))
          have := hconnect [⟨.close l d, a⟩] (hd ▸ .some d a)
          cases a with
          | ok _ => exact this
          | error e' => exact this

/-- A call heeds the lock when its tries do. -/
theorem heeds_call {work : App Unit}
    (hwork : ∀ {v₀ v : StarTSP100} {tr : Trace}, work.Heeds monitor
      (fun r ph ↦ ∃ tr' ok, ph = .inside l j v₀ v (tr ++ tr') ∧ ok = r.toBool ∧
        Tried l j v.driver v.driver tr' ok) (.inside l j v₀ v tr)) :
    Keeps (Code.holding l j (work.catching fun e ↦ do
      StarTSP100.tryReconnect l e
      work)) := by
  refine heeds_holding fun v ↦ heeds_catching (hwork.mono fun r ph hr ↦ ?_)
  obtain ⟨tr, ok, rfl, rfl, htried⟩ := hr
  rw [List.nil_append]
  cases r with
  | ok _ => exact ⟨v, tr, rfl, ⟨true, .once htried⟩, rfl⟩
  | error e =>
      refine heeds_bind (heeds_tryReconnect e (fun hv ↦ ?_) (fun hv cl e' hcl ↦ ?_)
        fun hv cl d hcl ↦ hwork.mono fun r ph hr ↦ ?_)
      · exact ⟨v, tr, rfl, ⟨false, .noReconnect htried hv⟩, rfl⟩
      · refine ⟨v, _, rfl, ⟨false, ?_⟩, rfl⟩
        rw [← List.append_assoc]
        exact .offline htried hv hcl e'
      · obtain ⟨tr', ok, rfl, rfl, htried'⟩ := hr
        refine ⟨_, _, rfl, ⟨r.toBool, ?_⟩, rfl⟩
        rw [← List.append_assoc tr cl]
        exact .again htried hv hcl htried'

theorem keeps_printText (t : String) (cut : Bool) : Keeps (StarTSP100.printText l t cut) :=
  heeds_call (heeds_emit t cut)

theorem keeps_openDrawer (pin : Int) : Keeps (StarTSP100.openDrawer l pin) :=
  heeds_call (heeds_kick pin)

/-! ### Outside the lock -/

theorem Keeps.bind {p : App α} {f : α → App β} (hp : Keeps p) (hf : ∀ a, Keeps (f a)) :
    Keeps (p >>= f) := by
  refine heeds_bind (hp.mono fun r ph hph ↦ ?_)
  subst hph
  cases r with
  | ok a => exact hf a
  | error e => rfl

theorem Keeps.catching {p : App α} {f : Exc → App α} (hp : Keeps p) (hf : ∀ e, Keeps (f e)) :
    Keeps (p.catching f) := by
  refine heeds_catching (hp.mono fun r ph hph ↦ ?_)
  subst hph
  cases r with
  | ok a => rfl
  | error e => exact hf e

theorem keeps_pure (a : α) : Keeps (.pure a) := rfl

theorem keeps_raise (e : Exc) : Keeps (.raise e : App α) := rfl

theorem Keeps.read {f : Agent → App α} (hf : ∀ s, Keeps (f s)) : Keeps (Prog.read >>= f) :=
  heeds_read fun s _ ↦ hf s

/-- A command that is sent under no lock. -/
theorem keeps_attempt {c : Command} {result : c.Answer → Except Exc α} (hc : c.locked = none) :
    Keeps (attempt c result) :=
  heeds_attempt (fun l hl ↦ by rw [show c.locked = some l from hl] at hc; cases hc) fun _ ↦ rfl

theorem keeps_closeQuietly (self : StarId) (d : Driver) :
    Keeps (StarTSP100.closeQuietly self d) :=
  (keeps_attempt rfl).catching fun _ ↦ rfl

theorem keeps_driverOf (self : StarId) : Keeps (StarTSP100.driverOf self) := by
  refine Keeps.read fun s ↦ ?_
  cases s.driver self <;> rfl

theorem keeps_isOnline (self : StarId) : Keeps (StarTSP100.isOnline self) :=
  ((keeps_driverOf self).bind fun _ ↦ keeps_attempt rfl).catching fun _ ↦ rfl

theorem keeps_close (self : StarId) : Keeps (StarTSP100.close self) := by
  refine Keeps.read fun s ↦ ?_
  cases s.driver self with
  | none => rfl
  | some _ =>
      refine Keeps.read fun s ↦ ?_
      cases s.driver self with
      | none => rfl
      | some d => exact keeps_closeQuietly self d

/-- A new object leaves those that there are. -/
theorem keeps_openUsb : Keeps StarTSP100.openUsb := by
  refine (keeps_attempt rfl).bind fun d s _ ↦ ⟨.outside, ⟨rfl, fun l v _ hv ↦ ?_⟩, rfl⟩
  change (s.stars ++ [_])[l]? = _
  rw [List.getElem?_append_left (List.getElem?_eq_some_iff.mp hv).1]
  exact hv

theorem keeps_getPrinter : Keeps getPrinter := by
  refine Keeps.read fun s ↦ ?_
  cases s.printer <;> rfl

theorem keeps_setPrinter (star : StarId) :
    Keeps (Prog.commit fun s ↦ .ok { s with printer := some star }) :=
  fun _ _ ↦ ⟨.outside, ⟨rfl, fun _ _ _ hv ↦ hv⟩, rfl⟩

theorem keeps_stamp : Keeps stamp := fun _ _ ↦ ⟨.outside, ⟨rfl, fun _ _ _ hv ↦ hv⟩, rfl⟩

theorem keeps_respond (r : Response) : Keeps (respond r) :=
  ⟨fun l hl ↦ (by cases hl), fun _ ↦ rfl⟩

theorem keeps_serve (S : Settings) (endpoint : Endpoint) : Keeps (endpoint.serve S) := by
  cases endpoint with
  | print body =>
      refine keeps_getPrinter.bind fun printer ↦ ?_
      split
      · refine Keeps.bind
          (Keeps.catching ((keeps_printText _ _).bind fun _ ↦ ?_) fun _ ↦ keeps_raise _)
          fun _ ↦ keeps_stamp.bind fun _ ↦ keeps_pure _
        split
        · exact keeps_openDrawer _
        · rfl
      · rfl
  | openDrawer =>
      exact keeps_getPrinter.bind fun printer ↦
        ((keeps_openDrawer _).catching fun _ ↦ keeps_raise _).bind fun _ ↦ keeps_pure _
  | status =>
      exact keeps_getPrinter.bind fun printer ↦ (keeps_isOnline _).bind fun _ ↦
        Keeps.read fun _ ↦ keeps_pure _
  | testPrint =>
      exact keeps_getPrinter.bind fun printer ↦ Keeps.read fun s ↦
        ((keeps_printText _ _).catching fun _ ↦ keeps_raise _).bind fun _ ↦
          keeps_stamp.bind fun _ ↦ keeps_pure _

/-- Every thread of the agent takes and gives back the locks that it needs. -/
theorem keeps_handle (S : Settings) (i : Request) : Keeps (handle S i) := by
  cases i with
  | bootstrap =>
      refine keeps_openUsb.bind fun star ↦ (keeps_setPrinter star).bind fun _ ↦ ?_
      split
      · exact (keeps_printText _ _).catching fun _ ↦ keeps_pure _
      · rfl
  | http origin target =>
      cases target with
      | options requested => exact keeps_respond _
      | endpoint endpoint =>
          rw [handle, PrintAgent.http]
          split
          · exact ((keeps_serve S endpoint).catching fun _ ↦ keeps_pure _).bind keeps_respond
          · exact keeps_respond _
  | trayOnline =>
      refine Keeps.read fun s ↦ ?_
      cases s.printer with
      | none => rfl
      | some _ =>
          exact keeps_getPrinter.bind fun printer ↦ (keeps_isOnline _).bind fun _ ↦ keeps_pure _
  | trayTestPrint =>
      refine Keeps.read fun s ↦ ?_
      cases s.printer with
      | none => rfl
      | some _ =>
          exact keeps_getPrinter.bind fun printer ↦ Keeps.read fun s ↦
            (keeps_printText _ _).catching fun _ ↦ keeps_pure _
  | trayReconnect =>
      refine Keeps.read fun s ↦ ?_
      cases s.printer with
      | none => rfl
      | some _ =>
          exact keeps_getPrinter.bind fun printer ↦ (keeps_close _).bind fun _ ↦
            keeps_openUsb.bind keeps_setPrinter
  | trayQuit =>
      refine Keeps.read fun s ↦ ?_
      cases s.printer with
      | none => rfl
      | some _ => exact keeps_getPrinter.bind keeps_close

end Heeds

/-! ## Runs -/

/-- The agent at work. -/
abbrev Scene := Floor Agent StarId Job Command Command.Answer Exc Request

/-- What goes out through an object. -/
def wire (c : Scene) (l : StarId) : List (Entry StarId Command Command.Answer) :=
  c.log.filter (·.exchange.1.star = some l)

/-- What of it goes out under the lock of the object, with the threads. -/
def locked (c : Scene) (l : StarId) : List (Nat × Exchange Command Command.Answer) :=
  ((wire c l).filter (·.lock = some l)).map fun e ↦ (e.thread, e.exchange)

/-- What a call sends through its object. -/
def sent (l : StarId) (b : Piece Job Command Command.Answer) :
    List (Nat × Exchange Command Command.Answer) :=
  (b.exchanges.filter (·.1.star = some l)).map (b.thread, ·)

theorem orderly (S : Settings) {c : Scene} {s : Agent}
    (hrun : (machine S).Run ⟨s, [], []⟩ c) : ∃ ph, monitor.Orderly c ph := by
  refine Monitor.Orderly.run (keeps_handle S) (fun s l hl ↦ ?_) (fun s s' hd l ↦ ?_)
    (.init s) hrun
  · exact ⟨_, List.getElem?_eq_getElem hl⟩
  · obtain ⟨t, -, rfl⟩ := hd
    rfl

theorem locked_eq (c : Scene) (l : StarId) :
    locked c l = (c.under l).filter fun x ↦ x.2.1.star = some l := by
  rw [locked, wire, Floor.under, List.filter_map, List.filter_filter, List.filter_filter]
  congr 1
  refine List.filter_congr fun e _ ↦ ?_
  rw [Bool.and_comm]
  rfl

theorem filter_commands (l : StarId) (b : Piece Job Command Command.Answer) :
    b.commands.filter (fun x ↦ x.2.1.star = some l) = sent l b := by
  rw [sent, Piece.commands, List.filter_map]
  rfl

/-- **The calls of an object do not interleave.**  Whatever threads print, open the drawer, look
at the status and reconnect, at every moment of every run what went out through an object under
its lock are whole calls, one after the other, and the beginning of the call of the thread that
holds the lock; what went out without it are status queries and closes. -/
theorem calls_serial (S : Settings) {c : Scene} {t : Time}
    (hrun : (machine S).Run ⟨{ now := t }, [], []⟩ c) {l : StarId} {star : StarTSP100}
    (hl : c.state.stars[l]? = some star) :
    (∃ v₀ v₁ bs cur, monitor.Serial l v₀ bs v₁ ∧ locked c l = bs.flatMap (sent l) ++ cur ∧
      (c.Free l ∧ cur = [] ∧ v₁ = star ∨ ∃ w b rest v', c.workers[b.thread]? = some w ∧
        w.held = some l ∧ cur = sent l b ∧ monitor.work l b.work v₁ (b.exchanges ++ rest) v')) ∧
      ∀ e ∈ wire c l, e.lock ≠ some l →
        ∃ d, e.exchange.1 = .isOnline l d ∨ e.exchange.1 = .close l d := by
  obtain ⟨ph, h⟩ := orderly S hrun
  constructor
  · obtain ⟨v₀, v₁, bs, cur, hserial, hunder, hcur⟩ := h.serial hl
    refine ⟨v₀, v₁, bs, cur.filter fun x ↦ x.2.1.star = some l, hserial, ?_, ?_⟩
    · rw [locked_eq, hunder, List.filter_append, List.filter_flatMap]
      congr 2
      funext b
      exact filter_commands l b
    · rcases hcur with ⟨hfree, rfl, hv⟩ | ⟨w, b, rest, v', hn, hheld, rfl, hwork⟩
      · exact .inl ⟨hfree, rfl, hv⟩
      · exact .inr ⟨w, b, rest, v', hn, hheld, filter_commands l b, hwork⟩
  · intro e he hlock
    obtain ⟨he, hstar⟩ := List.mem_filter.mp he
    have howned := h.owned e he l
    obtain ⟨n, lock, c, a⟩ := e
    cases c with
    | text l' | cut l' | cashdraw l' =>
        exact absurd (howned (of_decide_eq_true hstar)) hlock
    | isOnline l' d =>
        obtain rfl := Option.some.inj (of_decide_eq_true hstar)
        exact ⟨d, .inl rfl⟩
    | close l' d =>
        obtain rfl := Option.some.inj (of_decide_eq_true hstar)
        exact ⟨d, .inr rfl⟩
    | connect | respond => cases of_decide_eq_true hstar

/-- The driver of a print is closed by the tray after the text, and before the cut. -/
theorem calls_serial_booted : ∃ c : Scene,
    (wire c 0).map (fun e ↦ (e.thread, e.exchange.1)) =
      [(0, .text 0 7 "Hightower Print Agent v0.1.0 online.\n"), (0, .cut 0 7),
        (1, .text 0 7 "Thank you\n"), (2, .close 0 7)] ∧
    (∃ v₀ v₁ bs cur, monitor.Serial 0 v₀ bs v₁ ∧ locked c 0 = bs.flatMap (sent 0) ++ cur ∧
      (c.Free 0 ∧ cur = [] ∧ v₁ = ⟨some 7, true⟩ ∨ ∃ w b rest v',
        c.workers[b.thread]? = some w ∧ w.held = some 0 ∧ cur = sent 0 b ∧
        monitor.work 0 b.work v₁ (b.exchanges ++ rest) v')) ∧
      ∀ e ∈ wire c 0, e.lock ≠ some 0 →
        ∃ d, e.exchange.1 = .isOnline 0 d ∨ e.exchange.1 = .close 0 d := by
  have hboot : (machine {}).Run ⟨{ now := 0 }, [], []⟩ _ :=
    (((((((((Relation.ReflTransGen.single (.start .bootstrap)).tail
      (.command (n := 0) rfl (.ok 7) trivial)).tail (.access (n := 0) rfl rfl)).tail
      (.access (n := 0) rfl rfl)).tail
      (.acquire (n := 0) rfl (by simp) (by exact Nat.zero_lt_one))).tail
      (.access (n := 0) rfl rfl)).tail (.command (n := 0) rfl (.ok ()) trivial)).tail
      (.access (n := 0) rfl rfl)).tail (.command (n := 0) rfl (.ok ()) trivial)).tail
      (.release (n := 0) rfl)
  have hprint := ((((hboot.tail (.start (.http (some "http://pos-vm.local:8080")
    (.endpoint (.print ⟨"text", "Thank you\n", true, true⟩))))).tail
    (.access (n := 1) rfl rfl)).tail
    (.acquire (n := 1) rfl (by simp) (by exact Nat.zero_lt_one))).tail
    (.access (n := 1) rfl rfl)).tail (.command (n := 1) rfl (.ok ()) trivial)
  have hclose := (((((hprint.tail (.start .trayReconnect)).tail (.access (n := 2) rfl rfl)).tail
    (.access (n := 2) rfl rfl)).tail (.access (n := 2) rfl rfl)).tail
    (.access (n := 2) rfl rfl)).tail (.command (n := 2) rfl (.ok ()) trivial)
  exact ⟨_, rfl, calls_serial {} hclose rfl⟩

end HightowerPos.PrintAgent
