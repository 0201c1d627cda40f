import HightowerPos.PrintAgent.Wire

/-!
# What the print agent answers

A print request is answered as printed when its text, and the cut if it asked for one, have been
taken by a driver, and the kick of the drawer after them if it asked for one.  The drawer is not
kicked before the receipt is out, and at most twice is the text sent: the retry of `print_text`
sends it from the start.
-/

namespace HightowerPos.PrintAgent

open Async

/-! ## Calls, whatever the drivers -/

/-- The commands of a call of `print_text` or of `open_drawer`; the flag says whether it
returns. -/
inductive Called (l : StarId) (j : Job) : Trace → Bool → Prop
  | once {d d' : Option Driver} {tr : Trace} {ok : Bool} (h : Tried l j d d' tr ok) :
      Called l j tr ok
  | offline {d d' d'' : Option Driver} {tr cl : Trace} (h : Tried l j d d' tr false)
      (hcl : Closed l d'' cl) (e : Exc) : Called l j (tr ++ (cl ++ [⟨.connect, .error e⟩])) false
  | again {d d' d'' o o' : Option Driver} {tr cl tr' : Trace} {ok : Bool} (n : Driver)
      (h : Tried l j d d' tr false) (hcl : Closed l d'' cl) (h' : Tried l j o o' tr' ok) :
      Called l j (tr ++ (cl ++ [⟨.connect, .ok n⟩]) ++ tr') ok

/-- The text went out, and the cut if it was asked for. -/
inductive Receipt (l : StarId) (t : String) : Bool → Trace → Prop
  | text (tr : Trace) (d : Driver) : Receipt l t false (tr ++ [⟨.text l d t, .ok ()⟩])
  | cut (tr : Trace) (d d' : Driver) :
      Receipt l t true (tr ++ [⟨.text l d t, .ok ()⟩, ⟨.cut l d', .ok ()⟩])

/-- The drawer was kicked. -/
inductive Kicked (l : StarId) (pin : Int) : Trace → Prop
  | intro (tr : Trace) (d : Driver) : Kicked l pin (tr ++ [⟨.cashdraw l d pin, .ok ()⟩])

/-- A print of a text. -/
def Command.isText : Command → Bool
  | .text _ _ _ => true
  | _ => false

/-- How often a text was sent. -/
def texts (tr : Trace) : Nat := tr.countP fun x ↦ x.1.isText

@[simp] theorem texts_append (tr tr' : Trace) : texts (tr ++ tr') = texts tr + texts tr' :=
  List.countP_append

section Called

variable {l : StarId} {t : String} {cut : Bool} {pin : Int} {tr : Trace}

theorem Receipt.append {tr : Trace} (h : Receipt l t cut tr) (pre : Trace) :
    Receipt l t cut (pre ++ tr) := by
  cases h with
  | text tr d => exact List.append_assoc pre tr _ ▸ .text (pre ++ tr) d
  | cut tr d d' => exact List.append_assoc pre tr _ ▸ .cut (pre ++ tr) d d'

theorem Kicked.append {tr : Trace} (h : Kicked l pin tr) (pre : Trace) :
    Kicked l pin (pre ++ tr) := by
  cases h with
  | intro tr d => exact List.append_assoc pre tr _ ▸ .intro (pre ++ tr) d

/-- A call that returns has sent all that it had to. -/
theorem Called.receipt (h : Called l (.printText t cut) tr true) : Receipt l t cut tr := by
  have htried {d d' tr} (h : Tried l (.printText t cut) d d' tr true) : Receipt l t cut tr := by
    cases h with
    | text t d d' => exact .text [] d
    | cut t d d' => exact .cut [] d d'
  cases h with
  | once h => exact htried h
  | again n h hcl h' => exact (htried h').append _

theorem Called.kicked (h : Called l (.openDrawer pin) tr true) : Kicked l pin tr := by
  have htried {d d' tr} (h : Tried l (.openDrawer pin) d d' tr true) : Kicked l pin tr := by
    cases h with
    | kick pin d d' => exact .intro [] d
  cases h with
  | once h => exact htried h
  | again n h hcl h' => exact (htried h').append _

/-- A command of a call, and of the reconnect. -/
def Job.Has (l : StarId) : Job → Command → Prop
  | .printText t cut, c => (∃ d, c = .text l d t) ∨ (cut = true ∧ ∃ d, c = .cut l d)
  | .openDrawer pin, c => ∃ d, c = .cashdraw l d pin

theorem Tried.has {j : Job} {d d' : Option Driver} {ok : Bool} (h : Tried l j d d' tr ok) :
    (∀ x ∈ tr, j.Has l x.1) ∧ texts tr ≤ 1 := by
  cases h <;> simp [Job.Has, texts, Command.isText]

theorem Closed.has {d : Option Driver} (h : Closed l d tr) :
    (∀ x ∈ tr, ∃ d, x.1 = .close l d) ∧ texts tr = 0 := by
  cases h <;> simp [texts, Command.isText]

/-- The commands of a call, which sends its text at most twice. -/
theorem Called.has {j : Job} {ok : Bool} (h : Called l j tr ok) :
    (∀ x ∈ tr, j.Has l x.1 ∨ (∃ d, x.1 = .close l d) ∨ x.1 = .connect) ∧ texts tr ≤ 2 := by
  cases h with
  | once h => exact ⟨fun x hx ↦ .inl (h.has.1 x hx), h.has.2.trans (by decide)⟩
  | offline h hcl e =>
      refine ⟨fun x hx ↦ ?_, ?_⟩
      · simp only [List.mem_append, List.mem_singleton] at hx
        rcases hx with hx | hx | rfl
        · exact .inl (h.has.1 x hx)
        · exact .inr (.inl (hcl.has.1 x hx))
        · exact .inr (.inr rfl)
      · have h₁ := h.has.2
        rw [texts_append, texts_append, hcl.has.2,
          show texts [⟨.connect, .error e⟩] = 0 from rfl]
        omega
  | again n h hcl h' =>
      refine ⟨fun x hx ↦ ?_, ?_⟩
      · simp only [List.mem_append, List.mem_singleton] at hx
        rcases hx with (hx | hx | rfl) | hx
        · exact .inl (h.has.1 x hx)
        · exact .inr (.inl (hcl.has.1 x hx))
        · exact .inr (.inr rfl)
        · exact .inl (h'.has.1 x hx)
      · have h₁ := h.has.2
        have h₂ := h'.has.2
        rw [texts_append, texts_append, texts_append, hcl.has.2,
          show texts [⟨.connect, .ok n⟩] = 0 from rfl]
        omega

end Called

/-! ## What a thread tells -/

section Tells

variable {l : StarId} {j : Job} {tr : Trace} {α β : Type}
variable {ok : Trace → Exchange Command Command.Answer → Prop}

theorem tells_ofExcept {r : Except Exc α} {post : Except Exc α → Trace → Prop} (h : post r tr) :
    (ofExcept r).Tells ok post tr := by
  cases r <;> exact h

theorem tells_attempt {c : Command} {result : c.Answer → Except Exc α}
    {post : Except Exc α → Trace → Prop}
    (h : ∀ a, ok tr ⟨c, a⟩ ∧ post (result a) (tr ++ [⟨c, a⟩])) :
    (attempt c result).Tells ok post tr :=
  fun a ↦ ⟨(h a).1, tells_ofExcept (h a).2⟩

theorem tells_driverOf {post : Except Exc Driver → Trace → Prop}
    (hnone : ∀ e, post (.error e) tr) (hsome : ∀ d, post (.ok d) tr) :
    (StarTSP100.driverOf l).Tells ok post tr := by
  refine tells_read fun s ↦ ?_
  cases s.driver l with
  | none => exact hnone _
  | some d => exact hsome d

/-- The exchanges of a try. -/
theorem tells_emit {t : String} {cut : Bool} {post : Except Exc Unit → Trace → Prop}
    (hok : ∀ d d' p x q r, Tried l (.printText t cut) d d' (p ++ x :: q) r → ok (tr ++ p) x)
    (hpost : ∀ d d' p r, Tried l (.printText t cut) d d' p r.toBool → post r (tr ++ p)) :
    (StarTSP100.emit l t cut).Tells ok post tr := by
  refine tells_bind (tells_driverOf (fun e ↦ ?_) fun d ↦ ?_)
  · exact List.append_nil tr ▸ hpost none none [] (.error e) (.noDriver _ _)
  refine tells_bind (tells_attempt fun a ↦ ?_)
  cases a with
  | error e =>
      have h := Tried.textFails (l := l) t cut d none e
      exact ⟨by simpa using hok _ _ [] _ [] _ h, hpost _ _ _ (.error e) h⟩
  | ok u =>
      cases cut with
      | false =>
          have h := Tried.text (l := l) t d none
          exact ⟨by simpa using hok _ _ [] _ [] _ h, hpost _ _ _ (.ok u) h⟩
      | true =>
          have h := Tried.noCutter (l := l) t d
          refine ⟨by simpa using hok _ _ [] _ [] _ h, ?_⟩
          refine tells_bind (tells_driverOf (fun e ↦ hpost _ _ _ (.error e) h) fun d' ↦ ?_)
          refine tells_attempt fun a' ↦ ?_
          rw [List.append_assoc]
          cases a' with
          | error e =>
              have h := Tried.cutFails (l := l) t d d' e
              exact ⟨hok _ _ [_] _ [] _ h, hpost _ _ _ (.error e) h⟩
          | ok u' =>
              have h := Tried.cut (l := l) t d d'
              exact ⟨hok _ _ [_] _ [] _ h, hpost _ _ _ (.ok u') h⟩

theorem tells_kick {pin : Int} {post : Except Exc Unit → Trace → Prop}
    (hok : ∀ d d' p x q r, Tried l (.openDrawer pin) d d' (p ++ x :: q) r → ok (tr ++ p) x)
    (hpost : ∀ d d' p r, Tried l (.openDrawer pin) d d' p r.toBool → post r (tr ++ p)) :
    (StarTSP100.kick l pin).Tells ok post tr := by
  refine tells_bind (tells_driverOf (fun e ↦ ?_) fun d ↦ tells_attempt fun a ↦ ?_)
  · exact List.append_nil tr ▸ hpost none none [] (.error e) (.noDriver _ _)
  cases a with
  | error e =>
      have h := Tried.kickFails (l := l) pin d none e
      exact ⟨by simpa using hok _ _ [] _ [] _ h, hpost _ _ _ (.error e) h⟩
  | ok u =>
      have h := Tried.kick (l := l) pin d none
      exact ⟨by simpa using hok _ _ [] _ [] _ h, hpost _ _ _ (.ok u) h⟩

/-- The exchanges of the reconnect. -/
theorem tells_tryReconnect (e : Exc) {post : Except Exc Unit → Trace → Prop}
    (hok : ∀ d cl a, Closed l d cl →
      (∀ p x q, cl ++ [⟨.connect, a⟩] = p ++ x :: q → ok (tr ++ p) x))
    (hno : post (.error e) tr)
    (hoff : ∀ d cl e', Closed l d cl → post (.error e') (tr ++ (cl ++ [⟨.connect, .error e'⟩])))
    (hon : ∀ d cl n, Closed l d cl → post (.ok ()) (tr ++ (cl ++ [⟨.connect, .ok n⟩]))) :
    (StarTSP100.tryReconnect l e).Tells ok post tr := by
  refine tells_read fun s ↦ ?_
  split
  · refine tells_read fun s ↦ ?_
    have hconnect (d : Option Driver) (cl : Trace) (hcl : Closed l d cl) :
        (do
          let d ← attempt .connect id
          Prog.commit fun s ↦ .ok (s.setDriver l d) : App Unit).Tells ok post (tr ++ cl) := by
      refine tells_bind (tells_attempt fun a ↦ ⟨hok d cl a hcl cl _ [] rfl, ?_⟩)
      rw [List.append_assoc]
      cases a with
      | error e' => exact hoff d cl e' hcl
      | ok n => exact fun _ ↦ hon d cl n hcl
    cases s.driver l with
    | none => exact List.append_nil tr ▸ hconnect none [] .none
    | some d =>
        refine tells_bind (tells_catching (tells_attempt fun a ↦ ?_))
        have hclosed := Closed.some (l := l) d a
        refine ⟨by simpa using hok _ _ (.ok 0) hclosed [] _ _ rfl, ?_⟩
        have := hconnect _ _ hclosed
        cases a with
        | ok _ => exact this
        | error _ => exact this
  · exact hno

/-- The exchanges of a call. -/
theorem tells_call {work : App Unit}
    (hwork : ∀ {tr : Trace} {ok : Trace → Exchange Command Command.Answer → Prop}
      {post : Except Exc Unit → Trace → Prop},
      (∀ d d' p x q r, Tried l j d d' (p ++ x :: q) r → ok (tr ++ p) x) →
      (∀ d d' p r, Tried l j d d' p r.toBool → post r (tr ++ p)) → work.Tells ok post tr)
    {post : Except Exc Unit → Trace → Prop}
    (hok : ∀ p x q r, Called l j (p ++ x :: q) r → ok (tr ++ p) x)
    (hpost : ∀ p r, Called l j p r.toBool → post r (tr ++ p)) :
    (Code.holding l j (work.catching fun e ↦ do
      StarTSP100.tryReconnect l e
      work)).Tells ok post tr := by
  refine tells_holding (tells_catching (hwork (fun d d' p x q r h ↦ hok p x q r (.once h))
    fun d d' p r h ↦ ?_))
  cases r with
  | ok u => exact hpost p (.ok u) (.once h)
  | error e =>
      refine tells_bind (tells_tryReconnect e (fun o cl a hcl p' x q heq ↦ ?_) ?_
        (fun o cl e' hcl ↦ ?_) fun o cl n hcl ↦ ?_)
      · rw [List.append_assoc]
        cases a with
        | error e' =>
            have hcalled := Called.offline h hcl e'
            rw [heq, ← List.append_assoc] at hcalled
            exact hok _ x q false hcalled
        | ok n =>
            have hcalled := Called.again n h hcl (.noDriver j none)
            rw [heq, List.append_nil, ← List.append_assoc] at hcalled
            exact hok _ x q false hcalled
      · exact hpost p (.error e) (.once h)
      · rw [List.append_assoc]
        exact hpost _ (.error e') (.offline h hcl e')
      · refine hwork (fun o o' p' x q r h' ↦ ?_) fun o o' p' r h' ↦ ?_
        · rw [List.append_assoc tr, List.append_assoc tr]
          exact hok _ x q r (by simpa using Called.again n h hcl h')
        · rw [List.append_assoc tr, List.append_assoc tr]
          exact hpost _ r (Called.again n h hcl h')

theorem tells_printText {t : String} {cut : Bool} {post : Except Exc Unit → Trace → Prop}
    (hok : ∀ p x q r, Called l (.printText t cut) (p ++ x :: q) r → ok (tr ++ p) x)
    (hpost : ∀ p r, Called l (.printText t cut) p r.toBool → post r (tr ++ p)) :
    (StarTSP100.printText l t cut).Tells ok post tr :=
  tells_call tells_emit hok hpost

theorem tells_openDrawer {pin : Int} {post : Except Exc Unit → Trace → Prop}
    (hok : ∀ p x q r, Called l (.openDrawer pin) (p ++ x :: q) r → ok (tr ++ p) x)
    (hpost : ∀ p r, Called l (.openDrawer pin) p r.toBool → post r (tr ++ p)) :
    (StarTSP100.openDrawer l pin).Tells ok post tr :=
  tells_call tells_kick hok hpost

theorem tells_getPrinter {post : Except Exc StarId → Trace → Prop} (h : ∀ r, post r tr) :
    getPrinter.Tells ok post tr := by
  refine tells_read fun s ↦ ?_
  cases s.printer <;> exact h _

theorem tells_isOnline {post : Except Exc Bool → Trace → Prop}
    (hok : ∀ d a, ok tr ⟨.isOnline l d, a⟩) (hnone : post (.ok false) tr)
    (hsome : ∀ d a b, post (.ok b) (tr ++ [⟨.isOnline l d, a⟩])) :
    (StarTSP100.isOnline l).Tells ok post tr := by
  refine tells_catching (tells_bind (tells_driverOf (fun _ ↦ hnone) fun d ↦ ?_))
  refine tells_attempt fun a ↦ ⟨hok d a, ?_⟩
  cases a with
  | ok b => exact hsome d (.ok b) b
  | error e => exact hsome d (.error e) false

theorem tells_stamp {post : Except Exc Unit → Trace → Prop} (h : post (.ok ()) tr) :
    stamp.Tells ok post tr := fun _ ↦ h

end Tells

/-! ## Endpoints -/

/-- There was no response yet. -/
def Quiet (tr : Trace) : Prop := ∀ x ∈ tr, ∀ r, x.1 ≠ .respond r

/-- What an endpoint may ask of a driver and answer, after the exchanges of its request. -/
def Endpoint.Allows (S : Settings) : Endpoint → Trace → Command → Prop
  | .print body, pre, .text _ _ t => t = body.content ∧ texts pre ≤ 1
  | .print body, _, .cut _ _ => body.cut = true
  | .print body, pre, .cashdraw l _ pin => body.openDrawerAfter = true ∧ pin = S.drawerPin ∧
      ∃ tr tr', pre = tr ++ tr' ∧ Receipt l body.content body.cut tr ∧ texts tr' = 0
  | .print body, pre, .respond .printed => ∃ l tr tr', pre = tr ++ tr' ∧
      Receipt l body.content body.cut tr ∧
      if body.openDrawerAfter = true then Kicked l S.drawerPin tr' else tr' = []
  | .openDrawer, _, .cashdraw _ _ pin => pin = S.drawerPin
  | .openDrawer, pre, .respond .drawerOpened => ∃ l, Kicked l S.drawerPin pre
  | .status, pre, .isOnline _ _ => pre = []
  | .status, _, .respond (.status _ _) => True
  | .testPrint, pre, .text _ _ _ => texts pre ≤ 1
  | .testPrint, _, .cut _ _ => True
  | .testPrint, pre, .respond .printed => ∃ l t, Receipt l t true pre
  | .print _, _, .close _ _ | .openDrawer, _, .close _ _ | .testPrint, _, .close _ _ => True
  | .print _, _, .connect | .openDrawer, _, .connect | .testPrint, _, .connect => True
  | _, _, .respond (.error _ _ _) => True
  | _, _, _ => False

section Endpoints

variable {S : Settings} {l : StarId} {j : Job} {t : String} {cut : Bool} {pin : Int}

theorem Quiet.append {tr tr' : Trace} (h : Quiet tr) (h' : Quiet tr') : Quiet (tr ++ tr') :=
  fun x hx ↦ (List.mem_append.mp hx).elim (h x) (h' x)

theorem quiet_nil : Quiet [] := fun x hx ↦ by cases hx

theorem Called.quiet {tr : Trace} {ok : Bool} (h : Called l j tr ok) : Quiet tr := by
  intro x hx r hr
  rcases h.has.1 x hx with hj | ⟨d, hd⟩ | hd
  · cases j with
    | printText t cut =>
        rcases hj with ⟨d, hd⟩ | ⟨-, d, hd⟩
        · rw [hr] at hd
          cases hd
        · rw [hr] at hd
          cases hd
    | openDrawer pin =>
        obtain ⟨d, hd⟩ := hj
        rw [hr] at hd
        cases hd
  · rw [hr] at hd
    cases hd
  · rw [hr] at hd
    cases hd

/-- The call before one of its exchanges. -/
theorem Called.before {p q : Trace} {x : Exchange Command Command.Answer} {ok : Bool}
    (h : Called l j (p ++ x :: q) ok) : Quiet p ∧
      (j.Has l x.1 ∨ (∃ d, x.1 = .close l d) ∨ x.1 = .connect) ∧
      (x.1.isText = true → texts p ≤ 1) := by
  obtain ⟨hall, htexts⟩ := h.has
  refine ⟨fun y hy ↦ h.quiet y (List.mem_append_left _ hy), hall x (by simp), fun hx ↦ ?_⟩
  have hcons : texts (x :: q) = texts q + 1 := List.countP_cons_of_pos hx
  rw [texts_append, hcons] at htexts
  omega

theorem Called.texts_drawer {tr : Trace} {ok : Bool} (h : Called l (.openDrawer pin) tr ok) :
    texts tr = 0 := by
  refine List.countP_eq_zero.mpr fun x hx ↦ ?_
  rcases h.has.1 x hx with ⟨d, hd⟩ | ⟨d, hd⟩ | hd
  all_goals rw [hd]; exact Bool.false_ne_true

/-- What is asked of an endpoint before its response. -/
abbrev Endpoint.Serves (S : Settings) (endpoint : Endpoint) (p : App Response) (tr : Trace) :
    Prop :=
  p.Tells (fun pre x ↦ Quiet pre ∧ endpoint.Allows S pre x.1)
    (fun r tr ↦ Quiet tr ∧ ∀ a, r = .ok a → endpoint.Allows S tr (.respond a)) tr

/-- An endpoint may raise where nothing was answered yet. -/
theorem serves_raise {endpoint : Endpoint} {tr : Trace} (h : Quiet tr) (e : Exc) :
    endpoint.Serves S (.raise e) tr :=
  ⟨h, fun a ha ↦ by cases ha⟩

theorem serves_print (body : PrintRequest) :
    (Endpoint.print body).Serves S (printEndpoint S body) [] := by
  refine tells_bind (tells_getPrinter fun r ↦ ?_)
  cases r with
  | error e => exact serves_raise quiet_nil e
  | ok printer => ?_
  dsimp only
  split
  swap
  · exact serves_raise quiet_nil _
  refine tells_bind (tells_catching (tells_bind (tells_printText (fun p x q r h ↦ ?_)
    fun p r h ↦ ?_)))
  · -- what `print_text` sends
    obtain ⟨hquiet, hhas, htexts⟩ := h.before
    refine ⟨hquiet, ?_⟩
    obtain ⟨c, a⟩ := x
    rcases hhas with (⟨d, rfl⟩ | ⟨hcut, d, rfl⟩) | ⟨d, rfl⟩ | rfl
    · exact ⟨rfl, htexts rfl⟩
    · exact hcut
    all_goals trivial
  cases r with
  | error e => exact serves_raise h.quiet _
  | ok u => ?_
  have hreceipt := h.receipt
  dsimp only
  split
  · rename_i hopen
    refine tells_openDrawer (fun p' x q r h' ↦ ?_) fun p' r h' ↦ ?_
    · -- what `open_drawer` sends, after the receipt
      obtain ⟨hquiet, hhas, -⟩ := h'.before
      refine ⟨h.quiet.append hquiet, ?_⟩
      obtain ⟨c, a⟩ := x
      rcases hhas with ⟨d, rfl⟩ | ⟨d, rfl⟩ | rfl
      · refine ⟨hopen, rfl, p, p', rfl, hreceipt, ?_⟩
        have := h'.texts_drawer
        rw [texts_append] at this
        omega
      all_goals trivial
    · cases r with
      | error e => exact serves_raise (h.quiet.append h'.quiet) _
      | ok u =>
          refine tells_bind (tells_stamp ⟨h.quiet.append h'.quiet, fun a ha ↦ ?_⟩)
          obtain rfl := Except.ok.inj ha
          refine ⟨printer, p, p', rfl, hreceipt, ?_⟩
          rw [if_pos hopen]
          exact h'.kicked
  · rename_i hopen
    refine tells_bind (tells_stamp ⟨h.quiet, fun a ha ↦ ?_⟩)
    obtain rfl := Except.ok.inj ha
    refine ⟨printer, p, [], (List.append_nil p).symm, hreceipt, ?_⟩
    rw [if_neg hopen]

theorem serves_openDrawer : Endpoint.openDrawer.Serves S (openDrawerEndpoint S) [] := by
  refine tells_bind (tells_getPrinter fun r ↦ ?_)
  cases r with
  | error e => exact serves_raise quiet_nil e
  | ok printer => ?_
  refine tells_bind (tells_catching (tells_openDrawer (fun p x q r h ↦ ?_) fun p r h ↦ ?_))
  · obtain ⟨hquiet, hhas, -⟩ := h.before
    refine ⟨hquiet, ?_⟩
    obtain ⟨c, a⟩ := x
    rcases hhas with ⟨d, rfl⟩ | ⟨d, rfl⟩ | rfl
    · rfl
    all_goals trivial
  · cases r with
    | error e => exact serves_raise h.quiet _
    | ok u =>
        refine ⟨h.quiet, fun a ha ↦ ?_⟩
        obtain rfl := Except.ok.inj ha
        exact ⟨printer, h.kicked⟩

theorem serves_status : Endpoint.status.Serves S statusEndpoint [] := by
  refine tells_bind (tells_getPrinter fun r ↦ ?_)
  cases r with
  | error e => exact serves_raise quiet_nil e
  | ok printer => ?_
  refine tells_bind (tells_isOnline (fun d a ↦ ⟨quiet_nil, rfl⟩) (fun s ↦ ?_) fun d a b s ↦ ?_)
  · refine ⟨quiet_nil, fun a ha ↦ ?_⟩
    obtain rfl := Except.ok.inj ha
    trivial
  · refine ⟨fun x hx r hr ↦ ?_, fun a ha ↦ ?_⟩
    · obtain rfl := List.mem_singleton.mp hx
      cases hr
    · obtain rfl := Except.ok.inj ha
      trivial

theorem serves_testPrint : Endpoint.testPrint.Serves S testPrintEndpoint [] := by
  refine tells_bind (tells_getPrinter fun r ↦ ?_)
  cases r with
  | error e => exact serves_raise quiet_nil e
  | ok printer => ?_
  refine tells_read fun s ↦ tells_bind (tells_catching (tells_printText (fun p x q r h ↦ ?_)
    fun p r h ↦ ?_))
  · obtain ⟨hquiet, hhas, htexts⟩ := h.before
    refine ⟨hquiet, ?_⟩
    obtain ⟨c, a⟩ := x
    rcases hhas with (⟨d, rfl⟩ | ⟨-, d, rfl⟩) | ⟨d, rfl⟩ | rfl
    · exact htexts rfl
    all_goals trivial
  · cases r with
    | error e => exact serves_raise h.quiet _
    | ok u =>
        refine tells_bind (tells_stamp ⟨h.quiet, fun a ha ↦ ?_⟩)
        obtain rfl := Except.ok.inj ha
        exact ⟨printer, _, h.receipt⟩

theorem serves_endpoint (S : Settings) (endpoint : Endpoint) :
    endpoint.Serves S (endpoint.serve S) [] := by
  cases endpoint with
  | print body => exact serves_print body
  | openDrawer => exact serves_openDrawer
  | status => exact serves_status
  | testPrint => exact serves_testPrint

end Endpoints

/-! ## Requests -/

/-- What a request of the register may ask of a driver and answer, after its exchanges.  OPTIONS
reaches no endpoint, and nor does a foreign origin. -/
def Settings.Permits (S : Settings) (origin : Option String) : Target → Trace → Command → Prop
  | .options requested, pre, c => pre = [] ∧ c = .respond (S.options origin requested)
  | .endpoint endpoint, pre, c =>
      if origin = some S.allowedOrigin then endpoint.Allows S pre c
      else pre = [] ∧ c = .respond (.error 403 "forbidden_origin" none)

/-- There was one response, and it was the last. -/
def Answered (tr : Trace) : Prop := ∃ pre r, tr = pre ++ [⟨.respond r, ()⟩] ∧ Quiet pre

/-- An endpoint may always fail. -/
theorem allows_response (S : Settings) (endpoint : Endpoint) (pre : Trace) (e : Exc) :
    endpoint.Allows S pre (.respond e.response) := by
  cases endpoint <;> cases e <;> trivial

theorem tells_respond {S : Settings} {origin : Option String} {target : Target} {r : Response}
    {tr : Trace} (h : Quiet tr) (hr : S.Permits origin target tr (.respond r)) :
    (respond r).Tells (fun pre x ↦ Quiet pre ∧ S.Permits origin target pre x.1)
      (fun _ ↦ Answered) tr :=
  fun _ ↦ ⟨⟨h, hr⟩, tr, r, rfl, h⟩

theorem tells_http (S : Settings) (origin : Option String) (target : Target) :
    (http S origin target).Tells (fun pre x ↦ Quiet pre ∧ S.Permits origin target pre x.1)
      (fun _ ↦ Answered) [] := by
  cases target with
  | options requested =>
      refine tells_respond quiet_nil ?_
      exact ⟨rfl, rfl⟩
  | endpoint endpoint =>
      rw [http]
      split
      · rename_i horigin
        have hpermits (pre : Trace) (c : Command) (h : endpoint.Allows S pre c) :
            S.Permits origin (.endpoint endpoint) pre c := by
          rw [Settings.Permits, if_pos horigin]
          exact h
        refine tells_bind (tells_catching ((serves_endpoint S endpoint).mono
          (fun pre x hx ↦ ⟨hx.1, hpermits _ _ hx.2⟩) fun r tr hr ↦ ?_))
        cases r with
        | ok a => exact tells_respond hr.1 (hpermits _ _ (hr.2 a rfl))
        | error e => exact tells_respond hr.1 (hpermits _ _ (allows_response S _ tr e))
      · rename_i horigin
        refine tells_respond quiet_nil ?_
        rw [Settings.Permits, if_neg horigin]
        exact ⟨rfl, rfl⟩

/-- What is asked of the exchanges of a request. -/
def Settings.Asks (S : Settings) : Request → Trace → Exchange Command Command.Answer → Prop
  | .http origin target, pre, x => Quiet pre ∧ S.Permits origin target pre x.1
  | _, _, _ => True

/-- What is asked of its end. -/
def Request.Ends : Request → Trace → Prop
  | .http _ _, tr => Answered tr
  | _, _ => True

theorem tells_handle (S : Settings) (i : Request) :
    (handle S i).Tells (S.Asks i) (fun _ ↦ i.Ends) [] := by
  cases i with
  | http origin target => exact tells_http S origin target
  | bootstrap | trayOnline | trayTestPrint | trayReconnect | trayQuit =>
      exact tells_any (fun _ _ ↦ trivial) fun _ _ ↦ trivial

/-- **What goes out for a request of the register.**  In every run, whatever the drivers do and
the other threads, each exchange of a request is one that its target permits after those before
it: nothing but the refusal comes from a foreign origin, nor but the answer to it from OPTIONS;
the drawer is not kicked before the receipt is out, no text is sent more than twice, and a request
is answered as printed when the whole receipt is out, and the drawer kicked after it if that was
asked for.  Nothing follows a response, and a request that has ended has had one. -/
theorem request_permits (S : Settings) {c : Scene} {s : Agent}
    (hrun : (machine S).Run ⟨s, [], []⟩ c) {n : Nat} {origin : Option String} {target : Target}
    {held : Option StarId} {p : App Unit}
    (hn : c.workers[n]? = some ⟨.http origin target, held, p⟩) :
    (∀ pre x, pre ++ [x] <+: c.told n →
      (∀ y ∈ pre, ∀ r, y.1 ≠ .respond r) ∧ S.Permits origin target pre x.1) ∧
    (p.Ended → ∃ pre r, c.told n = pre ++ [⟨.respond r, ()⟩] ∧
      ∀ y ∈ pre, ∀ r, y.1 ≠ .respond r) := by
  have hnew : Floor.Truthful S.Asks Request.Ends (⟨s, [], []⟩ : Scene) :=
    ⟨fun m w hm ↦ (by simp at hm), fun e he ↦ (by simp at he)⟩
  have htruthful := hnew.run (tells_handle S) hrun
  exact ⟨(htruthful.told n _ hn).1, fun hend ↦ htruthful.ended hn hend⟩

/-- A receipt that is printed, with the drawer. -/
theorem request_permits_printed : ∃ (c : Scene) (held : Option StarId) (p : App Unit),
    c.workers[0]? = some ⟨.http (some "http://pos-vm.local:8080")
      (.endpoint (.print ⟨"text", "Thank you\n", true, true⟩)), held, p⟩ ∧ p.Ended ∧
    (Endpoint.print ⟨"text", "Thank you\n", true, true⟩).Allows {}
      [⟨.text 0 7 "Thank you\n", .ok ()⟩, ⟨.cut 0 7, .ok ()⟩, ⟨.cashdraw 0 7 2, .ok ()⟩]
      (.respond .printed) ∧
    ∃ pre r, c.told 0 = pre ++ [⟨.respond r, ()⟩] ∧ ∀ y ∈ pre, ∀ r, y.1 ≠ .respond r := by
  have hstart : (machine {}).Step ⟨{ stars := [⟨some 7, true⟩], printer := some 0 }, [], []⟩ _ :=
    .start (.http (some "http://pos-vm.local:8080")
      (.endpoint (.print ⟨"text", "Thank you\n", true, true⟩)))
  have hrun := (((((((((((((Relation.ReflTransGen.single hstart).tail
    (.access (n := 0) rfl rfl)).tail
    (.acquire (n := 0) rfl (by simp) (by exact Nat.zero_lt_one))).tail
    (.access (n := 0) rfl rfl)).tail (.command (n := 0) rfl (.ok ()) trivial)).tail
    (.access (n := 0) rfl rfl)).tail (.command (n := 0) rfl (.ok ()) trivial)).tail
    (.release (n := 0) rfl)).tail
    (.acquire (n := 0) rfl (by simp) (by exact Nat.zero_lt_one))).tail
    (.access (n := 0) rfl rfl)).tail (.command (n := 0) rfl (.ok ()) trivial)).tail
    (.release (n := 0) rfl)).tail (.access (n := 0) rfl rfl)).tail
    (.command (n := 0) rfl () trivial)
  have hend : (Prog.pure () : App Unit).Ended := trivial
  obtain ⟨hpermits, hended⟩ := request_permits {} hrun (n := 0) (p := .pure ()) rfl
  have hallows := (hpermits _ _ (⟨[], rfl⟩ : [_, _, _] ++ [_] <+: _)).2
  rw [Settings.Permits, if_pos rfl] at hallows
  exact ⟨_, none, .pure (), rfl, hend, hallows, hended hend⟩

end HightowerPos.PrintAgent
