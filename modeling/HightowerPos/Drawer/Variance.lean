import HightowerPos.Async.Crew
import HightowerPos.Async.Stretch
import HightowerPos.Drawer.Closing
import HightowerPos.Drawer.Ledger
import HightowerPos.Footprint
import HightowerPos.Register.TillModals

/-!
# The variance that is recorded

`SessionMove` says what an access of a handler does to the till sessions.  So long as no
transaction is attributed to a session, it expects what `GET /api/till/current` has said of it,
and a close that starts meanwhile records the variance that the modal displays.
-/

namespace HightowerPos.Drawer

open Async Relation

/-! ## What handlers do to the sessions -/

/-- What an access of the handler of a request does to the till sessions, when the rows that it
has read are of `K`. -/
inductive SessionMove (K : TillSession → Prop) (i : Request) (w w' : World) : Prop
  | same (h : w'.db.tillSessions = w.db.tillSessions)
  | tallied {a : Till.Attribution}
      (h : w'.db.tillSessions = w.db.tillSessions.modify a.session.id a.tally)
  | opened {cashierId terminalId : String} {float : Cents} {counts : Denominations} {now : Time}
      (hfloat : Till.denominationsToCents counts = .ok float) (hfits : App.FitsInteger float)
      (h : w'.db.tillSessions =
        w.db.tillSessions.add (Till.newSession cashierId terminalId float counts now))
  | closed {s : TillSession} {closingCount : Cents} {counts : Denominations} {now : Time}
      (hi : i = .closeTill s.cashierId counts) (hread : K s)
      (hcount : Till.denominationsToCents counts = .ok closingCount)
      (h : w'.db.tillSessions =
        w.db.tillSessions.modify s.id (Till.closing s closingCount counts now))
  | rendered {x : Id} {path : String}
      (h : w'.db.tillSessions = w.db.tillSessions.modify x (Till.withPdfPath path))

/-- The program does this to the sessions, from states of `J`. -/
def Sits (J : World → Prop) (K : TillSession → Prop) (i : Request) {α : Type} (p : App α) : Prop :=
  p.Guarantees World.send J (SessionMove K i) fun _ ↦ True

section Handlers

variable {J : World → Prop} {K : TillSession → Prop} {i : Request}

/-- The handlers that open and close no till. -/
def untilled (J : World → Prop) : Scope where
  reads := J
  cart _ := True
  sale _ := True
  drains := True
  tills := False

/-- They only tally. -/
theorem sessionMove_of_access {settings : Settings} {w w' : World}
    (h : Access settings (untilled J) w w') : SessionMove K i w w' := by
  cases h with
  | sent q => exact .same (by cases q <;> rfl)
  | read | saleStored | refundStored | updated | notSent | refundRetried | requeued | resolved =>
      exact .same rfl
  | @saleCompleted _ _ _ a | @refundCompleted _ _ _ _ a =>
      cases a with
      | none => exact .same rfl
      | some a => exact .tallied (a := a) rfl
  | tillOpened h => exact h.elim
  | tillUpdated h => exact h.elim
  | @claimed _ ids =>
      obtain ⟨table, hclaimed⟩ := FabricOutbox.claimAll_eq ids w
      rw [hclaimed]
      exact .same rfl

/-- Go on with the session that was found. -/
theorem sits_getOpenSession {β : Type} {cashierId : String} {f : Option TillSession → App β}
    (hnone : Sits J K i (f none))
    (hsome : ∀ w s, J w → w.db.openSession cashierId = some s → Sits J K i (f (some s))) :
    Sits J K i (Till.getOpenSession cashierId >>= f) := by
  intro w hw
  refine ⟨.same rfl, ?_⟩
  show Sits J K i (f (w.db.openSession cashierId))
  cases hs : w.db.openSession cashierId with
  | none => exact hnone
  | some s => exact hsome w s hw hs

/-- Go on with an amount. -/
theorem sits_ofTill {α β : Type} {r : Except TillError α} {f : α → App β}
    (h : ∀ a, r = .ok a → Sits J K i (f a)) : Sits J K i (Till.ofTill r >>= f) := by
  cases r with
  | ok a => exact h a rfl
  | error e => trivial

/-- Go on with integers that fit. -/
theorem sits_bindIntegers {ns : List Int} {p : App β}
    (h : (∀ n ∈ ns, App.FitsInteger n) → Sits J K i p) :
    Sits J K i (App.bindIntegers ns >>= fun _ ↦ p) := by
  by_cases hns : ∀ n ∈ ns, App.FitsInteger n
  · rw [App.bindIntegers_of_fit hns]
    exact h hns
  · rw [App.bindIntegers_of_not_fit hns]
    trivial

theorem sits_openSession (cashierId terminalId : String) (counts : Denominations) :
    Sits J K i (Till.openSession cashierId terminalId counts) := by
  refine sits_getOpenSession ?_ fun _ _ _ _ ↦ trivial
  refine sits_ofTill fun float hfloat ↦ sits_bindIntegers fun hfits w _ ↦ ?_
  by_cases hsome : (w.db.openSession cashierId).isSome = true
  · simp only [hsome, if_true]
  · simp only [hsome, if_false, Bool.false_eq_true]
    exact ⟨.opened hfloat (hfits float (.head _)) rfl, trivial⟩

theorem sits_tryRenderPdf (session : TillSession) : Sits J K i (Till.tryRenderPdf session) := by
  refine fun w _ ↦ ⟨.same rfl, ?_⟩
  dsimp only [Prog.bind]
  cases w.db.posUsers.get? session.cashierId with
  | none => trivial
  | some user =>
      refine fun w _ ↦ ⟨.same rfl, fun rendered ↦ ?_⟩
      cases rendered with
      | none => trivial
      | some path => exact fun w _ ↦ ⟨.rendered rfl, trivial⟩

theorem sits_closeSession (hread : ∀ w s cashierId, J w → w.db.openSession cashierId = some s → K s)
    (cashierId : String) (counts : Denominations) (renders : Bool) :
    Sits J K (.closeTill cashierId counts) (Till.closeSession cashierId counts renders) := by
  refine sits_getOpenSession trivial fun w s hw hs ↦ sits_ofTill fun count hcount ↦
    sits_bindIntegers fun _ ↦ ?_
  obtain ⟨-, hcashier, -⟩ := Db.openSession_spec hs
  refine fun w' _ ↦ ⟨.closed (by rw [hcashier]) (hread w s cashierId hw hs) hcount rfl, ?_⟩
  refine fun w'' _ ↦ ⟨.same rfl, ?_⟩
  show Sits J K _ (if renders then _ else _)
  split
  · cases w''.db.session s.id with
    | none => trivial
    | some session => exact sits_tryRenderPdf _
  · trivial

/-- **What every handler does to the sessions.** -/
theorem sits_handle (D : Deployment)
    (hread : ∀ w s cashierId, J w → w.db.openSession cashierId = some s → K s) (i : Request) :
    Sits J K i (D.handle i) := by
  by_cases htill : ∃ cashierId counts,
      i = .openTill cashierId counts ∨ i = .closeTill cashierId counts
  · obtain ⟨cashierId, counts, rfl | rfl⟩ := htill
    · exact guarantees_seq (sits_openSession _ _ _) fun _ ↦ trivial
    · exact sits_closeSession hread _ _ _
  · have htreads := treads_handle D (S := untilled J) (fun _ _ _ _ ↦ trivial) (fun _ _ _ ↦ trivial)
      (fun _ ↦ trivial) (fun cashierId counts h ↦ htill ⟨cashierId, counts, h⟩) fun _ ↦ trivial
    exact htreads.weaken (fun _ h ↦ h) fun _ _ h ↦ sessionMove_of_access h

end Handlers

/-! ## What becomes of a row -/

/-- What such an access does to a row. -/
inductive RowMove (K : TillSession → Prop) (i : Request) (s : TillSession) : TillSession → Prop
  | same : RowMove K i s s
  | tallied (a : Till.Attribution) : RowMove K i s (a.tally.set s)
  | closed {read : TillSession} {closingCount : Cents} {counts : Denominations} (now : Time)
      (hi : i = .closeTill read.cashierId counts) (hid : read.id = s.id) (hread : K read)
      (hcount : Till.denominationsToCents counts = .ok closingCount) :
      RowMove K i s ((Till.closing read closingCount counts now).set s)
  | rendered (path : String) : RowMove K i s ((Till.withPdfPath path).set s)

section Rows

variable {K : TillSession → Prop} {i : Request} {w w' : World} {x : Id} {s s' : TillSession}

theorem tally_set_denominations (a : Till.Attribution) (s : TillSession) :
    (a.tally.set s).openingDenominations = s.openingDenominations ∧
      (a.tally.set s).closingDenominations = s.closingDenominations ∧
      (a.tally.set s).varianceCents = s.varianceCents := by
  simp only [Till.Attribution.tally]
  split
  · split <;> exact ⟨rfl, rfl, rfl⟩
  · exact ⟨rfl, rfl, rfl⟩

/-- A row stays, and only such a change befalls it. -/
theorem SessionMove.row (h : SessionMove K i w w') (hs : w.db.session x = some s) :
    ∃ s', w'.db.session x = some s' ∧ RowMove K i s s' := by
  have hmodify {y : Id} {u : TillUpdate}
      (htable : w'.db.tillSessions = w.db.tillSessions.modify y u)
      (hmove : y = s.id → RowMove K i s (u.set s)) :
      ∃ s', w'.db.session x = some s' ∧ RowMove K i s s' := by
    unfold Db.session
    rw [htable, Table.get?_modify]
    by_cases hy : x = y
    · subst hy
      rw [if_pos rfl]
      exact ⟨_, congrArg (Option.map u.set) hs, hmove (Table.key_of_get? hs).symm⟩
    · rw [if_neg hy]
      exact ⟨s, hs, .same⟩
  cases h with
  | same htable => exact ⟨s, (congrArg (Table.get? · x) htable).trans hs, .same⟩
  | tallied htable => exact hmodify htable fun _ ↦ .tallied _
  | opened _ _ htable =>
      exact ⟨s, (congrArg (Table.get? · x) htable).trans (Table.get?_add_of_some hs), .same⟩
  | closed hi hread hcount htable => exact hmodify htable fun hid ↦ .closed _ hi hid hread hcount
  | rendered htable => exact hmodify htable fun _ ↦ .rendered _

/-- A new row is that of a till that was opened. -/
theorem SessionMove.new (h : SessionMove K i w w') (hnone : w.db.session x = none)
    (hs : w'.db.session x = some s) :
    Till.denominationsToCents s.openingDenominations = .ok s.openingFloatCents := by
  have hmodify {y : Id} {u : TillUpdate}
      (htable : w'.db.tillSessions = w.db.tillSessions.modify y u) : False := by
    unfold Db.session at hnone hs
    rw [htable] at hs
    rcases Table.of_get?_modify hs with ⟨rfl, s₀, hs₀, -⟩ | ⟨-, hs₀⟩
    · exact nomatch hnone.symm.trans hs₀
    · exact nomatch hnone.symm.trans hs₀
  cases h with
  | same htable =>
      exact nomatch hnone.symm.trans ((congrArg (Table.get? · x) htable).symm.trans hs)
  | opened hfloat _ htable =>
      unfold Db.session at hnone hs
      rw [htable] at hs
      rcases Table.of_get?_add hs with ⟨rfl, rfl⟩ | ⟨-, hs₀⟩
      · exact hfloat
      · exact nomatch hnone.symm.trans hs₀
  | tallied htable | closed _ _ _ htable | rendered htable => exact (hmodify htable).elim

/-- The cashier and the opening of a row are never changed. -/
structure SameOpening (s s' : TillSession) : Prop where
  cashier : s'.cashierId = s.cashierId
  float : s'.openingFloatCents = s.openingFloatCents
  counts : s'.openingDenominations = s.openingDenominations

theorem RowMove.sameOpening (h : RowMove K i s s') : SameOpening s s' := by
  cases h with
  | tallied a =>
      obtain ⟨hcashier, -, hfloat⟩ := a.tally_set s
      exact ⟨hcashier, hfloat, (tally_set_denominations a s).1⟩
  | same | closed | rendered => exact ⟨rfl, rfl, rfl⟩

/-- The tallies of a session, which `attribute_transaction` moves. -/
structure SameTallies (s s' : TillSession) : Prop where
  transactions : s'.transactionCount = s.transactionCount
  cashTransactions : s'.cashTransactionCount = s.cashTransactionCount
  sales : s'.cashSalesCents = s.cashSalesCents
  refunds : s'.cashRefundsCents = s.cashRefundsCents

/-- **Only an attribution moves the tallies.** -/
theorem RowMove.sameTallies (h : RowMove K i s s') :
    SameTallies s s' ∨ ∃ a : Till.Attribution, s' = a.tally.set s := by
  cases h with
  | tallied a => exact .inr ⟨a, rfl⟩
  | same | closed | rendered => exact .inl ⟨rfl, rfl, rfl, rfl⟩

/-- The service expects this in the drawer of the cashier, and where the session is closed it has
recorded the difference to it. -/
structure Expects (cashierId : String) (e : Cents) (s : TillSession) : Prop where
  cashier : s.cashierId = cashierId
  expected : Till.expectedClosing s = e
  recorded : s.status = .closed → ∃ counts closingCount, s.closingDenominations = some counts ∧
    Till.denominationsToCents counts = .ok closingCount ∧ s.varianceCents = some (closingCount - e)

theorem Expects.move {cashierId : String} {e : Cents} (h : Expects cashierId e s)
    (hm : RowMove (fun read ↦ read.id = s.id → Till.expectedClosing read = e) i s s')
    (hsame : SameTallies s s') : Expects cashierId e s' := by
  have hexpected : Till.expectedClosing s' = e := by
    rw [← h.expected]
    unfold Till.expectedClosing
    rw [hm.sameOpening.float, hsame.sales, hsame.refunds]
  refine ⟨hm.sameOpening.cashier.trans h.cashier, hexpected, fun hclosed ↦ ?_⟩
  cases hm with
  | same => exact h.recorded hclosed
  | tallied a =>
      obtain ⟨-, hcounts, hvariance⟩ := tally_set_denominations a s
      rw [hcounts, hvariance]
      exact h.recorded ((a.tally_set s).2.1.symm.trans hclosed)
  | @closed read closingCount counts now hi hid hread hcount =>
      refine ⟨counts, closingCount, rfl, hcount, ?_⟩
      show some (closingCount - Till.expectedClosing read) = _
      rw [hread hid]
  | rendered path => exact h.recorded hclosed

end Rows

/-! ## Runs -/

section Runs

variable {D : Deployment} {w₀ w : World} {c c' c₁ c₂ : Crew World Call Answer PyExc Request}
  {x : Id} {s : TillSession} {e : Cents}

/-- The threads of a run do this to the sessions. -/
theorem abides_run {J : World → Prop} {K : TillSession → Prop}
    (hread : ∀ w s cashierId, J w → w.db.openSession cashierId = some s → K s)
    (hJ : ∀ c, Crew.Run (D.system .any) .free ⟨w₀, []⟩ c → Crew.Run (D.system .any) .free c c₁ →
      J c.state) (hrun : Crew.Run (D.system .any) .free ⟨w₀, []⟩ c₁) :
    c₁.Abides (D.system .any) J fun i ↦ SessionMove K i :=
  Crew.Abides.run (sits_handle D hread) (.nil w₀) hJ hrun

/-- Rows stay, with their opening. -/
theorem sameOpening_run (h₀ : Crew.Run (D.system .any) .free ⟨w₀, []⟩ c)
    (h₁ : Crew.Run (D.system .any) .free c c') (hs : c.state.db.session x = some s) :
    ∃ s', c'.state.db.session x = some s' ∧ SameOpening s s' := by
  have habides := abides_run (J := fun _ ↦ True) (K := fun _ ↦ True) (fun _ _ _ _ _ ↦ trivial)
    (fun _ _ _ ↦ trivial) h₀
  refine (habides.moves (K := fun w w' ↦ ∀ s, w.db.session x = some s →
    ∃ s', w'.db.session x = some s' ∧ SameOpening s s') (fun w s hs ↦ ⟨s, hs, rfl, rfl, rfl⟩)
    ?_ ?_ ?_ (sits_handle D fun _ _ _ _ _ ↦ trivial) (fun _ ↦ trivial) h₁).2 s hs
  · intro w w' w'' h h' s hs
    obtain ⟨s', hs', hsame⟩ := h s hs
    obtain ⟨s'', hs'', hsame'⟩ := h' s' hs'
    exact ⟨s'', hs'', hsame'.cashier.trans hsame.cashier, hsame'.float.trans hsame.float,
      hsame'.counts.trans hsame.counts⟩
  · intro i w w' hm s hs
    obtain ⟨s', hs', hrow⟩ := hm.row hs
    exact ⟨s', hs', hrow.sameOpening⟩
  · intro w w' hd s hs
    exact ⟨s, (congrArg (Db.session · x) (World.Drift.db hd)).trans hs, rfl, rfl, rfl⟩

/-- The float of the session is what its opening denominations add up to. -/
def Floats (x : Id) (w : World) : Prop :=
  ∀ s, w.db.session x = some s →
    Till.denominationsToCents s.openingDenominations = .ok s.openingFloatCents

theorem float_run (hempty : w₀.db.tillSessions = .empty)
    (hrun : Crew.Run (D.system .any) .free ⟨w₀, []⟩ c) : Floats x c.state := by
  have hstart (i : Request) : Sits (fun _ ↦ True) (fun _ ↦ True) i (D.handle i) :=
    sits_handle D (fun _ _ _ _ _ ↦ trivial) i
  have hmoves := Crew.Abides.moves (K := fun w w' ↦ Floats x w → Floats x w') (fun _ h ↦ h)
    (fun _ _ _ h h' hw ↦ h' (h hw)) ?_ ?_ hstart (fun _ ↦ trivial) (.nil w₀) hrun
  · refine hmoves.2 fun s hs ↦ ?_
    unfold Db.session at hs
    rw [hempty] at hs
    cases hs
  · intro i w w' hm hw s' hs'
    cases hold : w.db.session x with
    | none => exact hm.new hold hs'
    | some s =>
        obtain ⟨s₁, hs₁, hrow⟩ := hm.row hold
        obtain rfl := Option.some.inj (hs₁.symm.trans hs')
        rw [hrow.sameOpening.counts, hrow.sameOpening.float]
        exact hw s hold
  · intro w w' hd hw s hs
    exact hw s ((congrArg (Db.session · x) (World.Drift.db hd)).symm.trans hs)

/-- A step with which no transaction is attributed to the session. -/
def Unattributed (D : Deployment) (x : Id) (c c' : Crew World Call Answer PyExc Request) : Prop :=
  Crew.Step (D.system .any) .free c c' ∧ ∀ s s', c.state.db.session x = some s →
    c'.state.db.session x = some s' → SameTallies s s'

/-- The session, if it is there, is of the cashier and expects this. -/
def Steady (x : Id) (cashierId : String) (e : Cents) (w : World) : Prop :=
  ∀ s, w.db.session x = some s → s.cashierId = cashierId ∧ Till.expectedClosing s = e

/-- Whoever reads the session reads what is expected of it. -/
def Reads (x : Id) (e : Cents) (read : TillSession) : Prop :=
  read.id = x → Till.expectedClosing read = e

/-- So long as no transaction is attributed the session expects the same, and a close records
the difference to that. -/
theorem expects_run {cashierId : String}
    (h : c₁.Abides (D.system .any) (Steady x cashierId e) fun i ↦ SessionMove (Reads x e) i)
    (hs : ∃ s, c₁.state.db.session x = some s ∧ Expects cashierId e s)
    (hrun : ReflTransGen (Unattributed D x) c₁ c₂) :
    ∃ s, c₂.state.db.session x = some s ∧ Expects cashierId e s := by
  have hread (w : World) (s : TillSession) (u : String) (hw : Steady x cashierId e w)
      (hopen : w.db.openSession u = some s) : Reads x e s := by
    rintro rfl
    exact (hw s (Db.openSession_spec hopen).1).2
  suffices hboth : c₂.Abides (D.system .any) (Steady x cashierId e)
      (fun i ↦ SessionMove (Reads x e) i) ∧
      ∃ s, c₂.state.db.session x = some s ∧ Expects cashierId e s from hboth.2
  induction hrun with
  | refl => exact ⟨h, hs⟩
  | @tail c c' _ hstep ih =>
      obtain ⟨habides, s, hs, hexpects⟩ := ih
      obtain ⟨hstep, htallies⟩ := hstep
      obtain ⟨habides', hmove⟩ := habides.step (sits_handle D hread) (fun s' hs' ↦ by
        obtain rfl := Option.some.inj (hs.symm.trans hs')
        exact ⟨hexpects.cashier, hexpects.expected⟩) hstep
      refine ⟨habides', ?_⟩
      rcases hmove with hsame | ⟨t, -, hm⟩ | hd
      · exact ⟨s, hsame ▸ hs, hexpects⟩
      · obtain ⟨s', hs', hrow⟩ := hm.row hs
        obtain rfl := Table.key_of_get? hs
        exact ⟨s', hs', hexpects.move hrow (htallies s s' hs hs')⟩
      · exact ⟨s, (congrArg (Db.session · x) (World.Drift.db hd)).trans hs, hexpects⟩

/-- What the threads of a state do from then on to the OPEN session of the cashier, when none of
them closes a till of the cashier. -/
theorem abides_shown {cashierId : String} (hrun : Crew.Run (D.system .any) .free ⟨w₀, []⟩ c)
    (hs : c.state.db.openSession cashierId = some s)
    (hnone : ∀ t ∈ c.threads, ∀ counts, t.1 ≠ .closeTill cashierId counts) :
    c.Abides (D.system .any) (Steady s.id cashierId (Till.expectedClosing s))
      fun i ↦ SessionMove (Reads s.id (Till.expectedClosing s)) i := by
  obtain ⟨hsession, hcashier, -⟩ := Db.openSession_spec hs
  -- whoever has read the session has read its cashier
  have hcashiers (c' : Crew World Call Answer PyExc Request)
      (h₀ : Crew.Run (D.system .any) .free ⟨w₀, []⟩ c') (h₁ : Crew.Run (D.system .any) .free c' c)
      (s' : TillSession) (hs' : c'.state.db.session s.id = some s') : s'.cashierId = cashierId := by
    obtain ⟨s'', hs'', hsame⟩ := sameOpening_run h₀ h₁ hs'
    obtain rfl := Option.some.inj (hs''.symm.trans hsession)
    exact hsame.cashier.symm.trans hcashier
  have hread (w : World) (read : TillSession) (u : String)
      (hw : ∀ s', w.db.session s.id = some s' → s'.cashierId = cashierId)
      (hopen : w.db.openSession u = some read) : read.id = s.id → read.cashierId = cashierId :=
    fun hid ↦ hw read (hid ▸ (Db.openSession_spec hopen).1)
  have habides := abides_run hread hcashiers hrun
  intro t ht
  refine (habides t ht).weaken (fun w hw s' hs' ↦ (hw s' hs').1) fun w w' hm ↦ ?_
  cases hm with
  | same h => exact .same h
  | tallied h => exact .tallied h
  | opened hfloat hfits h => exact .opened hfloat hfits h
  | rendered h => exact .rendered h
  | @closed read closingCount counts now hi hread hcount h =>
      refine .closed hi (fun hid ↦ ?_) hcount h
      exact absurd (hread hid ▸ hi) (hnone t ht counts)

/-! ## One request -/

/-- A refused request writes nothing, whatever the states it meets. -/
def Refused {α : Type} (p : App α) : Prop :=
  p.Guarantees World.send (fun _ ↦ True) Eq fun r ↦ ∃ e, r = .error (.till e)

theorem refused_getOpenSession {β : Type} {cashierId : String} {f : Option TillSession → App β}
    (h : ∀ session, Refused (f session)) : Refused (Till.getOpenSession cashierId >>= f) :=
  fun w _ ↦ ⟨rfl, h (w.db.openSession cashierId)⟩

theorem refused_ofTill {α β : Type} {r : Except TillError α} {e : TillError} (h : r = .error e)
    (f : α → App β) : Refused (Till.ofTill r >>= f) := by
  subst h
  exact ⟨e, rfl⟩

theorem refused_openSession {counts : Denominations} {e : TillError}
    (h : Till.denominationsToCents counts = .error e) (cashierId terminalId : String) :
    Refused (Till.openSession cashierId terminalId counts) := by
  refine refused_getOpenSession fun session ↦ ?_
  cases session with
  | some existing => exact ⟨_, rfl⟩
  | none => exact refused_ofTill h _

theorem refused_closeSession {counts : Denominations} {e : TillError}
    (h : Till.denominationsToCents counts = .error e) (cashierId : String) (renders : Bool) :
    Refused (Till.closeSession cashierId counts renders) := by
  refine refused_getOpenSession fun session ↦ ?_
  cases session with
  | none => exact ⟨_, rfl⟩
  | some session => exact refused_ofTill h _

/-- An amount of the request overflows its column, whatever the states that are met: nothing is
written. -/
def Overflows {α : Type} (p : App α) : Prop :=
  p.Guarantees World.send (fun _ ↦ True) Eq fun r ↦
    r = .error .overflow ∨ ∃ e, r = .error (.till e)

theorem overflows_bindIntegers {β : Type} {ns : List Int} (h : ¬ ∀ n ∈ ns, App.FitsInteger n)
    (f : Unit → App β) : Overflows (App.bindIntegers ns >>= f) := by
  rw [App.bindIntegers_of_not_fit h]
  exact Or.inl rfl

theorem overflows_openSession {counts : Denominations} {float : Cents}
    (h : Till.denominationsToCents counts = .ok float) (hfits : ¬ App.FitsInteger float)
    (cashierId terminalId : String) : Overflows (Till.openSession cashierId terminalId counts) := by
  refine fun w _ ↦ ⟨rfl, ?_⟩
  cases hopen : w.db.openSession cashierId with
  | some existing =>
      simp only [Prog.bind, Prog.pure_eq, hopen]
      exact Or.inr ⟨_, rfl⟩
  | none =>
      simp only [Prog.bind, Prog.pure_eq, hopen]
      rw [h]
      exact overflows_bindIntegers (fun hall ↦ hfits (hall float (.head _))) _

theorem overflows_closeSession {counts : Denominations} {closingCount : Cents}
    (h : Till.denominationsToCents counts = .ok closingCount)
    (hfits : ¬ App.FitsInteger closingCount) (cashierId : String) (renders : Bool) :
    Overflows (Till.closeSession cashierId counts renders) := by
  rw [closeSession_eq]
  refine fun w _ ↦ ⟨rfl, ?_⟩
  show Overflows (closeFrom counts renders (w.db.openSession cashierId))
  cases w.db.openSession cashierId with
  | none => exact Or.inr ⟨_, rfl⟩
  | some session =>
      simp only [closeFrom, h]
      rw [if_neg fun hall ↦ hfits (hall closingCount (.head _))]
      exact Or.inl rfl

/-- What `GET /api/till/current` answers is of the OPEN session. -/
theorem openSession_of_currentTill {cashierId : String} {current : Till.CurrentResponse}
    (h : (Till.currentTill cashierId).stretch World.send w = (w, .over (.ok (some current)))) :
    ∃ s, w.db.openSession cashierId = some s ∧ current = Till.currentResponse s := by
  have hanswer : (w, Stop.over (.ok ((w.db.openSession cashierId).map Till.currentResponse))) =
      (w, Stop.over (.ok (some current))) := h
  simp only [Prod.mk.injEq, Stop.over.injEq, Except.ok.injEq, true_and] at hanswer
  obtain ⟨s, hs, hcurrent⟩ := Option.map_eq_some_iff.mp hanswer
  exact ⟨s, hs, hcurrent.symm⟩

/-- The variance that is shown is the one that is recorded. -/
theorem recorded_eq_shown {counts : Denominations} {closingCount : Cents}
    (h : Till.denominationsToCents counts = .ok closingCount) (s : TillSession) :
    closingCount - Till.expectedClosing s =
      Register.closeVariance (some (Till.currentResponse s)) counts := by
  obtain ⟨-, -, rfl⟩ := (Register.till_denominationsToCents_eq_ok_iff _ _).mp h
  rfl

/-- What a close records against such an answer fits its columns. -/
def Recordable (current : Till.CurrentResponse) (counts : Denominations) : Prop :=
  ∀ n ∈ [Register.openTotal counts, current.expectedClosingCents,
    Register.closeVariance (some current) counts], App.FitsInteger n

/-- The integers of a close are those that the modal displays. -/
theorem closingIntegers_eq {counts : Denominations} {closingCount : Cents}
    (h : Till.denominationsToCents counts = .ok closingCount) {s₁ : TillSession}
    (hexpected : Till.expectedClosing s = Till.expectedClosing s₁) :
    Till.closingIntegers s closingCount =
      [Register.openTotal counts, (Till.currentResponse s₁).expectedClosingCents,
        Register.closeVariance (some (Till.currentResponse s₁)) counts] := by
  unfold Till.closingIntegers
  rw [hexpected, recorded_eq_shown h]
  obtain ⟨-, -, rfl⟩ := (Register.till_denominationsToCents_eq_ok_iff _ _).mp h
  rfl

/-- An open of counts that a modal builds has recorded the total that it displays, or overflows. -/
theorem opens_as_shown {cashierId : String} {counts : Denominations}
    (hnone : w.db.openSession cashierId = none) (hcounts : Register.Entered counts)
    (terminalId : String) :
    (App.FitsInteger (Register.openTotal counts) → ∃ w' s,
      (Till.openSession cashierId terminalId counts).stretch World.send w = (w', .over (.ok s)) ∧
        w'.db.session s.id = some s ∧ s.openingDenominations = counts ∧
        s.openingFloatCents = Register.openTotal counts) ∧
    (¬ App.FitsInteger (Register.openTotal counts) →
      (Till.openSession cashierId terminalId counts).stretch World.send w =
        (w, .over (.error .overflow))) := by
  constructor
  · intro hfits
    refine ⟨_, _, Till.stretch_openSession hnone hcounts.accepted hfits terminalId, ?_, rfl, rfl⟩
    show Table.get? (Table.add _ _) _ = _
    rw [Table.get?_add]
    exact if_pos rfl
  · intro hfits
    exact Till.stretch_openSession_overflow hnone hcounts.accepted hfits terminalId

/-- A close of counts that a modal builds has recorded the variance that it displays, or
overflows. -/
theorem closes_as_shown {cashierId : String} {counts : Denominations} {s₁ : TillSession}
    (hopen : w.db.openSession cashierId = some s) (hcounts : Register.Entered counts)
    (hexpected : Till.expectedClosing s = Till.expectedClosing s₁) (renders : Bool) :
    (Recordable (Till.currentResponse s₁) counts → ∃ s',
      ((Till.closeSession cashierId counts renders).stretch World.send w).1.db.session s.id =
          some s' ∧ s'.status = .closed ∧ s'.closingDenominations = some counts ∧
        s'.varianceCents =
          some (Register.closeVariance (some (Till.currentResponse s₁)) counts)) ∧
    (¬ Recordable (Till.currentResponse s₁) counts →
      (Till.closeSession cashierId counts renders).stretch World.send w =
        (w, .over (.error .overflow))) := by
  have hintegers := closingIntegers_eq hcounts.accepted hexpected
  constructor
  · intro hfit
    rw [Till.stretch_closeSession hopen hcounts.accepted (hintegers ▸ hfit)]
    refine ⟨(Till.closing s (Register.denominationsToCents counts) counts w.now).set s, ?_, rfl,
      rfl, ?_⟩
    · show Table.get? (Table.modify _ _ _) _ = _
      rw [Table.get?_modify_self]
      exact congrArg (Option.map _) (Db.openSession_spec hopen).1
    · show some (_ - Till.expectedClosing s) = _
      rw [hexpected, recorded_eq_shown hcounts.accepted]
  · intro hfit
    exact Till.stretch_closeSession_overflow hopen hcounts.accepted (hintegers ▸ hfit) renders

/-- **The variance the cashier sees is the variance recorded.**  What the modals build is
accepted, at the total that the register displays; what the service rejects is an unknown key or a
negative count, and then nothing is written; nor is it when an amount does not fit its column.
Every float in a run is the total that was displayed.  A modal displays what
`GET /api/till/current` answers in a state in which the till is not being closed: so long as no
transaction is attributed to the session, whatever close is recorded has recorded the variance that
the modal displays for its counts, and a close of such counts is recorded, or overflows. -/
theorem variance_shown_is_recorded (D : Deployment) :
    (∀ counts, Register.Entered counts → ∃ a, Till.denominationsToCents counts = .ok a) ∧
    (∀ counts a, Till.denominationsToCents counts = .ok a →
      a = Register.denominationsToCents counts) ∧
    (∀ counts, (∃ e, Till.denominationsToCents counts = .error e) ↔
      (∃ kv ∈ counts, kv.1 ∉ Till.denominationKeys) ∨
        ∃ key n, counts.lookup key = some n ∧ n < 0) ∧
    (∀ counts e, Till.denominationsToCents counts = .error e →
      ∀ cashierId terminalId renders, Refused (Till.openSession cashierId terminalId counts) ∧
        Refused (Till.closeSession cashierId counts renders)) ∧
    (∀ counts a, Till.denominationsToCents counts = .ok a → ¬ App.FitsInteger a →
      ∀ cashierId terminalId renders, Overflows (Till.openSession cashierId terminalId counts) ∧
        Overflows (Till.closeSession cashierId counts renders)) ∧
    (∀ (w : World) cashierId terminalId counts, w.db.openSession cashierId = none →
      Register.Entered counts →
      (App.FitsInteger (Register.openTotal counts) → ∃ w' s,
        (Till.openSession cashierId terminalId counts).stretch World.send w = (w', .over (.ok s)) ∧
          w'.db.session s.id = some s ∧ s.openingDenominations = counts ∧
          s.openingFloatCents = Register.openTotal counts) ∧
      (¬ App.FitsInteger (Register.openTotal counts) →
        (Till.openSession cashierId terminalId counts).stretch World.send w =
          (w, .over (.error .overflow)))) ∧
    ∀ (w₀ : World) (c₁ : Crew World Call Answer PyExc Request),
      w₀.db.tillSessions = .empty → Crew.Run (D.system .any) .free ⟨w₀, []⟩ c₁ →
      (∀ x s, c₁.state.db.session x = some s →
        s.openingFloatCents = Register.openTotal s.openingDenominations) ∧
      ∀ cashierId current,
        (Till.currentTill cashierId).stretch World.send c₁.state =
          (c₁.state, .over (.ok (some current))) →
        (∀ t ∈ c₁.threads, ∀ counts, t.1 ≠ .closeTill cashierId counts) →
        ∀ c₂, ReflTransGen (Unattributed D current.sessionId) c₁ c₂ →
          ∃ s, c₂.state.db.session current.sessionId = some s ∧
            (s.status = .closed → ∃ counts, s.closingDenominations = some counts ∧
              s.varianceCents = some (Register.closeVariance (some current) counts)) ∧
            (c₂.state.db.openSession cashierId = some s → ∀ counts renders,
              Register.Entered counts →
              (Recordable current counts → ∃ s',
                ((Till.closeSession cashierId counts renders).stretch World.send
                  c₂.state).1.db.session s.id = some s' ∧ s'.status = .closed ∧
                s'.closingDenominations = some counts ∧
                s'.varianceCents = some (Register.closeVariance (some current) counts)) ∧
              (¬ Recordable current counts →
                (Till.closeSession cashierId counts renders).stretch World.send c₂.state =
                  (c₂.state, .over (.error .overflow)))) := by
  refine ⟨fun counts h ↦ ⟨_, h.accepted⟩, fun counts a h ↦
      ((Register.till_denominationsToCents_eq_ok_iff _ _).mp h).2.2,
    Register.till_denominationsToCents_error_iff, fun counts e h cashierId terminalId renders ↦
      ⟨refused_openSession h _ _, refused_closeSession h _ _⟩,
    fun counts a h hfits cashierId terminalId renders ↦
      ⟨overflows_openSession h hfits _ _, overflows_closeSession h hfits _ _⟩, ?_, ?_⟩
  · intro w cashierId terminalId counts hnone hcounts
    exact opens_as_shown hnone hcounts terminalId
  · intro w₀ c₁ hempty hrun
    refine ⟨fun x s hs ↦ ?_, ?_⟩
    · exact ((Register.till_denominationsToCents_eq_ok_iff _ _).mp
        (float_run hempty hrun s hs)).2.2
    · intro cashierId current hcurrent hnone c₂ hbetween
      obtain ⟨s₁, hopen, rfl⟩ := openSession_of_currentTill hcurrent
      obtain ⟨hs₁, hcashier, hstatus⟩ := Db.openSession_spec hopen
      have hshown : Expects cashierId (Till.expectedClosing s₁) s₁ :=
        ⟨hcashier, rfl, fun hclosed ↦ nomatch hstatus.symm.trans hclosed⟩
      obtain ⟨s, hs, hexpects⟩ := expects_run (abides_shown hrun hopen hnone)
        ⟨s₁, hs₁, hshown⟩ hbetween
      refine ⟨s, hs, ?_, ?_⟩
      · intro hclosed
        obtain ⟨counts, closingCount, hdenominations, hcount, hvariance⟩ :=
          hexpects.recorded hclosed
        exact ⟨counts, hdenominations, by rw [hvariance, recorded_eq_shown hcount]⟩
      · intro hopen₂ counts renders hcounts
        exact closes_as_shown hopen₂ hcounts hexpects.expected renders

end Runs

/-- Alice has opened her till with one hundred. -/
def counting : Crew World Call Answer PyExc Request where
  state := newRegister.addSession (Till.newSession "alice" "station" 10000 [("hundred", 1)] 0)
  threads := [(.openTill "alice" [("hundred", 1)], .pure ())]

/-- A count that the modals build, of more cents than a column holds. -/
def tooMany : Denominations := [("hundred", 10 ^ 17)]

/-- Neither a till is opened with it nor closed. -/
theorem variance_shown_overflows :
    Register.Entered tooMany ∧ Till.denominationsToCents tooMany = .ok (10 ^ 21) ∧
      (Till.openSession "alice" "station" tooMany).stretch World.send newRegister =
        (newRegister, .over (.error .overflow)) ∧
      (Till.closeSession "alice" tooMany true).stretch World.send counting.state =
        (counting.state, .over (.error .overflow)) := by
  have hset : tooMany = Register.setCount [] "hundred" (some (10 ^ 17)) := by decide
  have hentered : Register.Entered tooMany := by
    rw [hset]
    exact .set (d := ⟨"hundred", "$100", 10000⟩) .nil (.head _) (some (10 ^ 17))
  have hlarge : ¬ App.FitsInteger (10 ^ 21) := by decide
  refine ⟨hentered, hentered.accepted, ?_, ?_⟩
  · exact Till.stretch_openSession_overflow rfl hentered.accepted hlarge "station"
  · exact Till.stretch_closeSession_overflow rfl hentered.accepted
      (fun hall ↦ hlarge (hall _ (.head _))) true

/-- She is shown one hundred, and closes with ninety. -/
theorem variance_shown_is_recorded_short :
    ∃ (c : Crew World Call Answer PyExc Request) (current : Till.CurrentResponse)
      (s : TillSession), current.expectedClosingCents = 10000 ∧
      ReflTransGen (Unattributed .sample 0) counting c ∧ c.state.db.session 0 = some s ∧
      s.closingDenominations = some [("fifty", 1), ("twenty", 2)] ∧
      s.varianceCents = some (-1000) ∧
      s.varianceCents =
        some (Register.closeVariance (some current) [("fifty", 1), ("twenty", 2)]) := by
  have hrun : Crew.Run (Deployment.sample.system .any) .free ⟨newRegister, []⟩ counting :=
    .tail (.tail (.tail .refl (.start (.openTill "alice" [("hundred", 1)])))
      (.access (l := []) (r := []) rfl)) (.access (l := []) (r := []) rfl)
  have hquiet {c c' : Crew World Call Answer PyExc Request} {s s' : TillSession}
      (hstep : Crew.Step (Deployment.sample.system .any) .free c c')
      (hs : c.state.db.session 0 = some s) (hs' : c'.state.db.session 0 = some s')
      (hsame : SameTallies s s') : Unattributed .sample 0 c c' :=
    ⟨hstep, fun _ _ h h' ↦ by
      obtain rfl := Option.some.inj (hs.symm.trans h)
      obtain rfl := Option.some.inj (hs'.symm.trans h')
      exact hsame⟩
  have hstart := hquiet (c := counting) (.start (.closeTill "alice" [("fifty", 1), ("twenty", 2)]))
    rfl rfl ⟨rfl, rfl, rfl, rfl⟩
  have hread := (ReflTransGen.single hstart).tail
    (hquiet (.access (l := counting.threads) (r := []) rfl) rfl rfl ⟨rfl, rfl, rfl, rfl⟩)
  have hclose := hread.tail
    (hquiet (.access (l := counting.threads) (r := []) rfl) rfl rfl ⟨rfl, rfl, rfl, rfl⟩)
  obtain ⟨s, hs, hrecorded, -⟩ := ((variance_shown_is_recorded .sample).2.2.2.2.2.2 _ _ rfl hrun).2
    "alice" _ rfl (by simp [counting]) _ hclose
  obtain rfl := Option.some.inj hs
  obtain ⟨counts, hcounts, hvariance⟩ := hrecorded rfl
  obtain rfl := Option.some.inj hcounts
  exact ⟨_, _, _, rfl, hclose, hs, rfl, rfl, hvariance⟩

end HightowerPos.Drawer
