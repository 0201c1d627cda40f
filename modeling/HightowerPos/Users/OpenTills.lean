import HightowerPos.Async.Crew
import HightowerPos.Async.Stretch
import HightowerPos.Routes
import HightowerPos.Users.LastActive
import Mathlib.Data.Fintype.EquivFin

/-!
# Open tills and their cashiers

A till session is closed by its own cashier, and `get_auth` lets active users in only.  No
statement changes the users and the till sessions together, so that every open till keeps an
active cashier as long as nobody is deactivated whose till is open and no till is opened for
somebody who was deactivated meanwhile (`open_till_staffed_iff`).  `deactivate_user` does not look
at the tills.
-/

namespace HightowerPos.Tills

open Async

/-! ## The requests -/

/-- The requests that open and close tills, log in and manage users. -/
inductive Request
  | openTill (token : Option String) (counts : Denominations)
  | closeTill (token : Option String) (counts : Denominations)
  | login (username : String) (verified : Bool) (token : String) (ttl : Time)
  | createUser (token : Option String) (username displayName : String)
  | resetPassword (token : Option String) (username : String)
  | deactivateUser (token : Option String) (username : String)

/-- A route whose body is modelled. -/
abbrev serve (D : Deployment) (token : Option String) (r : Route) (p : r.Params) : App Unit :=
  Routes.serve D (fun _ _ ↦ .pure ()) token r p

/-- The program of a request. -/
def handle (D : Deployment) : Request → App Unit
  | .openTill token counts => serve D token .openTill counts
  | .closeTill token counts => serve D token .closeTill counts
  | .login username verified token ttl => Users.login username verified token ttl
  | .createUser token username displayName => serve D token .createUser (username, displayName)
  | .resetPassword token username => serve D token .resetPassword username
  | .deactivateUser token username => serve D token .deactivateUser username

/-- The requests, each in a thread of its own. -/
def system (D : Deployment) : System World Call Answer PyExc Request where
  handle := handle D
  send := World.send
  reply _ _ _ := True
  drift := World.Drift

/-- The user is active. -/
def Active (w : World) (x : String) : Prop :=
  ∃ u, w.db.posUsers.get? x = some u ∧ u.isActive = true

/-- The session is OPEN, for this cashier. -/
def OpenFor (w : World) (x : Id) (cashierId : String) : Prop :=
  ∃ s, w.db.session x = some s ∧ s.cashierId = cashierId ∧ s.status = .open

/-- A cashier has one OPEN session at most. -/
def OneOpen (w : World) : Prop :=
  ∀ x y cashierId, OpenFor w x cashierId → OpenFor w y cashierId → x = y

/-- The cashier logs in and closes the session. -/
def Closable (D : Deployment) (w : World) (x : Id) (cashierId : String) : Prop :=
  ∃ token counts ttl s,
    ((serve D (some token) .closeTill counts).stretch World.send
      ((Users.login cashierId true token ttl).stretch World.send w).1).1.db.session x = some s ∧
    s.status = .closed

/-- Every OPEN session is that of an active user, who can close it. -/
def Staffed (D : Deployment) (w : World) : Prop :=
  ∀ x cashierId, OpenFor w x cashierId → Active w cashierId ∧ Closable D w x cashierId

/-- Nobody is deactivated whose session is OPEN, and no session is opened for somebody who is
not active. -/
structure Guarded (c c' : Crew World Call Answer PyExc Request) : Prop where
  users : ∀ cashierId, Active c.state cashierId → ¬ Active c'.state cashierId →
    ∀ x, ¬ OpenFor c.state x cashierId
  tills : ∀ x cashierId, ¬ OpenFor c.state x cashierId → OpenFor c'.state x cashierId →
    Active c.state cashierId

/-! ## What an access does -/

/-- What the drawer is to hold, and the variance of an empty one, fit their columns. -/
def Countable (s : TillSession) : Prop :=
  App.FitsInteger (Till.expectedClosing s) ∧ App.FitsInteger (-Till.expectedClosing s)

/-- Each cashier has one OPEN session at most, and it can be counted. -/
structure Sound (w : World) : Prop where
  one : OneOpen w
  counts : ∀ x s, w.db.session x = some s → s.status = .open → Countable s

/-- An access leaves the till sessions or the users alone, and opens no second session. -/
def Moves (w w' : World) : Prop :=
  w'.db.tillSessions = w.db.tillSessions ∨
    (w'.db.posUsers = w.db.posUsers ∧ (Sound w → Sound w'))

section Accesses

variable {w w' : World}

theorem OpenFor.of_same {x : Id} {cashierId : String}
    (hw : w'.db.tillSessions = w.db.tillSessions) :
    OpenFor w' x cashierId ↔ OpenFor w x cashierId := by
  unfold OpenFor Db.session
  rw [hw]

/-- An update that opens nothing. -/
theorem OneOpen.updateSession {y : Id} {v : TillUpdate} (h : OneOpen w)
    (hc : ∀ s, (v.set s).cashierId = s.cashierId)
    (hs : ∀ s, (v.set s).status = .open → s.status = .open) : OneOpen (w.updateSession y v) := by
  have hback (x : Id) (cashierId : String) (hx : OpenFor (w.updateSession y v) x cashierId) :
      OpenFor w x cashierId := by
    obtain ⟨s', hs', hcs, hos⟩ := hx
    rcases Table.of_get?_modify hs' with ⟨rfl, s, hrow, rfl⟩ | ⟨-, hrow⟩
    · exact ⟨s, hrow, (hc s).symm.trans hcs, hs s hos⟩
    · exact ⟨s', hrow, hcs, hos⟩
  intro x z cashierId hx hz
  exact h x z cashierId (hback x cashierId hx) (hback z cashierId hz)

theorem Sound.updateSession {y : Id} {v : TillUpdate} (h : Sound w)
    (hc : ∀ s, (v.set s).cashierId = s.cashierId)
    (hs : ∀ s, (v.set s).status = .open →
      s.status = .open ∧ Till.expectedClosing (v.set s) = Till.expectedClosing s) :
    Sound (w.updateSession y v) := by
  refine ⟨h.one.updateSession hc fun s hopen ↦ (hs s hopen).1, fun x s' hs' hopen ↦ ?_⟩
  rcases Table.of_get?_modify hs' with ⟨rfl, s, hrow, rfl⟩ | ⟨-, hrow⟩
  · obtain ⟨hold, hexpected⟩ := hs s hopen
    unfold Countable
    rw [hexpected]
    exact h.counts x s hrow hold
  · exact h.counts x s' hrow hopen

theorem exists_openSession {x : Id} {cashierId : String} (h : OpenFor w x cashierId) :
    ∃ s, w.db.openSession cashierId = some s := by
  obtain ⟨s, hs, hc, ho⟩ := h
  have hsome : (w.db.openSession cashierId).isSome := by
    unfold Db.openSession Table.first?
    rw [List.find?_isSome]
    exact ⟨s, Table.mem_of_get? hs, by simp [hc, ho]⟩
  exact Option.isSome_iff_exists.mp hsome

/-- The session that is found is the one that is OPEN. -/
theorem openSession_eq {x : Id} {cashierId : String} (hone : OneOpen w)
    (h : OpenFor w x cashierId) :
    ∃ s, w.db.openSession cashierId = some s ∧ s.id = x := by
  obtain ⟨s, hs⟩ := exists_openSession h
  obtain ⟨hrow, hc, ho⟩ := Db.openSession_spec hs
  exact ⟨s, hs, hone _ _ cashierId ⟨s, hrow, hc, ho⟩ h⟩

/-- A new session, when the cashier has none open. -/
theorem OneOpen.addSession {cashierId : String} {d : Draft TillSession TillSession.id}
    (h : OneOpen w) (hnone : w.db.openSession cashierId = none)
    (hc : ∀ k, (d.build k).cashierId = cashierId) : OneOpen (w.addSession d) := by
  -- an OPEN session of another cashier was there before
  have hback (x : Id) (z : String) (hx : OpenFor (w.addSession d) x z) :
      (x = w.db.tillSessions.fresh ∧ z = cashierId) ∨ (z ≠ cashierId ∧ OpenFor w x z) := by
    obtain ⟨s, hs, hcs, hos⟩ := hx
    rcases Table.of_get?_add hs with ⟨rfl, rfl⟩ | ⟨-, hrow⟩
    · exact .inl ⟨rfl, hcs.symm.trans (hc _)⟩
    · refine .inr ⟨?_, s, hrow, hcs, hos⟩
      rintro rfl
      obtain ⟨s', hs'⟩ := exists_openSession ⟨s, hrow, hcs, hos⟩
      rw [hnone] at hs'
      cases hs'
  intro x y z hx hy
  rcases hback x z hx with ⟨rfl, rfl⟩ | ⟨hz, hx⟩
  · rcases hback y _ hy with ⟨rfl, -⟩ | ⟨hz, -⟩
    · rfl
    · exact absurd rfl hz
  · rcases hback y z hy with ⟨-, hz'⟩ | ⟨-, hy⟩
    · exact absurd hz' hz
    · exact h x y z hx hy

theorem Sound.addSession {cashierId : String} {d : Draft TillSession TillSession.id}
    (h : Sound w) (hnone : w.db.openSession cashierId = none)
    (hc : ∀ k, (d.build k).cashierId = cashierId) (hcount : ∀ k, Countable (d.build k)) :
    Sound (w.addSession d) := by
  refine ⟨h.one.addSession hnone hc, fun x s hs hopen ↦ ?_⟩
  rcases Table.of_get?_add hs with ⟨rfl, rfl⟩ | ⟨-, hrow⟩
  · exact hcount _
  · exact h.counts x s hrow hopen

/-- The variance of an empty drawer fits when that of a drawer does. -/
theorem fitsInteger_neg {n e : Int} (hn : 0 ≤ n) (he : App.FitsInteger e)
    (hsub : n - e < 2 ^ 63) : App.FitsInteger (-e) := by
  obtain ⟨-, hlt⟩ := he
  constructor <;> omega

/-- A new session expects its float. -/
theorem countable_newSession {counts : Denominations} {float : Cents}
    (h : Till.denominationsToCents counts = .ok float) (hfits : App.FitsInteger float)
    (cashierId terminalId : String) (now : Time) (x : Id) :
    Countable ((Till.newSession cashierId terminalId float counts now).build x) := by
  have hnonneg : (0 : Int) ≤ float := Till.nonneg_of_denominationsToCents h
  have hexpected : Till.expectedClosing
      ((Till.newSession cashierId terminalId float counts now).build x) = float := by
    simp [Till.expectedClosing, Till.newSession]
  unfold Countable
  rw [hexpected]
  exact ⟨hfits, fitsInteger_neg hnonneg hfits (by omega)⟩

end Accesses

/-! ## What a request may do -/

section Requests

/-- The program makes such accesses only. -/
abbrev Keeps {α : Type} (p : App α) : Prop :=
  p.Guarantees World.send (fun _ ↦ True) Moves fun _ ↦ True

theorem keeps_ofExcept {α : Type} (r : Except PyExc α) : Keeps (App.ofExcept r) := by
  cases r <;> trivial

/-- A read. -/
theorem keeps_read {α : Type} {f : World → App α} (h : ∀ w, Keeps (f w)) :
    Keeps (Prog.read >>= f) := fun w _ ↦ ⟨.inl rfl, h w⟩

/-- Integers that fit are bound. -/
theorem keeps_bindIntegers {α : Type} {ns : List Int} {p : App α}
    (h : (∀ n ∈ ns, App.FitsInteger n) → Keeps p) :
    Keeps (App.bindIntegers ns >>= fun _ ↦ p) := by
  by_cases hns : ∀ n ∈ ns, App.FitsInteger n
  · rw [App.bindIntegers_of_fit hns]
    exact h hns
  · rw [App.bindIntegers_of_not_fit hns]
    trivial

theorem keeps_withAuth {token : Option String} {body : Users.AuthContext → App Unit}
    (h : ∀ ctx, Keeps (body ctx)) : Keeps (Users.withAuth token body) :=
  keeps_read fun _ ↦ guarantees_seq (keeps_ofExcept _) h

theorem keeps_openSession (cashierId terminalId : String) (counts : Denominations) :
    Keeps (Till.openSession cashierId terminalId counts) := by
  refine guarantees_seq (keeps_read fun _ ↦ trivial) fun existing ↦ ?_
  cases existing with
  | some s => trivial
  | none =>
      cases hfloat : Till.denominationsToCents counts with
      | error e => trivial
      | ok float =>
          refine keeps_bindIntegers fun hfits w _ ↦ ?_
          dsimp only
          by_cases hsome : (w.db.openSession cashierId).isSome
          · rw [if_pos hsome]
            trivial
          · rw [if_neg hsome]
            have hnone : w.db.openSession cashierId = none := by simpa using hsome
            refine ⟨.inr ⟨rfl, fun h ↦ h.addSession hnone (fun _ ↦ rfl) fun x ↦ ?_⟩, trivial⟩
            exact countable_newSession hfloat (hfits float (.head _)) _ _ _ x

theorem keeps_tryRenderPdf (s : TillSession) : Keeps (Till.tryRenderPdf s) := by
  refine keeps_read fun w ↦ ?_
  cases w.db.posUsers.get? s.cashierId with
  | none => trivial
  | some user =>
      intro w _
      refine ⟨.inl rfl, fun rendered ↦ ?_⟩
      cases rendered with
      | none => trivial
      | some path =>
          refine fun w _ ↦ ⟨.inr ⟨rfl, fun hsound ↦ ?_⟩, trivial⟩
          exact hsound.updateSession (fun _ ↦ rfl) fun _ h ↦ ⟨h, rfl⟩

theorem keeps_closeSession (cashierId : String) (counts : Denominations) (renders : Bool) :
    Keeps (Till.closeSession cashierId counts renders) := by
  refine guarantees_seq (keeps_read fun _ ↦ trivial) fun existing ↦ ?_
  cases existing with
  | none => trivial
  | some s =>
      refine guarantees_seq ?_ fun count ↦ keeps_bindIntegers fun _ w _ ↦ ?_
      · cases Till.denominationsToCents counts <;> trivial
      · have hclosed (s' : TillSession) :
            ((Till.closing s count counts w.now).set s').status ≠ .open := by simp [Till.closing]
        refine ⟨.inr ⟨rfl, fun hsound ↦ hsound.updateSession (fun _ ↦ rfl) fun s' hs ↦
          absurd hs (hclosed s')⟩, ?_⟩
        refine keeps_read fun w ↦ ?_
        cases renders with
        | false => trivial
        | true =>
            rw [if_pos rfl]
            cases w.db.session s.id with
            | none => trivial
            | some session => exact keeps_tryRenderPdf session

theorem keeps_login (username : String) (verified : Bool) (token : String) (ttl : Time) :
    Keeps (Users.login username verified token ttl) := by
  refine keeps_read fun w ↦ ?_
  cases w.db.posUsers.get? username with
  | none => trivial
  | some user =>
      dsimp only
      split
      · trivial
      · intro w _
        by_cases hnone : w.db.posSessions.get? token = none
        · simp only [dif_pos hnone]
          exact ⟨.inl rfl, trivial⟩
        · simp only [dif_neg hnone]

theorem keeps_createUser (token : Option String) (username displayName : String) :
    Keeps (Users.createUser token username displayName) := by
  refine keeps_read fun w ↦ guarantees_seq (keeps_ofExcept _) fun _ ↦ ?_
  split
  · trivial
  · intro w _
    by_cases hnone : w.db.posUsers.get? username = none
    · simp only [dif_pos hnone]
      exact ⟨.inl rfl, trivial⟩
    · simp only [dif_neg hnone]

theorem keeps_resetPassword (token : Option String) (username : String) :
    Keeps (Users.resetPassword token username) := by
  refine keeps_read fun _ ↦ guarantees_seq (keeps_ofExcept _) fun _ ↦
    guarantees_seq (keeps_ofExcept _) fun user w _ ↦ ⟨?_, trivial⟩
  split
  · exact .inl rfl
  · exact .inl rfl

theorem keeps_deactivateUser (token : Option String) (username : String) :
    Keeps (Users.deactivateUser token username) := by
  refine keeps_read fun w ↦ guarantees_seq (keeps_ofExcept _) fun ctx ↦ ?_
  refine guarantees_seq (keeps_ofExcept _) fun target ↦ ?_
  cases target with
  | none => trivial
  | some user => exact fun _ _ ↦ ⟨.inl rfl, trivial⟩

/-- A request never changes the users and the till sessions together. -/
theorem keeps_handle (D : Deployment) (i : Request) : Keeps (handle D i) := by
  cases i with
  | openTill token counts =>
      exact keeps_withAuth fun ctx ↦
        guarantees_seq (keeps_openSession _ _ _) fun _ ↦ trivial
  | closeTill token counts => exact keeps_withAuth fun ctx ↦ keeps_closeSession _ _ _
  | login username verified token ttl => exact keeps_login username verified token ttl
  | createUser token username displayName => exact keeps_createUser token username displayName
  | resetPassword token username => exact keeps_resetPassword token username
  | deactivateUser token username => exact keeps_deactivateUser token username

end Requests

/-! ## Closing -/

section Closing

variable {D : Deployment} {w : World}

/-- The denominations of an empty drawer. -/
theorem denominationsToCents_nil : Till.denominationsToCents [] = .ok 0 := rfl

/-- The cashier who logs in gets a session. -/
theorem stretch_login {cashierId token : String} {ttl : Time} {u : POSUser}
    (hu : w.db.posUsers.get? cashierId = some u) (hactive : u.isActive = true)
    (hnone : w.db.posSessions.get? token = none) :
    ((Users.login cashierId true token ttl).stretch World.send w).1 =
      w.addLogin token (Users.newSession u.username (w.now + ttl)) hnone := by
  unfold Users.login
  rw [Prog.read_bind]
  simp only [Prog.stretch, hu, hactive, Bool.not_true, Bool.or_self, Bool.false_eq_true, if_false,
    Prog.commit, dif_pos hnone]

/-- Who has a session that is still valid, and is active, is let through. -/
theorem getAuth_eq {token : String} {sess : POSSession} {u : POSUser} (htoken : token ≠ "")
    (hsess : w.db.posSessions.get? token = some sess) (hvalid : w.now ≤ sess.expiresAt)
    (hu : w.db.posUsers.get? sess.username = some u) (hactive : u.isActive = true) :
    Users.getAuth w (some token) = .ok ⟨u, sess⟩ := by
  unfold Users.getAuth
  split
  · next h => cases h
  · next h => exact absurd (Option.some.inj h) htoken
  · next token' _ h =>
      obtain rfl := Option.some.inj h
      simp only [hsess, not_lt.mpr hvalid, if_false, hu, hactive, if_true]

/-- The OPEN session is closed. -/
theorem closeSession_closes {x : Id} {cashierId : String} (hsound : Sound w)
    (h : OpenFor w x cashierId) :
    ∃ s, ((Till.closeSession cashierId [] true).stretch World.send w).1.db.session x = some s ∧
      s.status = .closed := by
  obtain ⟨s, hs, rfl⟩ := openSession_eq hsound.one h
  obtain ⟨hrow, -, hopen⟩ := Db.openSession_spec hs
  obtain ⟨hfits, hneg⟩ := hsound.counts s.id s hrow hopen
  have hfit : ∀ n ∈ Till.closingIntegers s 0, App.FitsInteger n := by
    simp only [Till.closingIntegers, List.forall_mem_cons, Int.zero_sub]
    exact ⟨by decide, hfits, hneg, nofun⟩
  rw [Till.stretch_closeSession hs denominationsToCents_nil hfit]
  refine ⟨(Till.closing s 0 [] w.now).set s, ?_, rfl⟩
  change (w.db.tillSessions.modify _ _).get? _ = _
  rw [Table.get?_modify_self]
  exact congrArg _ hrow

/-- A session that a request closes could be counted. -/
theorem countable_of_closes {x : Id} {cashierId : String} {counts : Denominations} {renders : Bool}
    {s s' : TillSession} (hrow : w.db.session x = some s) (hopen : s.status = .open)
    (h : ((Till.closeSession cashierId counts renders).stretch World.send w).1.db.session x =
      some s')
    (hclosed : s'.status = .closed) : Countable s := by
  rcases Till.stretch_closeSession_cases w cashierId counts renders with
    hsame | ⟨s₁, closingCount, hs₁, hcount, hfit, hw⟩
  · rw [hsame] at h
    obtain rfl := Option.some.inj (hrow.symm.trans h)
    cases hopen.symm.trans hclosed
  · rw [hw] at h
    rcases Table.of_get?_modify h with ⟨rfl, s₀, hs₀, -⟩ | ⟨-, hs₀⟩
    · obtain ⟨hrow₁, -, -⟩ := Db.openSession_spec hs₁
      obtain rfl := Option.some.inj (hrow₁.symm.trans hrow)
      have hnonneg : (0 : Int) ≤ closingCount := Till.nonneg_of_denominationsToCents hcount
      simp only [Till.closingIntegers, List.forall_mem_cons] at hfit
      obtain ⟨-, hexpected, hvariance, -⟩ := hfit
      exact ⟨hexpected, fitsInteger_neg hnonneg hexpected hvariance.2⟩
    · obtain rfl := Option.some.inj (hrow.symm.trans hs₀)
      cases hopen.symm.trans hclosed

/-- No till is touched by a login. -/
theorem stretch_login_tills {cashierId token : String} {ttl : Time} :
    ((Users.login cashierId true token ttl).stretch World.send w).1.db.tillSessions =
      w.db.tillSessions := by
  unfold Users.login
  rw [Prog.stretch_read_bind]
  cases w.db.posUsers.get? cashierId with
  | none => rfl
  | some user =>
      dsimp only
      split
      · rfl
      · by_cases hnone : w.db.posSessions.get? token = none
        · simp only [Prog.stretch, Prog.commit, dif_pos hnone]
          rfl
        · simp only [Prog.stretch, Prog.commit, dif_neg hnone]

/-- What can be closed can be counted. -/
theorem Closable.countable {x : Id} {cashierId : String} {s : TillSession}
    (h : Closable D w x cashierId) (hrow : w.db.session x = some s) (hopen : s.status = .open) :
    Countable s := by
  obtain ⟨token, counts, ttl, s', hs', hclosed⟩ := h
  have hrow' : ((Users.login cashierId true token ttl).stretch World.send w).1.db.session x =
      some s := (congrArg (Table.get? · x) stretch_login_tills).trans hrow
  generalize ((Users.login cashierId true token ttl).stretch World.send w).1 = w' at hs' hrow'
  have hserve : serve D (some token) .closeTill counts = Users.withAuth (some token)
      fun ctx ↦ Till.closeSession ctx.user.username counts true := rfl
  rw [hserve] at hs'
  unfold Users.withAuth at hs'
  rw [Prog.stretch_read_bind] at hs'
  cases hauth : Users.getAuth w' (some token) with
  | error e =>
      rw [hauth] at hs'
      obtain rfl := Option.some.inj (hrow'.symm.trans hs')
      cases hopen.symm.trans hclosed
  | ok ctx =>
      rw [hauth] at hs'
      exact countable_of_closes hrow' hopen hs' hclosed

theorem Staffed.sound (hone : OneOpen w) (h : Staffed D w) : Sound w :=
  ⟨hone, fun x s hs hopen ↦ (h x s.cashierId ⟨s, hs, rfl, hopen⟩).2.countable hs hopen⟩

/-- An active cashier can close the session. -/
theorem closable_of_active {x : Id} {cashierId : String} (hsound : Sound w)
    (h : OpenFor w x cashierId) (hactive : Active w cashierId) : Closable D w x cashierId := by
  obtain ⟨u, hu, hactive⟩ := hactive
  obtain rfl : u.username = cashierId := Table.key_of_get? hu
  -- a token that nobody has
  obtain ⟨token, htoken⟩ := Infinite.exists_notMem_finset
    (insert "" (w.db.posSessions.rows.map POSSession.sessionToken).toFinset)
  rw [Finset.mem_insert, not_or, List.mem_toFinset] at htoken
  have hnone : w.db.posSessions.get? token = none :=
    Table.get?_eq_none_iff.mpr fun v hv hk ↦ htoken.2 (hk ▸ List.mem_map_of_mem hv)
  let w' := w.addLogin token (Users.newSession u.username (w.now + 0)) hnone
  have hsess : w'.db.posSessions.get? token = some ⟨token, u.username, w.now + 0⟩ := by
    change (w.db.posSessions.insert token _ hnone).get? token = _
    rw [Table.get?_insert, if_pos rfl]
    rfl
  have hauth : Users.getAuth w' (some token) = .ok ⟨u, _⟩ :=
    getAuth_eq htoken.1 hsess (Int.add_zero _).ge hu hactive
  obtain ⟨s, hs, hclosed⟩ := closeSession_closes (w := w') ⟨hsound.one, hsound.counts⟩ h
  refine ⟨token, [], 0, s, ?_, hclosed⟩
  rw [stretch_login hu hactive hnone, ← hs]
  change ((Users.withAuth (some token) fun ctx ↦
    Till.closeSession ctx.user.username [] true).stretch World.send w').1.db.session x = _
  unfold Users.withAuth
  rw [Prog.read_bind, Prog.stretch]
  simp only [hauth, App.ofExcept, Prog.pure_bind]

end Closing

/-! ## Runs -/

section Runs

variable {D : Deployment} {c c' : Crew World Call Answer PyExc Request}

theorem Moves.sound {w w' : World} (h : Moves w w') (hsound : Sound w) : Sound w' := by
  rcases h with hsame | ⟨-, hkeep⟩
  · constructor
    · intro x y cashierId hx hy
      exact hsound.one x y cashierId ((OpenFor.of_same hsame).mp hx) ((OpenFor.of_same hsame).mp hy)
    · intro x s hs
      exact hsound.counts x s ((congrArg (Table.get? · x) hsame).symm.trans hs)
  · exact hkeep hsound

theorem active_of_same {w w' : World} (h : w'.db.posUsers = w.db.posUsers) (x : String) :
    Active w' x ↔ Active w x := by
  unfold Active
  rw [h]

/-- A move keeps every open till staffed when it is guarded, and only then. -/
theorem Moves.staffed_iff (hmove : Moves c.state c'.state) (hsound : Sound c.state)
    (h : Staffed D c.state) : Staffed D c'.state ↔ Guarded c c' := by
  constructor
  · intro h'
    constructor
    · intro cashierId hactive hgone x hopen
      rcases hmove with hsame | ⟨hsame, -⟩
      · exact hgone (h' x cashierId ((OpenFor.of_same hsame).mpr hopen)).1
      · exact hgone ((active_of_same hsame _).mpr hactive)
    · intro x cashierId hnew hopen
      rcases hmove with hsame | ⟨hsame, -⟩
      · exact absurd ((OpenFor.of_same hsame).mp hopen) hnew
      · exact (active_of_same hsame _).mp (h' x cashierId hopen).1
  · intro hguard x cashierId hopen
    suffices hactive : Active c'.state cashierId from
      ⟨hactive, closable_of_active (hmove.sound hsound) hopen hactive⟩
    by_cases hold : OpenFor c.state x cashierId
    · -- the cashier was active, and is not deactivated
      by_contra hgone
      exact hguard.users cashierId (h x cashierId hold).1 hgone x hold
    · have hactive := hguard.tills x cashierId hold hopen
      rcases hmove with hsame | ⟨hsame, -⟩
      · exact absurd ((OpenFor.of_same hsame).mp hopen) hold
      · exact (active_of_same hsame _).mpr hactive

/-- What a step does. -/
theorem moves_step (hkeeps : c.Keeps (system D) Moves) (hs : Crew.Step (system D) .free c c') :
    c'.Keeps (system D) Moves ∧ Moves c.state c'.state := by
  obtain ⟨hkeeps', hsame | hmove | hdrift⟩ := hkeeps.step (keeps_handle D) hs
  · exact ⟨hkeeps', .inl (by rw [hsame])⟩
  · exact ⟨hkeeps', hmove⟩
  · exact ⟨hkeeps', .inl (by rw [hdrift.db])⟩

/-- A run from any threads. -/
theorem staffed_run {cs : List (Crew World Call Answer PyExc Request)}
    (hkeeps : c.Keeps (system D) Moves) (hsound : Sound c.state) (h : Staffed D c.state)
    (hrun : List.IsChain (Crew.Step (system D) .free) (c :: cs)) :
    (∀ c' ∈ cs, Staffed D c'.state) ↔ List.IsChain Guarded (c :: cs) := by
  induction cs generalizing c with
  | nil => exact iff_of_true nofun (.singleton c)
  | cons c₁ cs ih =>
      obtain ⟨hs, hrun⟩ := List.isChain_cons_cons.mp hrun
      obtain ⟨hkeeps', hmove⟩ := moves_step hkeeps hs
      rw [List.forall_mem_cons, List.isChain_cons_cons, hmove.staffed_iff hsound h]
      refine and_congr_right fun hguard ↦ ?_
      exact ih hkeeps' (hmove.sound hsound) ((hmove.staffed_iff hsound h).mpr hguard) hrun

end Runs

/-- **Every open till can be closed**, in a run from a state in which every open till can, exactly
when no step deactivates a user whose till is open or opens a till for a user who is not active. -/
theorem open_till_staffed_iff {D : Deployment} {w : World} (hone : OneOpen w)
    (h : Staffed D w) {cs : List (Crew World Call Answer PyExc Request)}
    (hrun : List.IsChain (Crew.Step (system D) .free) (⟨w, []⟩ :: cs)) :
    (∀ c ∈ cs, Staffed D c.state) ↔ List.IsChain Guarded (⟨w, []⟩ :: cs) :=
  staffed_run nofun (h.sound hone) h hrun

/-! ## Two cashiers -/

/-- Two active cashiers, both logged in; Alice's till is open. -/
def staffed : World :=
  { Users.staffed with db := { Users.staffed.db with tillSessions := .single .sample } }

theorem openFor_staffed {x : Id} {cashierId : String} (h : OpenFor staffed x cashierId) :
    x = 0 ∧ cashierId = "alice" := by
  obtain ⟨s, hs, hc, -⟩ := h
  obtain rfl := List.mem_singleton.mp (Table.mem_of_get? hs)
  exact ⟨(Table.key_of_get? hs).symm, hc.symm⟩

theorem oneOpen_staffed : OneOpen staffed := fun _ _ _ hx hy ↦
  (openFor_staffed hx).1.trans (openFor_staffed hy).1.symm

theorem staffed_staffed (D : Deployment) : Staffed D staffed := by
  intro x cashierId h
  obtain ⟨-, rfl⟩ := openFor_staffed h
  have hactive : Active staffed "alice" := ⟨_, rfl, rfl⟩
  have hsound : Sound staffed := by
    refine ⟨oneOpen_staffed, fun x s hs _ ↦ ?_⟩
    obtain rfl := List.mem_singleton.mp (Table.mem_of_get? hs)
    exact ⟨by decide, by decide⟩
  exact ⟨hactive, closable_of_active hsound h hactive⟩

/-- The crew after Bob, whose till is closed, has been deactivated. -/
def bobLeaves : List (Crew World Call Answer PyExc Request) :=
  let request : Request := .deactivateUser (some "a") "bob"
  let commit : App Unit := App.commit fun w ↦ w.updateUser "bob" Users.deactivated
  [⟨staffed, [(request, handle .sample request)]⟩, ⟨staffed, [(request, commit)]⟩,
    ⟨staffed.updateUser "bob" Users.deactivated, [(request, .pure ())]⟩]

/-- Alice deactivates Bob, and can still close her till. -/
theorem open_till_staffed_iff_bob : bobLeaves.Forall fun c ↦ Staffed .sample c.state := by
  have hrun : List.IsChain (Crew.Step (system .sample) .free) (⟨staffed, []⟩ :: bobLeaves) := by
    refine .cons_cons (.start _) (.cons_cons ?_ (.cons_cons ?_ (.singleton _)))
    · exact .access (l := []) (r := []) rfl
    · exact .access (l := []) (r := []) rfl
  rw [List.forall_iff_forall_mem]
  refine (open_till_staffed_iff oneOpen_staffed (staffed_staffed _) hrun).mpr ?_
  refine .cons_cons ?_ (.cons_cons ?_ (.cons_cons ?_ (.singleton _)))
  · exact ⟨fun _ h hn ↦ absurd h hn, fun _ _ hn h ↦ absurd h hn⟩
  · exact ⟨fun _ h hn ↦ absurd h hn, fun _ _ hn h ↦ absurd h hn⟩
  · refine ⟨fun cashierId h hn x hopen ↦ ?_, fun _ _ hn h ↦ absurd h hn⟩
    obtain ⟨-, rfl⟩ := openFor_staffed hopen
    exact hn ⟨_, rfl, rfl⟩

/-- **Bob deactivates Alice**, whose till is open. -/
theorem open_till_stranded : ∃ c, Crew.Run (system .sample) .free ⟨staffed, []⟩ c ∧
    OpenFor c.state 0 "alice" ∧ ¬ Active c.state "alice" := by
  let request : Request := .deactivateUser (some "b") "alice"
  refine ⟨⟨staffed.updateUser "alice" Users.deactivated, [(request, .pure ())]⟩, ?_,
    ⟨_, rfl, rfl, rfl⟩, ?_⟩
  · refine .head (.start request) ?_
    refine .head (.access (l := []) (r := []) rfl) ?_
    exact .single (.access (l := []) (r := []) rfl)
  · rintro ⟨u, hu, hactive⟩
    obtain rfl : ({ username := "alice", isActive := false } : POSUser) = u := Option.some.inj hu
    cases hactive

end HightowerPos.Tills
