import HightowerPos.Async.Rely
import HightowerPos.Footprint
import HightowerPos.Users.Barrier

/-!
# Sessions

A request is let in by its token, and the token is that of one user: `secrets` makes no token
twice.  Whatever the threads of the service do, a token that is refused stays refused
(`refused_stays`): nothing brings a session row back, moves its expiry or activates a user.  What
ends a session is a logout with its token, the deactivation of its user, or time
(`session_ends`), and a user who must change the password gets rid of that by
changing it (`mustChange_falls`).
-/

namespace HightowerPos.Sessions

open Async

/-! ## The requests -/

/-- The requests of the service, where `owner` says for whom `secrets` makes a token. -/
inductive Request (owner : String → String)
  | login (username : String) (verified : Bool) (token : String) (h : owner token = username)
      (ttl : Time)
  | logout (token : Option String)
  | changePassword (token : Option String) (verified differs : Bool)
  | route (token : Option String) (r : Route) (p : r.Params)
  | worker (i : HightowerPos.Request)

variable {owner : String → String}

/-- The program of a request. -/
def handle (D : Deployment) : Request owner → App Unit
  | .login username verified token _ ttl => Users.login username verified token ttl
  | .logout token => (Users.logout token).void
  | .changePassword token verified differs => Users.changePassword token verified differs
  | .route token r p => Routes.serve D (fun _ _ ↦ .pure ()) token r p
  | .worker i => D.handle i

/-- The service, each request in a thread of its own. -/
def system (D : Deployment) (owner : String → String) :
    System World Call Answer PyExc (Request owner) where
  handle := handle D
  send := World.send
  reply _ _ _ := True
  drift := World.Drift

abbrev Scene (owner : String → String) := Crew World Call Answer PyExc (Request owner)

/-- The token is refused. -/
def Refused (w : World) (token : String) : Prop := ∃ e, Users.getAuth w (some token) = .error e

/-- Each session is that of the owner of its token. -/
def Owned (owner : String → String) (w : World) : Prop :=
  ∀ token sess, w.db.posSessions.get? token = some sess → sess.username = owner token

/-- The sessions are those of users that there are. -/
def Known (w : World) : Prop :=
  ∀ token sess, w.db.posSessions.get? token = some sess →
    (w.db.posUsers.get? sess.username).isSome = true

/-! ## What a request may do to the users and the sessions -/

/-- What a request may do to the sessions. -/
inductive SessionMove (w : World) : Request owner → World → Prop
  | same {i : Request owner} {w' : World} (h : w'.db.posSessions = w.db.posSessions) :
      SessionMove w i w'
  | login {username : String} {verified : Bool} {token : String} {h : owner token = username}
      {ttl : Time} {w' : World} (hnone : w.db.posSessions.get? token = none)
      (hw : w' = w.addLogin token (Users.newSession username (w.now + ttl)) hnone) :
      SessionMove w (.login username verified token h ttl) w'
  | logout {token : String} {w' : World} (hw : w' = w.removeLogin token) :
      SessionMove w (.logout (some token)) w'

/-- What a request may do to the users. -/
inductive UserMove (w : World) : Request owner → World → Prop
  | same {i : Request owner} {w' : World} (h : w'.db.posUsers = w.db.posUsers) : UserMove w i w'
  | create {token : Option String} {username displayName : String} {w' : World}
      (hnone : w.db.posUsers.get? username = none)
      (hw : w' = w.addUser username (Users.newUser displayName) hnone) :
      UserMove w (.route token .createUser (username, displayName)) w'
  | deactivate {token : Option String} {username : String} {w' : World}
      (hw : w' = w.updateUser username Users.deactivated) :
      UserMove w (.route token .deactivateUser username) w'
  | reset {token : Option String} {username : String} {w' : World}
      (hw : w' = w.updateUser username Users.mustChange) :
      UserMove w (.route token .resetPassword username) w'
  | changed {token : String} {w' : World}
      (hw : w' = w.updateUser (owner token) Users.passwordChanged) :
      UserMove w (.changePassword (some token) true true) w'

/-- What a request may do to both; the clock is not its own. -/
structure Moves (i : Request owner) (w w' : World) : Prop where
  sessions : SessionMove w i w'
  users : UserMove w i w'
  now : w'.now = w.now

/-- The program makes such accesses only, at states of `J`. -/
abbrev Keeps (J : World → Prop) (i : Request owner) {α : Type} (p : App α) : Prop :=
  p.Guarantees World.send J (Moves i) fun _ ↦ True

section Moves

variable {J : World → Prop} {i : Request owner} {w w' : World} {α : Type}

theorem moves_of_same (hs : w'.db.posSessions = w.db.posSessions)
    (hu : w'.db.posUsers = w.db.posUsers) (hnow : w'.now = w.now) : Moves i w w' :=
  ⟨.same hs, .same hu, hnow⟩

theorem keeps_ofExcept (r : Except PyExc α) : Keeps J i (App.ofExcept r) := by
  cases r <;> trivial

/-- A read. -/
theorem keeps_read {f : World → App α} (h : ∀ w, J w → Keeps J i (f w)) :
    Keeps J i (Prog.read >>= f) := fun w hw ↦ ⟨moves_of_same rfl rfl rfl, h w hw⟩

/-- An access of the register leaves the users and the sessions alone. -/
theorem moves_of_access {settings : Settings} {S : Scope} (h : Access settings S w w') :
    Moves i w w' := by
  cases h with
  | sent q => cases q <;> exact moves_of_same rfl rfl rfl
  | @saleCompleted txn held soId a completedAt now =>
      cases a <;> exact moves_of_same rfl rfl rfl
  | @refundCompleted refund original held soId a completedAt now =>
      cases a <;> exact moves_of_same rfl rfl rfl
  | @claimed _ ids =>
      obtain ⟨table, hclaimed⟩ := FabricOutbox.claimAll_eq ids w
      rw [hclaimed]
      exact moves_of_same rfl rfl rfl
  | _ => exact moves_of_same rfl rfl rfl

/-- Every handler of the register does. -/
theorem keeps_register (D : Deployment) (j : HightowerPos.Request) : Keeps J i (D.handle j) := by
  have htreads : Treads D.settings ⟨fun _ ↦ True, fun _ ↦ True, fun _ ↦ True, True, True, True⟩
      (D.handle j) := treads_handle D (fun _ _ _ _ ↦ trivial) (fun _ _ _ ↦ trivial)
    (fun _ ↦ trivial) (fun _ _ _ ↦ trivial) fun _ ↦ trivial
  exact htreads.weaken (fun _ _ ↦ trivial) fun _ _ ↦ moves_of_access

theorem keeps_withAuth {token : Option String} {body : Users.AuthContext → App Unit}
    (h : ∀ ctx, Keeps J i (body ctx)) : Keeps J i (Users.withAuth token body) :=
  keeps_read fun _ _ ↦ guarantees_seq (keeps_ofExcept _) h

theorem keeps_withCurrentUser {token : Option String} {body : POSUser → App Unit}
    (h : ∀ user, Keeps J i (body user)) : Keeps J i (Users.withCurrentUser token body) :=
  keeps_read fun _ _ ↦ guarantees_seq (keeps_ofExcept _) h

theorem keeps_sessionPdf (x : Id) (found : Bool) : Keeps J i (Routes.sessionPdf x found) := by
  refine keeps_read fun w _ ↦ ?_
  cases w.db.session x with
  | none => trivial
  | some session =>
      dsimp only
      split
      · trivial
      split
      · trivial
      cases w.db.posUsers.get? session.cashierId with
      | none => trivial
      | some _ =>
          refine fun w' _ ↦ ⟨moves_of_same rfl rfl rfl, fun rendered ↦ ?_⟩
          cases rendered with
          | none => trivial
          | some path => exact fun _ _ ↦ ⟨moves_of_same rfl rfl rfl, trivial⟩

theorem keeps_listSessionTransactions (x : Id) : Keeps J i (Routes.listSessionTransactions x) := by
  refine keeps_read fun w _ ↦ ?_
  cases w.db.session x <;> trivial

end Moves

/-! ### The routes of `auth.py` and `admin_users.py` -/

section Routes

variable {J : World → Prop} {w : World} {token : String}

/-- What `get_auth` lets in. -/
theorem getAuth_ok_iff {ctx : Users.AuthContext} :
    Users.getAuth w (some token) = .ok ctx ↔ token ≠ "" ∧
      w.db.posSessions.get? token = some ctx.session ∧ w.now ≤ ctx.session.expiresAt ∧
      w.db.posUsers.get? ctx.session.username = some ctx.user ∧ ctx.user.isActive = true := by
  obtain ⟨user, session⟩ := ctx
  unfold Users.getAuth
  split
  · next heq => cases heq
  · next heq =>
      cases heq
      simp
  · next token' hne heq =>
      cases heq
      have htoken : token ≠ "" := fun h ↦ hne (h ▸ rfl)
      cases hsess : w.db.posSessions.get? token with
      | none => simp
      | some sess =>
          dsimp only
          split
          · next hexpired =>
              simp only [reduceCtorEq, Option.some.injEq, false_iff, not_and]
              rintro - rfl hle
              exact absurd hexpired (Int.not_lt.mpr hle)
          · next hexpired =>
              cases huser : w.db.posUsers.get? sess.username with
              | none =>
                  simp only [reduceCtorEq, Option.some.injEq, false_iff, not_and]
                  rintro - rfl - h
                  rw [huser] at h
                  cases h
              | some u =>
                  dsimp only
                  split
                  · next hactive =>
                      simp only [Except.ok.injEq, Users.AuthContext.mk.injEq, Option.some.injEq]
                      constructor
                      · rintro ⟨rfl, rfl⟩
                        exact ⟨htoken, rfl, Int.not_lt.mp hexpired, huser, hactive⟩
                      · rintro ⟨-, rfl, -, h, -⟩
                        exact ⟨Option.some.inj (huser.symm.trans h), rfl⟩
                  · next hactive =>
                      simp only [reduceCtorEq, Option.some.injEq, false_iff, not_and]
                      rintro - rfl - h hu
                      obtain rfl := Option.some.inj (huser.symm.trans h)
                      exact hactive hu

theorem keeps_login (username : String) (verified : Bool) (token : String)
    (h : owner token = username) (ttl : Time) :
    Keeps J (Request.login username verified token h ttl)
      (Users.login username verified token ttl) := by
  refine keeps_read fun w _ ↦ ?_
  cases hrow : w.db.posUsers.get? username with
  | none => trivial
  | some user =>
      obtain rfl : user.username = username := Table.key_of_get? hrow
      dsimp only
      split
      · trivial
      · intro w' _
        by_cases hnone : w'.db.posSessions.get? token = none
        · simp only [dif_pos hnone]
          exact ⟨⟨.login hnone rfl, .same rfl, rfl⟩, trivial⟩
        · simp only [dif_neg hnone]

theorem keeps_logout (token : Option String) :
    Keeps J (Request.logout token : Request owner) (Users.logout token).void := by
  refine guarantees_seq ?_ fun _ ↦ trivial
  unfold Users.logout
  split
  · trivial
  · trivial
  · next token _ =>
      have hremove (w : World) : @Moves owner (.logout (some token)) w
          (w.removeLogin token) := ⟨.logout rfl, .same rfl, rfl⟩
      refine keeps_read fun w _ ↦ ?_
      cases w.db.posSessions.get? token with
      | none =>
          refine keeps_read fun w _ ↦ ?_
          dsimp only
          split
          · exact fun w _ ↦ ⟨hremove w, trivial⟩
          · trivial
      | some sess => exact keeps_read fun w _ w' _ ↦ ⟨hremove w', trivial⟩

theorem keeps_changePassword (hJ : ∀ w, J w → Owned owner w) (token : Option String)
    (verified differs : Bool) :
    Keeps J (Request.changePassword token verified differs : Request owner)
      (Users.changePassword token verified differs) := by
  cases token with
  | none => exact keeps_read fun _ _ ↦ trivial
  | some token =>
      refine keeps_read fun w hw ↦ ?_
      cases hauth : Users.getAuth w (some token) with
      | error e => trivial
      | ok ctx =>
          obtain ⟨-, hsess, -, huser, -⟩ := getAuth_ok_iff.mp hauth
          -- the user of the session is the owner of the token
          have howner : ctx.user.username = owner token :=
            (Table.key_of_get? huser).trans (hJ w hw _ _ hsess)
          dsimp only [App.ofExcept, Prog.pure_bind]
          cases verified with
          | false => trivial
          | true =>
              cases differs with
              | false => trivial
              | true =>
                  refine fun w' _ ↦ ⟨?_, trivial⟩
                  split
                  · exact ⟨.same rfl, .changed (by rw [howner]), rfl⟩
                  · exact moves_of_same rfl rfl rfl

theorem keeps_createUser (token : Option String) (username displayName : String) :
    Keeps J (Request.route token .createUser (username, displayName) : Request owner)
      (Users.createUser token username displayName) := by
  refine keeps_read fun w _ ↦ guarantees_seq (keeps_ofExcept _) fun _ ↦ ?_
  split
  · trivial
  · intro w _
    by_cases hnone : w.db.posUsers.get? username = none
    · simp only [dif_pos hnone]
      exact ⟨⟨.same rfl, .create hnone rfl, rfl⟩, trivial⟩
    · simp only [dif_neg hnone]

theorem keeps_deactivateUser (token : Option String) (username : String) :
    Keeps J (Request.route token .deactivateUser username : Request owner)
      (Users.deactivateUser token username) := by
  refine keeps_read fun w _ ↦ guarantees_seq (keeps_ofExcept _) fun ctx ↦ ?_
  cases hcheck : Users.checkDeactivate w ctx username with
  | error e => trivial
  | ok target =>
      cases target with
      | none => trivial
      | some user =>
          have hname : user.username = username := by
            unfold Users.checkDeactivate at hcheck
            split at hcheck
            · cases hcheck
            · cases hrow : w.db.posUsers.get? username with
              | none => simp only [hrow, reduceCtorEq] at hcheck
              | some u =>
                  simp only [hrow] at hcheck
                  split at hcheck
                  · split at hcheck
                    · cases hcheck
                    · obtain rfl := Option.some.inj (Except.ok.inj hcheck)
                      exact Table.key_of_get? hrow
                  · cases hcheck
          exact fun w' _ ↦ ⟨⟨.same rfl, .deactivate (by rw [hname]), rfl⟩, trivial⟩

theorem keeps_resetPassword (token : Option String) (username : String) :
    Keeps J (Request.route token .resetPassword username : Request owner)
      (Users.resetPassword token username) := by
  refine keeps_read fun w _ ↦ guarantees_seq (keeps_ofExcept _) fun ctx ↦ ?_
  cases hcheck : Users.checkReset w ctx username with
  | error e => trivial
  | ok user =>
      have hname : user.username = username := by
        unfold Users.checkReset at hcheck
        split at hcheck
        · cases hcheck
        · cases hrow : w.db.posUsers.get? username with
          | none => simp only [hrow, reduceCtorEq] at hcheck
          | some u =>
              simp only [hrow, Except.ok.injEq] at hcheck
              subst hcheck
              exact Table.key_of_get? hrow
      refine fun w' _ ↦ ⟨?_, trivial⟩
      split
      · exact moves_of_same rfl rfl rfl
      · exact ⟨.same rfl, .reset (by rw [hname]), rfl⟩

/-- **What a request may do to the users and the sessions.** -/
theorem keeps_handle (D : Deployment) (i : Request owner)
    (hJ : ∀ token verified differs, i = .changePassword token verified differs →
      ∀ w, J w → Owned owner w) : Keeps J i (handle D i) := by
  cases i with
  | login username verified token h ttl => exact keeps_login username verified token h ttl
  | logout token => exact keeps_logout token
  | changePassword token verified differs =>
      exact keeps_changePassword (hJ _ _ _ rfl) token verified differs
  | worker j => exact keeps_register D j
  | route token r p =>
      cases r with
      | createUser => exact keeps_createUser token p.1 p.2
      | deactivateUser => exact keeps_deactivateUser token p
      | resetPassword => exact keeps_resetPassword token p
      | sessionPdf => exact keeps_withAuth fun _ ↦ keeps_sessionPdf p.1 p.2
      | listSessionTransactions => exact keeps_withAuth fun _ ↦ keeps_listSessionTransactions p
      | listSessions | listUsers => exact keeps_withAuth fun _ ↦ trivial
      | openTill | currentTill | closeTill => exact keeps_withAuth fun _ ↦ keeps_register D _
      | startCheckout | chargeCash | chargeCard | cancelCheckout | lookupRefund | startRefund
      | chargeCardRefund | chargeCashRefund | cancelRefund | retrySentry
      | retryFabricOutboxEntry => exact keeps_withCurrentUser fun _ ↦ keeps_register D _
      | _ => exact keeps_withCurrentUser fun _ ↦ trivial

end Routes

/-! ## What the moves keep -/

section Kept

variable {i : Request owner} {w w' : World} {token x : String}

/-- A session row after a move was there before, or the move is the login that makes it. -/
theorem SessionMove.row {sess : POSSession} (h : SessionMove w i w')
    (hrow : w'.db.posSessions.get? token = some sess) :
    w.db.posSessions.get? token = some sess ∨
      (w.db.posSessions.get? token = none ∧ ∃ username verified hown ttl,
        i = .login username verified token hown ttl ∧ sess.username = username) := by
  cases h with
  | same h => exact .inl (h ▸ hrow)
  | @login username verified token' hown ttl _ hnone hw =>
      subst hw
      have hins : (if token = token' then _ else w.db.posSessions.get? token) = some sess :=
        (Table.get?_insert (h := hnone)).symm.trans hrow
      split at hins
      · next heq =>
          subst heq
          obtain rfl := Option.some.inj hins
          exact .inr ⟨hnone, username, verified, hown, ttl, rfl, rfl⟩
      · exact .inl hins
  | @logout token' _ hw =>
      subst hw
      have herase : (if token = token' then none else w.db.posSessions.get? token) = some sess :=
        Table.get?_erase.symm.trans hrow
      split at herase
      · cases herase
      · exact .inl herase

theorem SessionMove.owned (h : SessionMove w i w') (hw : Owned owner w) : Owned owner w' := by
  intro token sess hrow
  rcases h.row hrow with hrow | ⟨-, username, verified, hown, ttl, -, rfl⟩
  · exact hw token sess hrow
  · exact hown.symm

/-- A session row goes by a logout only. -/
theorem SessionMove.gone {sess : POSSession} (h : SessionMove w i w')
    (hrow : w.db.posSessions.get? token = some sess) :
    w'.db.posSessions.get? token = some sess ∨ i = .logout (some token) := by
  cases h with
  | same h => exact .inl (by rwa [h])
  | @login username verified token' hown ttl _ hnone hw =>
      subst hw
      refine .inl ((Table.get?_insert (h := hnone)).trans ?_)
      rw [if_neg]
      · exact hrow
      · rintro rfl
        rw [hnone] at hrow
        cases hrow
  | @logout token' _ hw =>
      subst hw
      by_cases heq : token = token'
      · exact .inr (by rw [heq])
      · exact .inl (Table.get?_erase.trans ((if_neg heq).trans hrow))

/-- What becomes of a user. -/
theorem UserMove.row {u : POSUser} (h : UserMove w i w')
    (hrow : w.db.posUsers.get? x = some u) :
    ∃ u', w'.db.posUsers.get? x = some u' ∧ (u'.isActive = true → u.isActive = true) ∧
      (u'.isActive = false → u.isActive = true → ∃ token, i = .route token .deactivateUser x) ∧
      (u'.mustChangePassword = false → u.mustChangePassword = true →
        ∃ token, i = .changePassword (some token) true true ∧ owner token = x) := by
  -- an update of the users
  have hupdate {name : String} {v : Update POSUser POSUser.username}
      (hw : w' = w.updateUser name v) :
      w'.db.posUsers.get? x = some u ∨ (x = name ∧ w'.db.posUsers.get? x = some (v.set u)) := by
    subst hw
    by_cases hx : x = name
    · subst hx
      exact .inr ⟨rfl, Table.get?_modify_self.trans (by rw [hrow, Option.map_some])⟩
    · exact .inl ((Table.get?_modify_ne hx).trans hrow)
  have hsame {P Q : Prop} : (u.isActive = false → u.isActive = true → P) ∧
      (u.mustChangePassword = false → u.mustChangePassword = true → Q) := by
    refine ⟨fun h h' ↦ ?_, fun h h' ↦ ?_⟩
    · rw [h] at h'
      cases h'
    · rw [h] at h'
      cases h'
  cases h with
  | same h => exact ⟨u, by rwa [h], id, hsame⟩
  | @create token name displayName _ hnone hw =>
      subst hw
      refine ⟨u, (Table.get?_insert (h := hnone)).trans ?_, id, hsame⟩
      rw [if_neg]
      · exact hrow
      · rintro rfl
        rw [hnone] at hrow
        cases hrow
  | @deactivate token name _ hw =>
      rcases hupdate hw with h | ⟨rfl, h⟩
      · exact ⟨u, h, id, hsame⟩
      · exact ⟨_, h, fun h ↦ (by cases h), fun _ _ ↦ ⟨token, rfl⟩, (hsame (P := False)).2⟩
  | reset hw =>
      rcases hupdate hw with h | ⟨rfl, h⟩
      · exact ⟨u, h, id, hsame⟩
      · exact ⟨_, h, id, (hsame (Q := False)).1, fun h ↦ (by cases h)⟩
  | @changed token _ hw =>
      rcases hupdate hw with h | ⟨rfl, h⟩
      · exact ⟨u, h, id, hsame⟩
      · exact ⟨_, h, id, (hsame (Q := False)).1, fun _ _ ↦ ⟨token, rfl, rfl⟩⟩

/-- No user vanishes. -/
def UsersStay (w w' : World) : Prop :=
  ∀ x, (w.db.posUsers.get? x).isSome = true → (w'.db.posUsers.get? x).isSome = true

theorem UserMove.stays (h : UserMove w i w') : UsersStay w w' := by
  intro x hx
  obtain ⟨u, hu⟩ := Option.isSome_iff_exists.mp hx
  obtain ⟨u', hu', -⟩ := h.row hu
  rw [hu', Option.isSome_some]

theorem usersStay_of_same (h : w'.db.posUsers = w.db.posUsers) : UsersStay w w' := by
  intro x hx
  rwa [h]

/-- The users stay, and the sessions are those of users that there are. -/
def Sound (w w' : World) : Prop := UsersStay w w' ∧ (Known w → Known w')

theorem Moves.sound (h : Moves i w w')
    (hi : ∀ username verified token hown ttl, i ≠ .login username verified token hown ttl) :
    Sound w w' := by
  refine ⟨h.users.stays, fun hw token sess hrow ↦ ?_⟩
  rcases h.sessions.row hrow with hrow | ⟨-, username, verified, hown, ttl, heq, -⟩
  · exact h.users.stays _ (hw token sess hrow)
  · exact absurd heq (hi _ _ _ _ _)

end Kept

/-! ## Runs -/

section Runs

variable {D : Deployment} {w : World} {c c' : Scene owner} {token x : String}

theorem sound_refl (w : World) : Sound w w := ⟨fun _ h ↦ h, id⟩

theorem relies_read {f : World → App Unit}
    (h : ∀ w, (f w).Relies World.send UsersStay Sound (fun _ _ ↦ True) w) :
    (Prog.read >>= f).Relies World.send UsersStay Sound (fun _ _ ↦ True) w :=
  fun w₁ _ ↦ ⟨sound_refl w₁, h w₁⟩

/-- A login stores a session of a user that it has found, and who stays. -/
theorem relies_login (username : String) (verified : Bool) (token : String) (ttl : Time) :
    (Users.login username verified token ttl).Relies World.send UsersStay Sound
      (fun _ _ ↦ True) w := by
  refine relies_read fun w₁ ↦ ?_
  cases hrow : w₁.db.posUsers.get? username with
  | none => exact fun _ _ ↦ trivial
  | some user =>
      dsimp only
      split
      · exact fun _ _ ↦ trivial
      · intro w₂ h₂
        by_cases hnone : w₂.db.posSessions.get? token = none
        · simp only [dif_pos hnone]
          refine ⟨⟨usersStay_of_same rfl, fun hw token' sess hsess ↦ ?_⟩, fun _ _ ↦ trivial⟩
          have hins : (if token' = token then _ else w₂.db.posSessions.get? token') = some sess :=
            (Table.get?_insert (h := hnone)).symm.trans hsess
          split at hins
          · obtain rfl := Option.some.inj hins
            obtain rfl : user.username = username := Table.key_of_get? hrow
            exact h₂ user.username (by rw [hrow, Option.isSome_some])
          · exact hw token' sess hins
        · simp only [dif_neg hnone]
          exact fun _ _ ↦ trivial

theorem relies_changePassword (token : Option String) (verified differs : Bool) :
    (Users.changePassword token verified differs).Relies World.send UsersStay Sound
      (fun _ _ ↦ True) w := by
  refine relies_read fun w₁ ↦ ?_
  cases Users.getAuth w₁ token with
  | error e => exact fun _ _ ↦ trivial
  | ok ctx =>
      dsimp only [App.ofExcept, Prog.pure_bind]
      cases verified with
      | false => exact fun _ _ ↦ trivial
      | true =>
          cases differs with
          | false => exact fun _ _ ↦ trivial
          | true =>
              refine fun w' _ ↦ ⟨?_, fun _ _ ↦ trivial⟩
              split
              · -- as a request of the owner of some token
                have hmoves : @Moves (fun _ ↦ ctx.user.username)
                    (.changePassword (some "") true true) w'
                    (w'.updateUser ctx.user.username Users.passwordChanged) :=
                  ⟨.same rfl, .changed rfl, rfl⟩
                exact hmoves.sound fun _ _ _ _ _ h ↦ by cases h
              · exact sound_refl w'

theorem relies_handle (D : Deployment) (i : Request owner) (w : World) :
    (handle D i).Relies World.send UsersStay Sound (fun _ _ ↦ True) w := by
  cases i with
  | login username verified token h ttl => exact relies_login username verified token ttl
  | changePassword token verified differs => exact relies_changePassword token verified differs
  | logout | route | worker =>
      refine Prog.Guarantees.relies ?_ w
      refine (keeps_handle (J := fun _ ↦ True) D _ (fun _ _ _ h ↦ by cases h)).weaken
        (fun _ h ↦ h) fun _ _ hm ↦ hm.sound fun _ _ _ _ _ h ↦ by cases h

theorem rules (D : Deployment) (owner : String → String) :
    Crew.Rules (system D owner) UsersStay Sound where
  refl _ _ h := h
  trans _ _ _ h h' x hx := h' x (h x hx)
  move _ _ h := h.1
  drift _ _ h := usersStay_of_same (by rw [World.Drift.db h])
  start := relies_handle D

/-- What holds in every run. -/
structure Registered (D : Deployment) (c : Scene owner) : Prop where
  abides : c.Abides (system D owner) (Owned owner) Moves
  owned : Owned owner c.state
  known : Known c.state

theorem moves_start (D : Deployment) (i : Request owner) :
    ((system D owner).handle i).Guarantees (system D owner).send (Owned owner) (Moves i)
      fun _ ↦ True := keeps_handle D i fun _ _ _ _ _ h ↦ h

/-- What a step does. -/
theorem Registered.step (h : Registered D c) (hs : Crew.Step (system D owner) .free c c') :
    c'.Abides (system D owner) (Owned owner) Moves ∧ Owned owner c'.state ∧
      (c'.state = c.state ∨
        (∃ i, c.TurnOf (system D owner) i c' ∧ Moves i c.state c'.state) ∨
        World.Drift c.state c'.state) := by
  obtain ⟨habides, hmove⟩ := h.abides.turn (moves_start D) h.owned hs
  refine ⟨habides, ?_, hmove⟩
  rcases hmove with hsame | ⟨i, -, hm⟩ | hd
  · rw [hsame]
    exact h.owned
  · exact hm.sessions.owned h.owned
  · unfold Owned
    rw [World.Drift.db hd]
    exact h.owned

/-- The run from a state whose sessions are in order. -/
theorem registered (howned : Owned owner w) (hknown : Known w)
    (hrun : Crew.Run (system D owner) .free ⟨w, []⟩ c) : Registered D c := by
  have hall : Registered D c ∧ c.Reliant (system D owner) UsersStay Sound := by
    induction hrun with
    | refl => exact ⟨⟨.nil w, howned, hknown⟩, fun t ht ↦ by cases ht⟩
    | tail _ hs ih =>
        obtain ⟨habides, howned', -⟩ := ih.1.step hs
        obtain ⟨hreliant, hmove⟩ := ih.2.step (rules D owner) hs
        refine ⟨⟨habides, howned', ?_⟩, hreliant⟩
        rcases hmove with hsame | hm | hd
        · rw [hsame]
          exact ih.1.known
        · exact hm.2 ih.1.known
        · unfold Known
          rw [World.Drift.db hd]
          exact ih.1.known
  exact hall.1

/-! ### Tokens -/

theorem refused_or (w : World) (token : String) :
    Refused w token ∨ ∃ ctx, Users.getAuth w (some token) = .ok ctx := by
  cases h : Users.getAuth w (some token) with
  | error e => exact .inl ⟨e, h⟩
  | ok ctx => exact .inr ⟨ctx, rfl⟩

theorem not_refused {ctx : Users.AuthContext} (h : Users.getAuth w (some token) = .ok ctx) :
    ¬ Refused w token := by
  rintro ⟨e, he⟩
  rw [h] at he
  cases he

/-- The clock does not run backwards. -/
theorem drift_now {w' : World} (h : World.Drift w w') : w.now ≤ w'.now := by
  cases h with
  | tick h => exact h
  | settle => exact le_rfl

/-- `secrets` does not make the token in this step. -/
def NotMade (token : String) (c c' : Scene owner) : Prop :=
  c.state.db.posSessions.get? token = none → c'.state.db.posSessions.get? token = none

/-- A token that is refused is refused after the next step. -/
theorem Registered.refused (h : Registered D c) (hs : Crew.Step (system D owner) .free c c')
    (hmade : NotMade token c c') (hrefused : Refused c.state token) : Refused c'.state token := by
  rcases refused_or c'.state token with hr | ⟨ctx, hctx⟩
  · exact hr
  exfalso
  obtain ⟨htoken, hsess, hnow, huser, hactive⟩ := getAuth_ok_iff.mp hctx
  obtain ⟨-, -, hsame | ⟨i, -, hm⟩ | hd⟩ := h.step hs
  · rw [hsame] at hctx
    exact not_refused hctx hrefused
  · rcases hm.sessions.row hsess with hrow | ⟨hnone, -⟩
    · obtain ⟨u, hu⟩ := Option.isSome_iff_exists.mp (h.known _ _ hrow)
      obtain ⟨u', hu', hback, -⟩ := hm.users.row hu
      obtain rfl := Option.some.inj (hu'.symm.trans huser)
      have hbefore : Users.getAuth c.state (some token) = .ok ⟨u, ctx.session⟩ :=
        getAuth_ok_iff.mpr ⟨htoken, hrow, by rw [← hm.now]; exact hnow, hu, hback hactive⟩
      exact not_refused hbefore hrefused
    · rw [hmade hnone] at hsess
      cases hsess
  · have hdb := World.Drift.db hd
    rw [hdb] at hsess huser
    exact not_refused (getAuth_ok_iff.mpr ⟨htoken, hsess, (drift_now hd).trans hnow, huser,
      hactive⟩) hrefused

/-- **A token that is refused is refused ever after**, whatever requests come, as long as `secrets`
does not make it again. -/
theorem refused_stays (D : Deployment) (howned : Owned owner w) (hknown : Known w)
    (hrun : Crew.Run (system D owner) .free ⟨w, []⟩ c)
    (hlater : Relation.ReflTransGen
      (fun c c' ↦ Crew.Step (system D owner) .free c c' ∧ NotMade token c c') c c')
    (hrefused : Refused c.state token) : Refused c'.state token := by
  have hall : Crew.Run (system D owner) .free ⟨w, []⟩ c' ∧ Refused c'.state token := by
    induction hlater with
    | refl => exact ⟨hrun, hrefused⟩
    | tail _ hs ih =>
        exact ⟨ih.1.tail hs.1, (registered howned hknown ih.1).refused hs.1 hs.2 ih.2⟩
  exact hall.2

/-- **What ends a session**: a turn of a logout with its token or of a deactivation of its user, or
time. -/
theorem session_ends (D : Deployment) (howned : Owned owner w) (hknown : Known w)
    (hrun : Crew.Run (system D owner) .free ⟨w, []⟩ c)
    (hs : Crew.Step (system D owner) .free c c') {ctx : Users.AuthContext}
    (hctx : Users.getAuth c.state (some token) = .ok ctx) (hrefused : Refused c'.state token) :
    c.TurnOf (system D owner) (.logout (some token)) c' ∨
      (∃ admin, c.TurnOf (system D owner) (.route admin .deactivateUser (owner token)) c') ∨
      ctx.session.expiresAt < c'.state.now := by
  obtain ⟨htoken, hsess, hnow, huser, hactive⟩ := getAuth_ok_iff.mp hctx
  have h := registered howned hknown hrun
  have howner : ctx.session.username = owner token := h.owned _ _ hsess
  obtain ⟨-, -, hsame | ⟨i, hturn, hm⟩ | hd⟩ := h.step hs
  · rw [hsame] at hrefused
    exact absurd hrefused (not_refused hctx)
  · rcases hm.sessions.gone hsess with hrow | hlogout
    · obtain ⟨u', hu', -, hdeactivated, -⟩ := hm.users.row huser
      cases hactive' : u'.isActive with
      | false =>
          obtain ⟨admin, hi⟩ := hdeactivated hactive' hactive
          rw [hi, howner] at hturn
          exact .inr (.inl ⟨admin, hturn⟩)
      | true =>
          have hafter : Users.getAuth c'.state (some token) = .ok ⟨u', ctx.session⟩ :=
            getAuth_ok_iff.mpr ⟨htoken, hrow, by rw [hm.now]; exact hnow, hu', hactive'⟩
          exact absurd hrefused (not_refused hafter)
    · rw [hlogout] at hturn
      exact .inl hturn
  · by_cases hexpired : ctx.session.expiresAt < c'.state.now
    · exact .inr (.inr hexpired)
    · have hdb := World.Drift.db hd
      rw [← hdb] at hsess huser
      exact absurd hrefused (not_refused (getAuth_ok_iff.mpr
        ⟨htoken, hsess, Int.not_lt.mp hexpired, huser, hactive⟩))

/-- **A user who must change the password** need no more only by a turn of a request of the user's
own that gave the current password and another new one. -/
theorem mustChange_falls (D : Deployment) (howned : Owned owner w) (hknown : Known w)
    (hrun : Crew.Run (system D owner) .free ⟨w, []⟩ c)
    (hs : Crew.Step (system D owner) .free c c') {u u' : POSUser}
    (hu : c.state.db.posUsers.get? x = some u) (hmust : u.mustChangePassword = true)
    (hu' : c'.state.db.posUsers.get? x = some u') (hmust' : u'.mustChangePassword = false) :
    ∃ token, c.TurnOf (system D owner) (.changePassword (some token) true true) c' ∧
      owner token = x := by
  obtain ⟨-, -, hsame | ⟨i, hturn, hm⟩ | hd⟩ := (registered howned hknown hrun).step hs
  · rw [hsame, hu] at hu'
    obtain rfl := Option.some.inj hu'
    rw [hmust] at hmust'
    cases hmust'
  · obtain ⟨u₁, hu₁, -, -, hfalls⟩ := hm.users.row hu
    obtain rfl := Option.some.inj (hu₁.symm.trans hu')
    obtain ⟨token, hi, howner⟩ := hfalls hmust' hmust
    rw [hi] at hturn
    exact ⟨token, hturn, howner⟩
  · rw [World.Drift.db hd, hu] at hu'
    obtain rfl := Option.some.inj hu'
    rw [hmust] at hmust'
    cases hmust'

end Runs

/-! ## The administrator's session -/

/-- The administrator as the migration seeds it, logged in with the token `a`. -/
abbrev seeded : World := Users.seeded .closed

theorem owned_seeded : Owned (fun _ ↦ "admin") seeded := by
  intro token sess h
  obtain rfl := List.mem_singleton.mp (Table.mem_of_get? h)
  rfl

theorem known_seeded : Known seeded := by
  intro token sess h
  obtain rfl := List.mem_singleton.mp (Table.mem_of_get? h)
  rfl

/-- A logout is about to remove the session. -/
def leaving : Scene fun _ ↦ "admin" where
  state := seeded
  threads := [(.logout (some "a"), (do
    App.commit fun w ↦ w.removeLogin "a"
    return none : App (Option Id)).void)]

theorem leaving_run : Crew.Run (system .sample fun _ ↦ "admin") .free ⟨seeded, []⟩ leaving := by
  refine .head (.start (.logout (some "a"))) (.head (.access (l := []) (r := []) rfl) ?_)
  exact .single (.access (l := []) (r := []) rfl)

/-- After the logout the administrator logs in again, with the token `b`, and tries the old one. -/
theorem refused_stays_logout :
    ∃ c' : Scene fun _ ↦ "admin", (∃ ctx, Users.getAuth c'.state (some "b") = .ok ctx) ∧
      Refused c'.state "a" := by
  obtain ⟨c', hlater, hb⟩ : ∃ c' : Scene fun _ ↦ "admin", Relation.ReflTransGen
      (fun c c' ↦ Crew.Step (system .sample fun _ ↦ "admin") .free c c' ∧ NotMade "a" c c')
      ⟨seeded.removeLogin "a", [(.logout (some "a"), .pure ())]⟩ c' ∧
      ∃ ctx, Users.getAuth c'.state (some "b") = .ok ctx := by
    have hmade {c c' : Scene fun _ ↦ "admin"} (h : c'.state.db.posSessions.get? "a" = none) :
        NotMade "a" c c' := fun _ ↦ h
    exact ⟨_, .head ⟨.drift (.tick (t := 5) (by decide)), hmade (by rfl)⟩ (.head
      ⟨.start (.login "admin" true "b" rfl 60), hmade (by rfl)⟩ (.head
      ⟨.access (l := [_]) (r := []) rfl, hmade (by rfl)⟩ (.head
      ⟨.access (l := [_]) (r := []) rfl, hmade (by rfl)⟩ (.head
      ⟨.start (.changePassword (some "a") true true), hmade (by rfl)⟩ (.single
      ⟨.access (l := [_, _]) (r := []) rfl, hmade (by rfl)⟩))))), _, by rfl⟩
  exact ⟨c', hb, refused_stays .sample owned_seeded known_seeded
    (leaving_run.tail (.access (l := []) (r := []) rfl)) hlater ⟨.http 401 "session_expired", rfl⟩⟩

/-- The logout itself is what ends the session. -/
theorem session_ends_logout :
    ∃ c', leaving.TurnOf (system .sample fun _ ↦ "admin") (.logout (some "a")) c' ∨
      (∃ admin, leaving.TurnOf (system .sample fun _ ↦ "admin")
        (.route admin .deactivateUser "admin") c') ∨ (1 : Time) < c'.state.now :=
  ⟨_, session_ends .sample owned_seeded known_seeded leaving_run (.access (l := []) (r := []) rfl)
    (rfl : Users.getAuth leaving.state (some "a") =
      .ok ⟨{ username := "admin", mustChangePassword := true }, ⟨"a", "admin", 1⟩⟩)
    ⟨.http 401 "session_expired", rfl⟩⟩

/-- A new password is about to be stored. -/
def changing : Scene fun _ ↦ "admin" where
  state := seeded
  threads := [(.changePassword (some "a") true true,
    App.commit fun w ↦ w.updateUser "admin" Users.passwordChanged)]

theorem mustChange_falls_admin : ∃ c' : Scene fun _ ↦ "admin", ∃ token : String,
    changing.TurnOf (system .sample fun _ ↦ "admin") (.changePassword (some token) true true) c' ∧
      (fun _ ↦ "admin") token = "admin" := by
  have hrun : Crew.Run (system .sample fun _ ↦ "admin") .free ⟨seeded, []⟩ changing := by
    refine .head (.start (.changePassword (some "a") true true)) ?_
    exact .single (.access (l := []) (r := []) rfl)
  exact ⟨_, mustChange_falls .sample owned_seeded known_seeded hrun
    (.access (l := []) (r := []) rfl) rfl rfl rfl rfl⟩

end HightowerPos.Sessions
