import HightowerPos.World

/-!
# Users

`routes/admin_users.py` and the login, and what `auth.py` asks of a request.  Any authenticated
cashier may manage users.  A handler makes its checks on what it has read, and commits
afterwards.  Passwords and their hashes are left out: whether a password is right is for bcrypt
to say.
-/

namespace HightowerPos

/-- `UPDATE pos_users`. -/
def World.updateUser (w : World) (username : String) (u : Update POSUser POSUser.username) :
    World :=
  { w with db := { w.db with posUsers := w.db.posUsers.modify username u } }

/-- `INSERT INTO pos_users`. -/
def World.addUser (w : World) (username : String) (d : Draft POSUser POSUser.username)
    (h : w.db.posUsers.get? username = none) : World :=
  { w with db := { w.db with posUsers := w.db.posUsers.insert username d h } }

/-- `INSERT INTO pos_sessions`. -/
def World.addLogin (w : World) (token : String) (d : Draft POSSession POSSession.sessionToken)
    (h : w.db.posSessions.get? token = none) : World :=
  { w with db := { w.db with posSessions := w.db.posSessions.insert token d h } }

/-- `DELETE FROM pos_sessions`. -/
def World.removeLogin (w : World) (token : String) : World :=
  { w with db := { w.db with posSessions := w.db.posSessions.erase token } }

namespace Users

open Async

/-! ## Authentication -/

structure AuthContext where
  user : POSUser
  session : POSSession

/-- `get_auth`; the token is that of the session cookie. -/
def getAuth (w : World) (token : Option String) : Except PyExc AuthContext :=
  match token with
  | none | some "" => .error (.http 401 "not_authenticated")
  | some token =>
      match w.db.posSessions.get? token with
      | none => .error (.http 401 "session_expired")
      | some sess =>
          if sess.expiresAt < w.now then .error (.http 401 "session_expired")
          else
            match w.db.posUsers.get? sess.username with
            | none => .error (.http 401 "user_inactive")
            | some user =>
                if user.isActive then .ok ⟨user, sess⟩ else .error (.http 401 "user_inactive")

/-- `get_current_user`. -/
def getCurrentUser (w : World) (token : Option String) : Except PyExc POSUser :=
  match getAuth w token with
  | .error e => .error e
  | .ok ctx =>
      if ctx.user.mustChangePassword then .error (.http 403 "password_change_required")
      else .ok ctx.user

/-- A route that depends on `get_auth`. -/
def withAuth (token : Option String) (body : AuthContext → App Unit) : App Unit := do
  let w ← Prog.read
  let ctx ← App.ofExcept (getAuth w token)
  body ctx

/-- A route that depends on `get_current_user`. -/
def withCurrentUser (token : Option String) (body : POSUser → App Unit) : App Unit := do
  let w ← Prog.read
  let user ← App.ofExcept (getCurrentUser w token)
  body user

/-! ## Managing users -/

/-- `active_count`. -/
def activeCount (db : Db) : Nat := (db.posUsers.select (·.isActive)).length

/-- The checks of `deactivate_user`: the row to change, or `none` where it is inactive
already. -/
def checkDeactivate (w : World) (ctx : AuthContext) (username : String) :
    Except PyExc (Option POSUser) :=
  if username = ctx.user.username then .error (.http 409 "cannot_deactivate_self")
  else
    match w.db.posUsers.get? username with
    | none => .error (.http 404 "user_not_found")
    | some user =>
        if user.isActive then
          if activeCount w.db ≤ 1 then .error (.http 409 "last_active_user") else .ok (some user)
        else .ok none

/-- `user.is_active = False`. -/
def deactivated : Update POSUser POSUser.username where
  set u := { u with isActive := false }

/-- `deactivate_user`. -/
def deactivateUser (token : Option String) (username : String) : App Unit := do
  let w ← Prog.read
  let ctx ← App.ofExcept (getAuth w token)
  match ← App.ofExcept (checkDeactivate w ctx username) with
  | none => return ()
  | some user => App.commit fun w ↦ w.updateUser user.username deactivated

/-- The row that `create_user` adds. -/
def newUser (displayName : String) : Draft POSUser POSUser.username where
  build username :=
    { username := username
      displayName := displayName
      isActive := true
      mustChangePassword := true }

/-- `create_user`; the primary key refuses a username that was taken meanwhile. -/
def createUser (token : Option String) (username displayName : String) : App Unit := do
  let w ← Prog.read
  let _ ← App.ofExcept (getAuth w token)
  if (w.db.posUsers.get? username).isSome then .raise (.http 409 "username_exists")
  else
    Prog.commit fun w ↦
      if h : w.db.posUsers.get? username = none then
        .ok (w.addUser username (newUser displayName) h)
      else .error .integrity

/-- `user.must_change_password = True`. -/
def mustChange : Update POSUser POSUser.username where
  set u := { u with mustChangePassword := true }

/-- The checks of `reset_password`: the row to change. -/
def checkReset (w : World) (ctx : AuthContext) (username : String) : Except PyExc POSUser :=
  if username = ctx.user.username then .error (.http 409 "cannot_reset_own_password_here")
  else
    match w.db.posUsers.get? username with
    | none => .error (.http 404 "user_not_found")
    | some user => .ok user

/-- `reset_password`.  The flag is written where the loaded row does not have it. -/
def resetPassword (token : Option String) (username : String) : App Unit := do
  let w ← Prog.read
  let ctx ← App.ofExcept (getAuth w token)
  let user ← App.ofExcept (checkReset w ctx username)
  App.commit fun w ↦ if user.mustChangePassword then w else w.updateUser user.username mustChange

/-- The row that `create_session` adds. -/
def newSession (username : String) (expiresAt : Time) :
    Draft POSSession POSSession.sessionToken where
  build token := { sessionToken := token, username := username, expiresAt := expiresAt }

/-- `login`.  `verified` says whether bcrypt takes the password for the user's, and `token` is
the one that `secrets` makes. -/
def login (username : String) (verified : Bool) (token : String) (ttl : Time) : App Unit := do
  let w ← Prog.read
  match w.db.posUsers.get? username with
  | none => .raise (.http 401 "invalid_credentials")
  | some user =>
      if !user.isActive || !verified then .raise (.http 401 "invalid_credentials")
      else
        Prog.commit fun w ↦
          if h : w.db.posSessions.get? token = none then
            .ok (w.addLogin token (newSession user.username (w.now + ttl)) h)
          else .error .integrity

/-- `logout`: the session of the cookie is revoked; what is returned is the OPEN till session that
the client is warned of. -/
def logout (token : Option String) : App (Option Id) :=
  match token with
  | none | some "" => return none
  | some token => do
      let w ← Prog.read
      match w.db.posSessions.get? token with
      | none => do
          -- `revoke_session` looks again
          let w ← Prog.read
          if (w.db.posSessions.get? token).isSome then App.commit fun w ↦ w.removeLogin token
          return none
      | some sess => do
          let w ← Prog.read
          let openTill := w.db.openSession sess.username
          App.commit fun w ↦ w.removeLogin token
          return openTill.map (·.id)

/-- `user.must_change_password = False`. -/
def passwordChanged : Update POSUser POSUser.username where
  set u := { u with mustChangePassword := false }

/-- `change_password`, the route and the service.  `verified` says whether bcrypt takes the current
password for the user's, and `differs` whether the new one is another.  The flag is written where
the loaded row has it. -/
def changePassword (token : Option String) (verified differs : Bool) : App Unit :=
  withAuth token fun ctx ↦
    if !verified then .raise (.http 401 "invalid_credentials")
    else if !differs then .raise (.http 400 "new_password_must_differ")
    else App.commit fun w ↦
      if ctx.user.mustChangePassword then w.updateUser ctx.user.username passwordChanged else w

/-- A request to the user routes. -/
inductive Request
  | deactivateUser (token : Option String) (username : String)
  | createUser (token : Option String) (username displayName : String)

/-- The program of a request. -/
def handle : Request → App Unit
  | .deactivateUser token username => deactivateUser token username
  | .createUser token username displayName => createUser token username displayName

end Users

end HightowerPos
