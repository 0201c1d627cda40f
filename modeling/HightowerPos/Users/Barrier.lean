import HightowerPos.Async.Stretch
import HightowerPos.Routes

/-!
# The forced password change

A user who must change the password is let through by `get_auth` and stopped by
`get_current_user`.  A route is closed to such a user, whatever the database holds and whatever
is asked of it, exactly when it depends on the second (`closed_iff`); the routes of `till.py` and
`admin_users.py` are open.
-/

namespace HightowerPos.Users

open Async

/-- The session is that of a user who must change the password. -/
def MustChange (w : World) (token : String) : Prop :=
  ∃ sess user, w.db.posSessions.get? token = some sess ∧
    w.db.posUsers.get? sess.username = some user ∧ user.mustChangePassword = true

/-- The request is refused, and nothing is written. -/
def Refused (p : App Unit) (w : World) : Prop :=
  ∃ exc, p.stretch World.send w = (w, .over (.error exc))

/-- The route refuses every request on a session of a user who must change the password. -/
def Closed (r : Route) : Prop :=
  ∀ (D : Deployment) (other : (r : Route) → r.Params → App Unit) (w : World) (token : String)
    (p : r.Params), MustChange w token → Refused (Routes.serve D other (some token) r p) w

/-! ## The dependencies -/

section Dependencies

variable {w : World} {token : String}

/-- A user who must change the password is no current user. -/
theorem getCurrentUser_of_mustChange (h : MustChange w token) :
    ∃ exc, getCurrentUser w (some token) = .error exc := by
  obtain ⟨sess, user, hsess, huser, hmust⟩ := h
  unfold getCurrentUser
  cases hauth : getAuth w (some token) with
  | error e => exact ⟨e, rfl⟩
  | ok ctx =>
      -- the user that `get_auth` finds is the user of the session
      have hctx : ctx.user = user := by
        unfold getAuth at hauth
        split at hauth
        · cases hauth
        · cases hauth
        · next token' _ heq =>
            cases heq
            simp only [hsess, huser] at hauth
            split at hauth
            · cases hauth
            · split at hauth
              · cases hauth
                rfl
              · cases hauth
      dsimp only
      rw [hctx, if_pos hmust]
      exact ⟨_, rfl⟩

/-- What depends on `get_current_user` is refused. -/
theorem refused_withCurrentUser (h : MustChange w token) (body : POSUser → App Unit) :
    Refused (withCurrentUser (some token) body) w := by
  obtain ⟨exc, hexc⟩ := getCurrentUser_of_mustChange h
  refine ⟨exc, ?_⟩
  unfold withCurrentUser
  rw [Prog.read_bind, Prog.stretch, hexc]
  rfl

end Dependencies

/-! ## The routes -/

/-- A route that depends on `get_current_user` is closed. -/
theorem closed_of_getCurrentUser {r : Route} (h : r.dependency = .getCurrentUser) :
    Closed r := by
  intro D other w token p hmust
  cases r with
  | openTill | currentTill | closeTill | sessionPdf | listSessions | listSessionTransactions
  | listUsers | createUser | deactivateUser | resetPassword => cases h
  | _ => exact refused_withCurrentUser hmust _

/-- The administrator as the migration seeds it, logged in, with another cashier; it has a till
session. -/
def seeded (status : TillStatus) : World where
  db := { Db.sample (.sample .complete) with
    tillSessions := .single
      { TillSession.sample with cashierId := "admin", status := status, pdfPath := some "report" }
    posUsers := ⟨[{ username := "admin", mustChangePassword := true }, { username := "bob" }],
      by decide⟩
    posSessions := ⟨[⟨"a", "admin", 1⟩], by decide⟩ }
  now := 0

theorem mustChange_seeded (status : TillStatus) : MustChange (seeded status) "a" :=
  ⟨⟨"a", "admin", 1⟩, { username := "admin", mustChangePassword := true }, rfl, rfl, rfl⟩

/-- The handler is over with an exception. -/
def raises : Stop World Call Answer PyExc Unit → Bool
  | .over (.error _) => true
  | _ => false

/-- A request of the seeded administrator that is not refused. -/
theorem not_closed {r : Route} (p : r.Params) (status : TillStatus)
    (h : raises ((Routes.serve .sample (fun _ _ ↦ .pure ()) (some "a") r p).stretch World.send
      (seeded status)).2 = false) : ¬ Closed r := by
  intro hclosed
  obtain ⟨exc, hexc⟩ := hclosed .sample (fun _ _ ↦ .pure ()) (seeded status) "a" p
    (mustChange_seeded status)
  rw [hexc] at h
  cases h

/-- **The barrier.**  A route is closed to those who must change the password exactly when it
depends on `get_current_user`. -/
theorem closed_iff (r : Route) : Closed r ↔ r.dependency = .getCurrentUser := by
  refine ⟨fun hclosed ↦ ?_, closed_of_getCurrentUser⟩
  cases r with
  | openTill => exact absurd hclosed (not_closed [] .closed (by decide +kernel))
  | currentTill => exact absurd hclosed (not_closed () .closed (by decide +kernel))
  | closeTill => exact absurd hclosed (not_closed [] .open (by decide +kernel))
  | sessionPdf => exact absurd hclosed (not_closed (0, true) .closed (by decide +kernel))
  | listSessions => exact absurd hclosed (not_closed {} .closed (by decide +kernel))
  | listSessionTransactions => exact absurd hclosed (not_closed 0 .closed (by decide +kernel))
  | listUsers => exact absurd hclosed (not_closed () .closed (by decide +kernel))
  | createUser => exact absurd hclosed (not_closed ("eve", "Eve") .closed (by decide +kernel))
  | deactivateUser => exact absurd hclosed (not_closed "bob" .closed (by decide +kernel))
  | resetPassword => exact absurd hclosed (not_closed "bob" .closed (by decide +kernel))
  | _ => rfl

/-- **The seeded administrator** creates a user without having changed the password. -/
theorem barrier_passed :
    MustChange (seeded .closed) "a" ∧
      ¬ Refused (Routes.serve .sample (fun _ _ ↦ .pure ()) (some "a") .createUser ("eve", "Eve"))
        (seeded .closed) ∧
      ((Routes.serve .sample (fun _ _ ↦ .pure ()) (some "a") .createUser ("eve", "Eve")).stretch
        World.send (seeded .closed)).1.db.posUsers.get? "eve" ≠ none := by
  refine ⟨mustChange_seeded _, ?_, by decide +kernel⟩
  rintro ⟨exc, hexc⟩
  have hok : raises ((Routes.serve .sample (fun _ _ ↦ .pure ()) (some "a") .createUser
      ("eve", "Eve")).stretch World.send (seeded .closed)).2 = false := by decide +kernel
  rw [hexc] at hok
  cases hok

end HightowerPos.Users
