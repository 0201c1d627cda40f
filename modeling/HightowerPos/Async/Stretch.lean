import HightowerPos.Async.Protocol

/-!
# Programs that answer a client

The handlers of a pool have no results.  A program that answers a client has one:
`Prog.stretch` runs it to its next await and says where it stops, with a result or at a call.
It stops where the protocol says that it follows (`Prog.Follows.stretch`), and with a result
that was asked of it (`stretch_last`).
-/

namespace HightowerPos.Async

variable {σ Q I Φ γ ε α β : Type} {R : Q → Type}

/-- Where a program stops: it is over, or it waits. -/
inductive Stop (σ Q : Type) (R : Q → Type) (ε α : Type) : Type
  | over (r : Except ε α)
  | waits (q : Q) (k : R q → Prog σ Q R ε α)

namespace Prog

/-- Run a program to its next await. -/
def stretch (send : Q → σ → σ) : Prog σ Q R ε α → σ → σ × Stop σ Q R ε α
  | .pure a, s => (s, .over (.ok a))
  | .raise e, s => (s, .over (.error e))
  | .atomic f k, s => match f s with
      | .ok s' => (k s).stretch send s'
      | .error e => (s, .over (.error e))
  | .await q k, s => (send q s, .waits q k)

/-- The program, without its result. -/
def forget (p : Prog σ Q R ε α) : Prog σ Q R ε Unit := p >>= fun _ ↦ .pure ()

/-- A result that says nothing. -/
theorem forget_answer (p : Prog σ Q R ε Unit) (a : α) :
    (p >>= fun _ ↦ .pure a : Prog σ Q R ε α).forget = p := by
  induction p with
  | pure u => rfl
  | raise e => rfl
  | atomic f k ih => exact congrArg (Prog.atomic f) (funext ih)
  | await q k ih => exact congrArg (Prog.await q) (funext ih)

variable {send : Q → σ → σ} {s : σ}

/-- A sequence goes on where its first part is over. -/
theorem stretch_bind (p : Prog σ Q R ε α) (f : α → Prog σ Q R ε β) :
    (p >>= f).stretch send s = match p.stretch send s with
      | (s', .over (.ok a)) => (f a).stretch send s'
      | (s', .over (.error e)) => (s', .over (.error e))
      | (s', .waits q k) => (s', .waits q fun a ↦ k a >>= f) := by
  induction p generalizing s with
  | pure a => rfl
  | raise e => rfl
  | await q k ih => rfl
  | atomic u k ih =>
      rw [atomic_bind]
      simp only [stretch]
      cases u s with
      | ok s' => exact ih s
      | error e => rfl

/-- A sequence whose first part raises. -/
theorem stretch_bind_error {p : Prog σ Q R ε α} {f : α → Prog σ Q R ε β} {s' : σ} {e : ε}
    (h : p.stretch send s = (s', .over (.error e))) :
    (p >>= f).stretch send s = (s', .over (.error e)) := by
  rw [stretch_bind, h]

/-- A sequence that starts with a read. -/
theorem stretch_read_bind (f : σ → Prog σ Q R ε β) :
    (read >>= f).stretch send s = (f s).stretch send s := rfl

/-! ### Calls alone -/

/-- Answer the calls of a program, up to its first access or a call that has no answer: the calls,
and the rest of the program. -/
def feed (answer : (q : Q) → Option (R q)) : Prog σ Q R ε α → List Q × Prog σ Q R ε α
  | .await q k => match answer q with
      | some a => (q :: ((k a).feed answer).1, ((k a).feed answer).2)
      | none => ([], .await q k)
  | p => ([], p)

variable {answer : (q : Q) → Option (R q)}

theorem feed_await {q : Q} {k : R q → Prog σ Q R ε α} {a : R q} (h : answer q = some a) :
    (Prog.await q k).feed answer = (q :: ((k a).feed answer).1, ((k a).feed answer).2) := by
  rw [feed, h]

/-- A sequence whose first part only calls. -/
theorem feed_bind {p : Prog σ Q R ε α} {l : List Q} {a : α} (f : α → Prog σ Q R ε β)
    (h : p.feed answer = (l, .pure a)) :
    (p >>= f).feed answer = (l ++ ((f a).feed answer).1, ((f a).feed answer).2) := by
  induction p generalizing l with
  | pure b =>
      cases h
      rfl
  | raise e => cases h
  | atomic u k ih => cases h
  | await q k ih =>
      cases hq : answer q with
      | none =>
          rw [feed, hq] at h
          cases h
      | some b =>
          rw [feed_await hq] at h
          obtain ⟨rfl, hrest⟩ := Prod.mk.inj h
          rw [await_bind, feed_await hq, ih b (Prod.ext rfl hrest)]
          rfl

/-- A stretch of a program that follows a protocol is one of its segments. -/
theorem Follows.stretch {S : System σ Q R ε I} {P : Protocol σ Q R I Φ} {p : Prog σ Q R ε α}
    {t : Trigger Q R I Φ} {s₀ : σ} (h : p.forget.Follows S P t s₀ s) :
    match p.stretch S.send s with
    | (s', .over _) => P.seg t s₀ s' none
    | (s', .waits q k) => ∃ φ, P.call φ = q ∧ P.seg t s₀ s' (some φ) ∧
        ∀ s a, S.reply s q a → (k a).forget.Follows S P (.reply φ q a) s s := by
  unfold forget Follows at h
  induction p generalizing s with
  | pure a => exact h
  | raise e => exact h
  | await q k ih => exact h
  | atomic u k ih =>
      rw [atomic_bind] at h
      simp only [wp] at h
      simp only [Prog.stretch]
      cases hu : u s with
      | ok s' =>
          simp only [hu] at h
          exact ih s h.2
      | error e =>
          simp only [hu] at h
          exact h

end Prog

/-! ## Results -/

/-- What is asked of the end of a program.  The ghost is the last answer that the program has
got. -/
def Calculus.last : Calculus σ Q R (Option (Σ q, R q)) where
  write _ _ := True
  await _ _ q k := ∀ s a, k a (some ⟨q, a⟩) s
  read _ := trivial
  mono h hk s a := h a _ s (hk s a)

variable {g : Option (Σ q, R q)} {post : Option (Σ q, R q) → Except ε α → σ → Prop}

/-- What is asked of the end of a program holds where it is over, and goes on to be asked where
it waits. -/
theorem stretch_last (send : Q → σ → σ) {p : Prog σ Q R ε α} {s : σ}
    (h : p.wp .last post g s) :
    match p.stretch send s with
    | (s', .over r) => post g r s'
    | (_, .waits q k) => ∀ s a, (k a).wp .last post (some ⟨q, a⟩) s := by
  induction p generalizing s with
  | pure a => exact h
  | raise e => exact h
  | await q k ih => exact h
  | atomic u k ih =>
      simp only [Prog.wp] at h
      simp only [Prog.stretch]
      cases hu : u s with
      | ok s' =>
          simp only [hu] at h
          exact ih s h.2
      | error e =>
          simp only [hu] at h
          exact h

/-- What holds of every end. -/
theorem wp_last_of_forall {p : Prog σ Q R ε α} {s : σ} (h : ∀ g r s, post g r s) :
    p.wp .last post g s := by
  induction p generalizing g s with
  | pure a => exact h _ _ _
  | raise e => exact h _ _ _
  | await q k ih => exact fun _ a ↦ ih a
  | atomic u k ih =>
      simp only [Prog.wp]
      cases u s with
      | ok s' => exact ⟨trivial, ih s⟩
      | error e => exact h _ _ _

/-- The result of a program that has one answer only. -/
theorem wp_last_answer {p : Prog σ Q R ε Unit} {a : α} {s : σ} (h : ∀ g s, post g (.ok a) s)
    (he : ∀ g e s, post g (.error e) s) :
    (p >>= fun _ ↦ .pure a : Prog σ Q R ε α).wp .last post g s := by
  rw [wp_bind]
  refine wp_last_of_forall fun g r s ↦ ?_
  cases r with
  | ok _ => exact h g s
  | error e => exact he g e s

end HightowerPos.Async
