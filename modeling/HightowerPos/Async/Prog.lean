import Mathlib.Logic.Relation

/-!
# Handlers that suspend

`Prog` is a shallow embedding of coroutine code that works on a shared state `σ`
and now and then awaits an answer from outside.  A program is a tree: it returns,
raises, makes one atomic access to the shared state, or awaits the answer to a
call.  What happens between two awaits is a *segment*; a cooperative scheduler
runs a segment without interruption, a preemptive one may cut it at every access.

* `Prog.advance` runs one segment, up to the next await.
* `Prog.exec` runs a program alone, with an oracle for the answers.
* `Prog.tick` makes one access only.

The answer to a call has a type that depends on the call, `R : Q → Type`, so a
continuation never sees an answer of the wrong kind.  Nothing here refers to a
particular state, a particular set of calls or a particular exception type.
-/

namespace HightowerPos.Async

/-- Programs over the shared state `σ`, which issue calls `q : Q`, receive
answers in `R q`, raise exceptions in `ε` and return in `α`. -/
inductive Prog (σ Q : Type) (R : Q → Type) (ε α : Type) : Type
  | /-- Return a value. -/
    pure (a : α)
  | /-- Raise an exception. -/
    raise (e : ε)
  | /-- One atomic access: the state moves by `f`, or `f` refuses and its
    exception is raised.  The continuation receives the state *before* the
    access, so that a read is the access that moves nothing. -/
    atomic (f : σ → Except ε σ) (k : σ → Prog σ Q R ε α)
  | /-- Issue a call and wait for its answer. -/
    await (q : Q) (k : R q → Prog σ Q R ε α)

namespace Prog

variable {σ Q : Type} {R : Q → Type} {ε α β γ : Type}

/-- Run `p`, then `f` on what it returns. -/
def bind : Prog σ Q R ε α → (α → Prog σ Q R ε β) → Prog σ Q R ε β
  | .pure a, f => f a
  | .raise e, _ => .raise e
  | .atomic u k, f => .atomic u fun s ↦ (k s).bind f
  | .await q k, f => .await q fun r ↦ (k r).bind f

/-- Run `p`; if it raises, run the handler instead of letting the exception
escape.  What `p` wrote before it raised stays written. -/
def catching : Prog σ Q R ε α → (ε → Prog σ Q R ε α) → Prog σ Q R ε α
  | .pure a, _ => .pure a
  | .raise e, h => h e
  | .atomic u k, h => .atomic (fun s ↦ .ok ((u s).toOption.getD s)) fun s ↦ match u s with
      | .ok _ => (k s).catching h
      | .error e => h e
  | .await q k, h => .await q fun r ↦ (k r).catching h

instance instMonad : Monad (Prog σ Q R ε) where
  pure := .pure
  bind := .bind

/-- Read the shared state. -/
def read : Prog σ Q R ε σ := .atomic .ok .pure

/-- Write the shared state. -/
def commit (f : σ → Except ε σ) : Prog σ Q R ε Unit := .atomic f fun _ ↦ .pure ()

/-- Issue a call and return its answer. -/
def call (q : Q) : Prog σ Q R ε (R q) := .await q .pure

/-! ## Bind on each constructor -/

@[simp] theorem pure_eq (a : α) : (Pure.pure a : Prog σ Q R ε α) = .pure a := rfl

@[simp] theorem pure_bind (a : α) (f : α → Prog σ Q R ε β) :
    (Prog.pure a : Prog σ Q R ε α) >>= f = f a := rfl

@[simp] theorem raise_bind (e : ε) (f : α → Prog σ Q R ε β) :
    (Prog.raise e : Prog σ Q R ε α) >>= f = .raise e := rfl

@[simp] theorem atomic_bind (u : σ → Except ε σ) (k : σ → Prog σ Q R ε α)
    (f : α → Prog σ Q R ε β) :
    Prog.atomic u k >>= f = .atomic u fun s ↦ k s >>= f := rfl

@[simp] theorem await_bind (q : Q) (k : R q → Prog σ Q R ε α) (f : α → Prog σ Q R ε β) :
    Prog.await q k >>= f = .await q fun r ↦ k r >>= f := rfl

@[simp] theorem read_bind (f : σ → Prog σ Q R ε β) :
    (read : Prog σ Q R ε σ) >>= f = .atomic .ok f := rfl

@[simp] theorem commit_bind (u : σ → Except ε σ) (f : Unit → Prog σ Q R ε β) :
    (commit u : Prog σ Q R ε Unit) >>= f = .atomic u fun _ ↦ f () := rfl

@[simp] theorem call_bind (q : Q) (f : R q → Prog σ Q R ε β) :
    (call q : Prog σ Q R ε (R q)) >>= f = .await q f := rfl

/-- Binding is associative, so a program may be read one statement at a time. -/
theorem bind_assoc (p : Prog σ Q R ε α) (f : α → Prog σ Q R ε β) (g : β → Prog σ Q R ε γ) :
    p >>= f >>= g = p >>= fun a ↦ f a >>= g := by
  induction p with
  | pure a => rfl
  | raise e => rfl
  | atomic u k ih => exact congrArg (Prog.atomic u) (funext ih)
  | await q k ih => exact congrArg (Prog.await q) (funext ih)

/-! ## Running alone -/

/-- Run a program alone, as far as the oracle `answer` has answers; `send` is what issuing
a call does to the shared state.  The result is `none` where an answer is missing. -/
def exec (send : Q → σ → σ) (answer : (q : Q) → Option (R q)) :
    Prog σ Q R ε α → σ → σ × Option (Except ε α)
  | .pure a, s => (s, some (.ok a))
  | .raise e, s => (s, some (.error e))
  | .atomic f k, s => match f s with
      | .ok s' => (k s).exec send answer s'
      | .error e => (s, some (.error e))
  | .await q k, s => match answer q with
      | some a => (k a).exec send answer (send q s)
      | none => (send q s, none)

/-- The calls that a program issues when it runs alone, in their order. -/
def calls (send : Q → σ → σ) (answer : (q : Q) → Option (R q)) : Prog σ Q R ε α → σ → List Q
  | .pure _, _ => []
  | .raise _, _ => []
  | .atomic f k, s => match f s with
      | .ok s' => (k s).calls send answer s'
      | .error _ => []
  | .await q k, s => q :: match answer q with
      | some a => (k a).calls send answer (send q s)
      | none => []

/-- A program that ends has got all its answers. -/
theorem answered_of_exec {send : Q → σ → σ} {answer : (q : Q) → Option (R q)}
    {p : Prog σ Q R ε α} {s : σ} (h : (p.exec send answer s).2.isSome) :
    ∀ q ∈ p.calls send answer s, (answer q).isSome := by
  induction p generalizing s with
  | pure a => simp [calls]
  | raise e => simp [calls]
  | atomic f k ih =>
      rw [exec] at h
      rw [calls]
      cases hf : f s with
      | ok s' =>
          simp only [hf] at h ⊢
          exact ih s h
      | error e => simp
  | await q k ih =>
      rw [exec] at h
      rw [calls]
      cases ha : answer q with
      | none => simp [ha] at h
      | some a =>
          simp only [ha] at h ⊢
          intro q' hq'
          rcases List.mem_cons.mp hq' with rfl | hq'
          · rw [ha]
            rfl
          · exact ih a h q' hq'

/-! ## One access at a time -/

/-- One access to the shared state: what a preemptive scheduler lets a thread do
before it may switch.  A program that has ended or waits makes none. -/
def tick : Prog σ Q R ε α → σ → Option (σ × Prog σ Q R ε α)
  | .pure _, _ => none
  | .raise _, _ => none
  | .atomic f k, s => match f s with
      | .ok s' => some (s', k s)
      | .error e => some (s, .raise e)
  | .await _ _, _ => none

end Prog

/-! ## Segments -/

/-- A program that waits: the call it issued and what it does with the answer. -/
structure Suspended (σ Q : Type) (R : Q → Type) (ε : Type) where
  /-- The call whose answer is awaited. -/
  call : Q
  /-- The rest of the program. -/
  resume : R call → Prog σ Q R ε Unit

/-- Run a program to its next await: the state it leaves, and the rest of the
program unless it has ended. -/
def Prog.advance {σ Q : Type} {R : Q → Type} {ε : Type} (send : Q → σ → σ) :
    Prog σ Q R ε Unit → σ → σ × Option (Suspended σ Q R ε)
  | .pure _, s => (s, none)
  | .raise _, s => (s, none)
  | .atomic f k, s => match f s with
      | .ok s' => (k s).advance send s'
      | .error _ => (s, none)
  | .await q k, s => (send q s, some ⟨q, k⟩)

end HightowerPos.Async
