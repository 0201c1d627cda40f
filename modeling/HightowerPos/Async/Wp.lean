import HightowerPos.Async.Prog

/-!
# Weakest preconditions

What has to hold for a program to do what is asked of it is computed along its tree.
A `Calculus` says what is asked at a write and at an await; a ghost `γ` records what
the shared state does not, the first state of the segment under way for instance.
`Prog.wp` is the condition that results, for a postcondition on where the program
returns or raises.

The rules below, `wp_bind` above all, let one specification of a helper serve every
calculus: the interleaved one (`HightowerPos.Async.Protocol`), the one in which
handlers do not overlap (`HightowerPos.Async.Serial`) and the one of a program that
runs alone (`Calculus.alone`).
-/

namespace HightowerPos.Async

/-- What is asked of a program at its accesses and its awaits. -/
structure Calculus (σ Q : Type) (R : Q → Type) (γ : Type) where
  /-- What an access may do to the state. -/
  write : σ → σ → Prop
  /-- What an await needs, given the condition under which the program goes on. -/
  await : γ → σ → (q : Q) → (R q → γ → σ → Prop) → Prop
  /-- A read is always allowed. -/
  read : ∀ s, write s s
  /-- The need grows with the condition. -/
  mono : ∀ {g s q} {k k' : R q → γ → σ → Prop}, (∀ a g' s', k a g' s' → k' a g' s') →
    await g s q k → await g s q k'

variable {σ Q γ ε α β : Type} {R : Q → Type}

namespace Prog

/-- The weakest precondition of a program. -/
def wp (C : Calculus σ Q R γ) (post : γ → Except ε α → σ → Prop) :
    Prog σ Q R ε α → γ → σ → Prop
  | .pure a, g, s => post g (.ok a) s
  | .raise e, g, s => post g (.error e) s
  | .atomic f k, g, s => match f s with
      | .ok s' => C.write s s' ∧ (k s).wp C post g s'
      | .error e => post g (.error e) s
  | .await q k, g, s => C.await g s q fun a g' s' ↦ (k a).wp C post g' s'

end Prog

section Rules

variable {C : Calculus σ Q R γ} {post : γ → Except ε α → σ → Prop} {g : γ} {s : σ}

@[simp] theorem wp_pure (a : α) :
    (Prog.pure a : Prog σ Q R ε α).wp C post g s = post g (.ok a) s := rfl

@[simp] theorem wp_raise (e : ε) :
    (Prog.raise e : Prog σ Q R ε α).wp C post g s = post g (.error e) s := rfl

@[simp] theorem wp_atomic_read (k : σ → Prog σ Q R ε α) :
    (Prog.atomic .ok k).wp C post g s = (k s).wp C post g s := by
  simp only [Prog.wp, C.read, true_and]

@[simp] theorem wp_read (post : γ → Except ε σ → σ → Prop) :
    (Prog.read : Prog σ Q R ε σ).wp C post g s = post g (.ok s) s := wp_atomic_read _

/-- A write that succeeds. -/
@[simp] theorem wp_write (f : σ → σ) (k : σ → Prog σ Q R ε α) :
    (Prog.atomic (fun s ↦ .ok (f s)) k).wp C post g s =
      (C.write s (f s) ∧ (k s).wp C post g (f s)) := rfl

@[simp] theorem wp_commit (f : σ → σ) (post : γ → Except ε Unit → σ → Prop) :
    (Prog.commit (fun s ↦ .ok (f s)) : Prog σ Q R ε Unit).wp C post g s =
      (C.write s (f s) ∧ post g (.ok ()) (f s)) := rfl

@[simp] theorem wp_await (q : Q) (k : R q → Prog σ Q R ε α) :
    (Prog.await q k).wp C post g s = C.await g s q fun a g' s' ↦ (k a).wp C post g' s' := rfl

@[simp] theorem wp_call (q : Q) (post : γ → Except ε (R q) → σ → Prop) :
    (Prog.call q : Prog σ Q R ε (R q)).wp C post g s =
      C.await g s q fun a g' s' ↦ post g' (.ok a) s' := rfl

/-- A sequence: the second part has to go on from wherever the first returns. -/
@[simp] theorem wp_bind (p : Prog σ Q R ε α) (f : α → Prog σ Q R ε β)
    (post : γ → Except ε β → σ → Prop) :
    (p >>= f).wp C post g s = p.wp C (fun g r s ↦ match r with
      | .ok a => (f a).wp C post g s
      | .error e => post g (.error e) s) g s := by
  induction p generalizing g s with
  | pure a => rfl
  | raise e => rfl
  | atomic u k ih =>
      rw [Prog.atomic_bind]
      simp only [Prog.wp]
      cases u s with
      | ok s' => simp only [ih]
      | error e => rfl
  | await q k ih =>
      rw [Prog.await_bind]
      simp only [Prog.wp, ih]

/-- An exception handler has to go on from wherever the program raises. -/
@[simp] theorem wp_catching (p : Prog σ Q R ε α) (h : ε → Prog σ Q R ε α) :
    (p.catching h).wp C post g s = p.wp C (fun g r s ↦ match r with
      | .ok a => post g (.ok a) s
      | .error e => (h e).wp C post g s) g s := by
  induction p generalizing g s with
  | pure a => rfl
  | raise e => rfl
  | atomic u k ih =>
      simp only [Prog.catching, Prog.wp]
      cases hu : u s with
      | ok s' => simp only [Except.toOption, Option.getD_some, ih]
      | error e => simp only [Except.toOption, Option.getD_none, C.read, true_and]
  | await q k ih => simp only [Prog.catching, Prog.wp, ih]

/-- A weaker postcondition. -/
theorem wp_mono {p : Prog σ Q R ε α} {post' : γ → Except ε α → σ → Prop}
    (hpost : ∀ g r s, post g r s → post' g r s) (h : p.wp C post g s) : p.wp C post' g s := by
  induction p generalizing g s with
  | pure a => exact hpost _ _ _ h
  | raise e => exact hpost _ _ _ h
  | atomic u k ih =>
      simp only [Prog.wp] at h ⊢
      cases hu : u s with
      | ok s' => simp only [hu] at h; exact ⟨h.1, ih s h.2⟩
      | error e => simp only [hu] at h; exact hpost _ _ _ h
  | await q k ih => exact C.mono (fun a g' s' ↦ ih a) h

end Rules

/-! ## Running alone -/

/-- The calculus of a program that runs alone with an oracle for the answers. -/
def Calculus.alone (send : Q → σ → σ) (answer : (q : Q) → Option (R q)) :
    Calculus σ Q R Unit where
  write _ _ := True
  await g s q k := ∃ a, answer q = some a ∧ k a g (send q s)
  read _ := trivial
  mono := fun h ⟨a, ha, hk⟩ ↦ ⟨a, ha, h _ _ _ hk⟩

/-- The weakest precondition of a program that runs alone: it gets its answers, and the
postcondition holds where it ends. -/
theorem wp_alone (send : Q → σ → σ) (answer : (q : Q) → Option (R q)) (p : Prog σ Q R ε α)
    (post : Unit → Except ε α → σ → Prop) (s : σ) :
    p.wp (.alone send answer) post () s ↔
      ∃ r, (p.exec send answer s).2 = some r ∧ post () r (p.exec send answer s).1 := by
  induction p generalizing s with
  | pure a => simp [Prog.exec]
  | raise e => simp [Prog.exec]
  | atomic u k ih =>
      simp only [Prog.wp, Prog.exec]
      cases u s with
      | ok s' => simpa only [Calculus.alone, true_and] using ih s s'
      | error e => simp
  | await q k ih =>
      change (∃ a, answer q = some a ∧ (k a).wp _ post () (send q s)) ↔ _
      simp only [Prog.exec]
      cases answer q with
      | none => simp
      | some a => simpa using ih a (send q s)

/-- The same calculus with a record of the calls, for a condition on where the program ends, if
it gets all its answers. -/
def Calculus.recording (send : Q → σ → σ) (answer : (q : Q) → Option (R q)) :
    Calculus σ Q R (List Q) where
  write _ _ := True
  await qs s q k := ∀ a, answer q = some a → k a (qs ++ [q]) (send q s)
  read _ := trivial
  mono := fun h hk a ha ↦ h _ _ _ (hk a ha)

/-- What a program has called when it ends. -/
theorem wp_recording (send : Q → σ → σ) (answer : (q : Q) → Option (R q)) (p : Prog σ Q R ε α)
    (post : List Q → Except ε α → σ → Prop) (qs : List Q) (s : σ) :
    p.wp (.recording send answer) post qs s ↔
      ∀ r, (p.exec send answer s).2 = some r →
        post (qs ++ p.calls send answer s) r (p.exec send answer s).1 := by
  induction p generalizing qs s with
  | pure a => simp [Prog.exec, Prog.calls]
  | raise e => simp [Prog.exec, Prog.calls]
  | atomic u k ih =>
      simp only [Prog.wp, Prog.exec, Prog.calls]
      cases u s with
      | ok s' => simpa only [Calculus.recording, true_and] using ih s qs s'
      | error e => simp
  | await q k ih =>
      change (∀ a, answer q = some a → (k a).wp _ post (qs ++ [q]) (send q s)) ↔ _
      simp only [Prog.exec, Prog.calls]
      cases answer q with
      | none => simp
      | some a => simpa using ih a (qs ++ [q]) (send q s)

/-- The same calculus for a condition on the state that the program leaves, also where it
stops for want of an answer. -/
def Calculus.leaving (send : Q → σ → σ) (answer : (q : Q) → Option (R q)) (P : σ → Prop) :
    Calculus σ Q R Unit where
  write _ _ := True
  await g s q k := (∀ a, answer q = some a → k a g (send q s)) ∧ (answer q = none → P (send q s))
  read _ := trivial
  mono := fun h hk ↦ ⟨fun a ha ↦ h _ _ _ (hk.1 a ha), hk.2⟩

/-- The state that a program leaves. -/
theorem wp_leaving {send : Q → σ → σ} {answer : (q : Q) → Option (R q)} {P : σ → Prop}
    {p : Prog σ Q R ε α} {s : σ} (h : p.wp (.leaving send answer P) (fun _ _ s ↦ P s) () s) :
    P (p.exec send answer s).1 := by
  induction p generalizing s with
  | pure a => exact h
  | raise e => exact h
  | atomic u k ih =>
      simp only [Prog.wp] at h
      simp only [Prog.exec]
      cases hu : u s with
      | ok s' =>
          simp only [hu] at h
          exact ih s h.2
      | error e =>
          simp only [hu] at h
          exact h
  | await q k ih =>
      obtain ⟨hsome, hnone⟩ := h
      simp only [Prog.exec]
      cases ha : answer q with
      | some a => exact ih a (hsome a ha)
      | none => exact hnone ha

end HightowerPos.Async
