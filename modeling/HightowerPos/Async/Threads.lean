import HightowerPos.Async.Prog

/-!
# Threads

A thread may be interrupted at each access to the shared state, not only where it awaits
something.  `Prog.Turn` is what a thread does at a time.

`Prog.Guarantees` is a rely-guarantee specification of one thread: so long as the others
keep `J`, whatever they do between two of its accesses, each of its moves is one of `P`.
-/

namespace HightowerPos.Async

variable {σ Q ε α β : Type} {R : Q → Type}

/-- An access is made, or refused. -/
theorem Prog.tick_cases {p p' : Prog σ Q R ε α} {s s' : σ} (h : p.tick s = some (s', p')) :
    ∃ f k, p = .atomic f k ∧
      (f s = .ok s' ∧ p' = k s ∨ s' = s ∧ ∃ e, f s = .error e ∧ p' = .raise e) := by
  cases p with
  | pure a => cases h
  | raise e => cases h
  | await q k => cases h
  | atomic f k =>
      refine ⟨f, k, rfl, ?_⟩
      simp only [Prog.tick] at h
      cases hf : f s with
      | ok s₁ =>
          simp only [hf] at h
          obtain ⟨rfl, rfl⟩ := Prod.mk.inj (Option.some.inj h)
          exact .inl ⟨rfl, rfl⟩
      | error e =>
          simp only [hf] at h
          obtain ⟨rfl, rfl⟩ := Prod.mk.inj (Option.some.inj h)
          exact .inr ⟨rfl, e, rfl, rfl⟩

/-- One turn of a thread: an access, or an await with its answer. -/
inductive Prog.Turn (send : Q → σ → σ) :
    Prog σ Q R ε α → σ → σ → Prog σ Q R ε α → Prop
  | access {p p' : Prog σ Q R ε α} {s s' : σ} (h : p.tick s = some (s', p')) : Turn send p s s' p'
  | answer {q : Q} {k : R q → Prog σ Q R ε α} {s : σ} (a : R q) :
      Turn send (.await q k) s (send q s) (k a)

/-- A thread that is about to make an access makes it. -/
theorem Prog.Turn.tick {send : Q → σ → σ} {f : σ → Except ε σ} {k : σ → Prog σ Q R ε α}
    {p' : Prog σ Q R ε α} {s s' : σ} (h : (Prog.atomic f k).Turn send s s' p') :
    (Prog.atomic f k).tick s = some (s', p') := by
  cases h with
  | access h => exact h

/-- The program is over. -/
def Prog.Ended : Prog σ Q R ε α → Prop
  | .pure _ | .raise _ => True
  | .atomic _ _ | .await _ _ => False

/-- From any states of `J`, every move of the program is one of `P`. -/
def Prog.Guarantees (send : Q → σ → σ) (J : σ → Prop) (P : σ → σ → Prop)
    (post : Except ε α → Prop) : Prog σ Q R ε α → Prop
  | .pure a => post (.ok a)
  | .raise e => post (.error e)
  | .atomic f k => ∀ s, J s → match f s with
      | .ok s' => P s s' ∧ (k s).Guarantees send J P post
      | .error e => post (.error e)
  | .await q k => ∀ s, J s → P s (send q s) ∧ ∀ a, (k a).Guarantees send J P post

section Rules

variable {send : Q → σ → σ} {J : σ → Prop} {P : σ → σ → Prop}

/-- A sequence: the second part starts with what the first one returns. -/
theorem guarantees_bind {p : Prog σ Q R ε α} {f : α → Prog σ Q R ε β}
    {post : Except ε β → Prop}
    (h : p.Guarantees send J P fun r ↦ match r with
      | .ok a => (f a).Guarantees send J P post
      | .error e => post (.error e)) : (p >>= f).Guarantees send J P post := by
  induction p with
  | pure a => exact h
  | raise e => exact h
  | atomic u k ih =>
      intro s hs
      have hu := h s hs
      cases hus : u s with
      | ok s' =>
          simp only [hus] at hu ⊢
          exact ⟨hu.1, ih s hu.2⟩
      | error e => simpa only [hus] using hu
  | await q k ih =>
      intro s hs
      obtain ⟨hsend, hk⟩ := h s hs
      exact ⟨hsend, fun a ↦ ih a (hk a)⟩

/-- A weaker postcondition. -/
theorem Prog.Guarantees.mono {p : Prog σ Q R ε α} {post post' : Except ε α → Prop}
    (h : p.Guarantees send J P post) (hpost : ∀ r, post r → post' r) :
    p.Guarantees send J P post' := by
  induction p with
  | pure a => exact hpost _ h
  | raise e => exact hpost _ h
  | atomic u k ih =>
      intro s hs
      have hu := h s hs
      cases hus : u s with
      | ok s' =>
          simp only [hus] at hu ⊢
          exact ⟨hu.1, ih s hu.2⟩
      | error e =>
          simp only [hus] at hu ⊢
          exact hpost _ hu
  | await q k ih =>
      intro s hs
      obtain ⟨hsend, hk⟩ := h s hs
      exact ⟨hsend, fun a ↦ ih a (hk a)⟩

/-- Weaker moves, and more that is asked of the states. -/
theorem Prog.Guarantees.weaken {J' : σ → Prop} {P' : σ → σ → Prop} {p : Prog σ Q R ε α}
    {post : Except ε α → Prop} (h : p.Guarantees send J P post) (hJ : ∀ s, J' s → J s)
    (hP : ∀ s s', P s s' → P' s s') : p.Guarantees send J' P' post := by
  induction p with
  | pure a => exact h
  | raise e => exact h
  | atomic u k ih =>
      intro s hs
      have hu := h s (hJ s hs)
      cases hus : u s with
      | ok s' =>
          simp only [hus] at hu ⊢
          exact ⟨hP s s' hu.1, ih s hu.2⟩
      | error e => simpa only [hus] using hu
  | await q k ih =>
      intro s hs
      obtain ⟨hsend, hk⟩ := h s (hJ s hs)
      exact ⟨hP _ _ hsend, fun a ↦ ih a (hk a)⟩

/-- A sequence of programs that make moves of `P` only. -/
theorem guarantees_seq {p : Prog σ Q R ε α} {f : α → Prog σ Q R ε β}
    (hp : p.Guarantees send J P fun _ ↦ True)
    (hf : ∀ a, (f a).Guarantees send J P fun _ ↦ True) :
    (p >>= f).Guarantees send J P fun _ ↦ True := by
  refine guarantees_bind (hp.mono fun r _ ↦ ?_)
  cases r with
  | ok a => exact hf a
  | error e => trivial

/-- An exception handler that makes moves of `P` only; where an access is refused nothing moves. -/
theorem guarantees_catching (hrefl : ∀ s, P s s) {p : Prog σ Q R ε α} {f : ε → Prog σ Q R ε α}
    (hp : p.Guarantees send J P fun _ ↦ True)
    (hf : ∀ e, (f e).Guarantees send J P fun _ ↦ True) :
    (p.catching f).Guarantees send J P fun _ ↦ True := by
  induction p with
  | pure a => trivial
  | raise e => exact hf e
  | atomic u k ih =>
      intro s hs
      have hu := hp s hs
      cases hus : u s with
      | ok s' =>
          simp only [hus] at hu
          simp only [hus, Except.toOption, Option.getD_some]
          exact ⟨hu.1, ih s hu.2⟩
      | error e =>
          simp only [hus, Except.toOption, Option.getD_none]
          exact ⟨hrefl s, hf e⟩
  | await q k ih =>
      intro s hs
      obtain ⟨hsend, hk⟩ := hp s hs
      exact ⟨hsend, fun a ↦ ih a (hk a)⟩

/-- **A turn of a thread is a move that it guarantees**, and the rest of the thread
guarantees as much. -/
theorem Prog.Guarantees.turn {p p' : Prog σ Q R ε α} {post : Except ε α → Prop} {s s' : σ}
    (h : p.Guarantees send J P post) (hs : J s) (ht : p.Turn send s s' p') :
    (s' = s ∨ P s s') ∧ p'.Guarantees send J P post := by
  cases ht with
  | answer a =>
      obtain ⟨hsend, hk⟩ := h s hs
      exact ⟨.inr hsend, hk a⟩
  | access ht =>
      obtain ⟨u, k, rfl, ⟨hus, rfl⟩ | ⟨rfl, e, hus, rfl⟩⟩ := Prog.tick_cases ht
      · have hu := h s hs
        simp only [hus] at hu
        exact ⟨.inr hu.1, hu.2⟩
      · have hu := h s' hs
        simp only [hus] at hu
        exact ⟨.inl rfl, hu⟩

end Rules

end HightowerPos.Async
