import HightowerPos.Async.Threads

/-!
# Programs that look before they act

A program acts when it writes or calls.  `Prog.Looks` asks one thing of the result of a program
that has only read, and another of the result of one that has acted; `Prog.Ends` is what remains
to be shown of a program that has.  Where no result after an act is a refusal, a program that
refuses has left every state as it found it and has called nobody (`Looks.turns`).
-/

namespace HightowerPos.Async

variable {σ Q ε α β : Type} {R : Q → Type}

namespace Prog

/-- The turns of a thread, whatever the others do between them: the states before and after each
of them, and the calls among them. -/
inductive Turns (send : Q → σ → σ) (answers : (q : Q) → R q → Prop) :
    Prog σ Q R ε α → List (σ × σ) → List Q → Prog σ Q R ε α → Prop
  | nil {p : Prog σ Q R ε α} : Turns send answers p [] [] p
  | access {p p' p'' : Prog σ Q R ε α} {s s' : σ} {moves : List (σ × σ)} {calls : List Q}
      (h : p.tick s = some (s', p')) (hrest : Turns send answers p' moves calls p'') :
      Turns send answers p ((s, s') :: moves) calls p''
  | answer {q : Q} {k : R q → Prog σ Q R ε α} {p'' : Prog σ Q R ε α} {s : σ}
      {moves : List (σ × σ)} {calls : List Q} (a : R q) (ha : answers q a)
      (hrest : Turns send answers (k a) moves calls p'') :
      Turns send answers (.await q k) ((s, send q s) :: moves) (q :: calls) p''

/-- Whatever the program finds and is answered, its result is one of `late`. -/
def Ends (answers : (q : Q) → R q → Prop) (late : Except ε α → Prop) : Prog σ Q R ε α → Prop
  | .pure a => late (.ok a)
  | .raise e => late (.error e)
  | .atomic f k => ∀ s, match f s with
      | .ok _ => (k s).Ends answers late
      | .error e => late (.error e)
  | .await q k => ∀ a, answers q a → (k a).Ends answers late

/-- The result is one of `early` so long as the program has only read, and one of `late` once it
has written or called. -/
def Looks (answers : (q : Q) → R q → Prop) (early late : Except ε α → Prop) :
    Prog σ Q R ε α → Prop
  | .pure a => early (.ok a)
  | .raise e => early (.error e)
  | .atomic f k => ∀ s, match f s with
      | .ok s' => s' = s ∧ (k s).Looks answers early late ∨ (k s).Ends answers late
      | .error e => early (.error e)
  | .await q k => ∀ a, answers q a → (k a).Ends answers late

end Prog

section Rules

variable {send : Q → σ → σ} {answers : (q : Q) → R q → Prop} {p : Prog σ Q R ε α}

/-! ## Rules -/

theorem Prog.Ends.mono {late late' : Except ε α → Prop} (h : p.Ends answers late)
    (hlate : ∀ r, late r → late' r) : p.Ends answers late' := by
  induction p with
  | pure a => exact hlate _ h
  | raise e => exact hlate _ h
  | atomic f k ih =>
      intro s
      have hs := h s
      cases hf : f s with
      | ok s' =>
          simp only [hf] at hs ⊢
          exact ih s hs
      | error e =>
          simp only [hf] at hs ⊢
          exact hlate _ hs
  | await q k ih => exact fun a ha ↦ ih a (h a ha)

theorem ends_bind {f : α → Prog σ Q R ε β} {late : Except ε β → Prop}
    (h : p.Ends answers fun r ↦ match r with
      | .ok a => (f a).Ends answers late
      | .error e => late (.error e)) : (p >>= f).Ends answers late := by
  induction p with
  | pure a => exact h
  | raise e => exact h
  | atomic u k ih =>
      intro s
      have hs := h s
      cases hu : u s with
      | ok s' =>
          simp only [hu] at hs ⊢
          exact ih s hs
      | error e =>
          simp only [hu] at hs ⊢
          exact hs
  | await q k ih => exact fun a ha ↦ ih a (h a ha)

theorem Prog.Looks.mono {early early' late late' : Except ε α → Prop}
    (h : p.Looks answers early late) (hearly : ∀ r, early r → early' r)
    (hlate : ∀ r, late r → late' r) : p.Looks answers early' late' := by
  induction p with
  | pure a => exact hearly _ h
  | raise e => exact hearly _ h
  | atomic f k ih =>
      intro s
      have hs := h s
      cases hf : f s with
      | ok s' =>
          simp only [hf] at hs ⊢
          exact hs.imp (And.imp_right (ih s)) fun hends ↦ hends.mono hlate
      | error e =>
          simp only [hf] at hs ⊢
          exact hearly _ hs
  | await q k _ => exact fun a ha ↦ (h a ha).mono hlate

/-- The second part has acted where the first one has. -/
theorem looks_bind {f : α → Prog σ Q R ε β} {early late : Except ε β → Prop}
    (h : p.Looks answers
      (fun r ↦ match r with
        | .ok a => (f a).Looks answers early late
        | .error e => early (.error e))
      (fun r ↦ match r with
        | .ok a => (f a).Ends answers late
        | .error e => late (.error e))) : (p >>= f).Looks answers early late := by
  induction p with
  | pure a => exact h
  | raise e => exact h
  | atomic u k ih =>
      intro s
      have hs := h s
      cases hu : u s with
      | ok s' =>
          simp only [hu] at hs ⊢
          exact hs.imp (And.imp_right (ih s)) ends_bind
      | error e =>
          simp only [hu] at hs ⊢
          exact hs
  | await q k _ => exact fun a ha ↦ ends_bind (h a ha)

/-- What is shown of every result, is shown of a program that only looks. -/
theorem Prog.Ends.looks {late : Except ε α → Prop} (h : p.Ends answers late) :
    p.Looks answers late late := by
  induction p with
  | pure a => exact h
  | raise e => exact h
  | atomic f k _ =>
      intro s
      have hs := h s
      cases hf : f s with
      | ok s' =>
          simp only [hf] at hs ⊢
          exact .inr hs
      | error e =>
          simp only [hf] at hs ⊢
          exact hs
  | await q k _ => exact h

/-! ## What a refusal leaves behind -/

theorem Prog.Ends.result {late : Except ε α → Prop} {moves : List (σ × σ)} {calls : List Q} {e : ε}
    (h : p.Ends answers late) (ht : p.Turns send answers moves calls (.raise e)) :
    late (.error e) := by
  generalize hlast : Prog.raise e = last at ht
  induction ht with
  | nil =>
      subst hlast
      exact h
  | @access p p' p'' s s' moves calls htick hrest ih =>
      obtain ⟨f, k, rfl, ⟨hf, rfl⟩ | ⟨rfl, e', hf, rfl⟩⟩ := Prog.tick_cases htick
      · have hs := h s
        simp only [hf] at hs
        exact ih hs hlast
      · have hs := h s'
        simp only [hf] at hs
        exact ih hs hlast
  | answer a ha hrest ih => exact ih (h a ha) hlast

/-- **A program that refuses has changed nothing and called nobody**, if it refuses only before
it acts. -/
theorem Prog.Looks.turns {early late : Except ε α → Prop} {moves : List (σ × σ)} {calls : List Q}
    {e : ε} (h : p.Looks answers early late) (hlate : ¬ late (.error e))
    (ht : p.Turns send answers moves calls (.raise e)) :
    calls = [] ∧ ∀ m ∈ moves, m.2 = m.1 := by
  generalize hlast : Prog.raise e = last at ht
  induction ht with
  | nil => exact ⟨rfl, nofun⟩
  | @access p p' p'' s s' moves calls htick hrest ih =>
      obtain ⟨f, k, rfl, ⟨hf, rfl⟩ | ⟨rfl, e', hf, rfl⟩⟩ := Prog.tick_cases htick
      · have hs := h s
        simp only [hf] at hs
        rcases hs with ⟨rfl, hs⟩ | hs
        · obtain ⟨hcalls, hmoves⟩ := ih hs hlast
          exact ⟨hcalls, List.forall_mem_cons.mpr ⟨rfl, hmoves⟩⟩
        · subst hlast
          exact absurd (hs.result hrest) hlate
      · have hs := h s'
        simp only [hf] at hs
        obtain ⟨hcalls, hmoves⟩ := ih hs hlast
        exact ⟨hcalls, List.forall_mem_cons.mpr ⟨rfl, hmoves⟩⟩
  | answer a ha hrest ih =>
      subst hlast
      exact absurd ((h a ha).result hrest) hlate

/-- The turns of a program that runs alone. -/
theorem Prog.exists_turns {answer : (q : Q) → Option (R q)}
    (hanswers : ∀ q a, answer q = some a → answers q a) {s s' : σ} {e : ε}
    (h : p.exec send answer s = (s', some (.error e))) :
    ∃ moves calls, p.Turns send answers moves calls (.raise e) ∧
      ((∀ m ∈ moves, m.2 = m.1) → s' = s) := by
  induction p generalizing s with
  | pure a => cases h
  | raise e' =>
      cases h
      exact ⟨[], [], .nil, fun _ ↦ rfl⟩
  | atomic f k ih =>
      simp only [Prog.exec] at h
      cases hf : f s with
      | ok s₁ =>
          simp only [hf] at h
          obtain ⟨moves, calls, ht, hmoves⟩ := ih s h
          have htick : (Prog.atomic f k).tick s = some (s₁, k s) := by simp only [Prog.tick, hf]
          refine ⟨_, _, .access htick ht, fun hall ↦ ?_⟩
          obtain ⟨hfirst, hrest⟩ := List.forall_mem_cons.mp hall
          exact (hmoves hrest).trans hfirst
      | error e' =>
          simp only [hf] at h
          cases h
          have htick : (Prog.atomic f k).tick s' = some (s', .raise e) := by
            simp only [Prog.tick, hf]
          exact ⟨_, _, .access htick .nil, fun _ ↦ rfl⟩
  | await q k ih =>
      simp only [Prog.exec] at h
      cases ha : answer q with
      | none =>
          simp only [ha] at h
          cases h
      | some a =>
          simp only [ha] at h
          obtain ⟨moves, calls, ht, hmoves⟩ := ih a h
          refine ⟨(s, send q s) :: moves, _, .answer a (hanswers q a ha) ht, fun hall ↦ ?_⟩
          obtain ⟨hfirst, hrest⟩ := List.forall_mem_cons.mp hall
          exact (hmoves hrest).trans hfirst

/-- The same for a program that runs alone: it leaves the state as it is. -/
theorem Prog.Looks.exec {early late : Except ε α → Prop} {answer : (q : Q) → Option (R q)}
    (h : p.Looks answers early late) (hanswers : ∀ q a, answer q = some a → answers q a)
    {s s' : σ} {e : ε} (hlate : ¬ late (.error e))
    (hexec : p.exec send answer s = (s', some (.error e))) : s' = s := by
  obtain ⟨moves, calls, ht, hmoves⟩ := Prog.exists_turns hanswers hexec
  exact hmoves (h.turns hlate ht).2

end Rules

end HightowerPos.Async
