import HightowerPos.Async.Crew

/-!
# Rely and guarantee

`Prog.Relies` is a specification of one thread from the present state on: so long as the others
make moves of `rely` only, each of its moves is one of `P`.  What the thread has read remains
true as far as `rely` keeps it.  In a crew whose threads and whose outside world make no other
moves, every thread meets its specification at every moment (`Crew.Reliant.step`), and what `P`
keeps holds throughout (`Crew.Reliant.invariant`).
-/

namespace HightowerPos.Async

variable {σ Q I ε α β : Type} {R : Q → Type}

/-- From the state `s` on, while the others make moves of `rely`, every move is one of `P`. -/
def Prog.Relies (send : Q → σ → σ) (rely P : σ → σ → Prop) (post : Except ε α → σ → Prop) :
    Prog σ Q R ε α → σ → Prop
  | .pure a, s => ∀ s₁, rely s s₁ → post (.ok a) s₁
  | .raise e, s => ∀ s₁, rely s s₁ → post (.error e) s₁
  | .atomic f k, s => ∀ s₁, rely s s₁ → match f s₁ with
      | .ok s' => P s₁ s' ∧ (k s₁).Relies send rely P post s'
      | .error e => ∀ s₂, rely s₁ s₂ → post (.error e) s₂
  | .await q k, s => ∀ s₁, rely s s₁ → P s₁ (send q s₁) ∧
      ∀ a, (k a).Relies send rely P post (send q s₁)

section Rules

variable {send : Q → σ → σ} {rely P : σ → σ → Prop} {s s' : σ}

/-- What the others do meanwhile is relied on. -/
theorem Prog.Relies.stable {p : Prog σ Q R ε α} {post : Except ε α → σ → Prop}
    (htrans : ∀ s s' s'', rely s s' → rely s' s'' → rely s s'')
    (h : p.Relies send rely P post s) (hs : rely s s') : p.Relies send rely P post s' := by
  cases p with
  | pure a => exact fun s₁ h₁ ↦ h s₁ (htrans _ _ _ hs h₁)
  | raise e => exact fun s₁ h₁ ↦ h s₁ (htrans _ _ _ hs h₁)
  | atomic f k => exact fun s₁ h₁ ↦ h s₁ (htrans _ _ _ hs h₁)
  | await q k => exact fun s₁ h₁ ↦ h s₁ (htrans _ _ _ hs h₁)

/-- A sequence: the second part goes on from wherever the first one returns. -/
theorem relies_bind {p : Prog σ Q R ε α} {f : α → Prog σ Q R ε β}
    {post : Except ε β → σ → Prop} (hrefl : ∀ s, rely s s)
    (h : p.Relies send rely P (fun r s ↦ match r with
      | .ok a => (f a).Relies send rely P post s
      | .error e => post (.error e) s) s) : (p >>= f).Relies send rely P post s := by
  induction p generalizing s with
  | pure a => exact h s (hrefl s)
  | raise e => exact h
  | atomic u k ih =>
      intro s₁ h₁
      have hu := h s₁ h₁
      cases hus : u s₁ with
      | ok s' =>
          simp only [hus] at hu ⊢
          exact ⟨hu.1, ih s₁ hu.2⟩
      | error e =>
          simp only [hus] at hu ⊢
          exact hu
  | await q k ih =>
      intro s₁ h₁
      obtain ⟨hsend, hk⟩ := h s₁ h₁
      exact ⟨hsend, fun a ↦ ih a (hk a)⟩

/-- A weaker postcondition. -/
theorem Prog.Relies.mono {p : Prog σ Q R ε α} {post post' : Except ε α → σ → Prop}
    (h : p.Relies send rely P post s) (hpost : ∀ r s, post r s → post' r s) :
    p.Relies send rely P post' s := by
  induction p generalizing s with
  | pure a => exact fun s₁ h₁ ↦ hpost _ _ (h s₁ h₁)
  | raise e => exact fun s₁ h₁ ↦ hpost _ _ (h s₁ h₁)
  | atomic u k ih =>
      intro s₁ h₁
      have hu := h s₁ h₁
      cases hus : u s₁ with
      | ok s' =>
          simp only [hus] at hu ⊢
          exact ⟨hu.1, ih s₁ hu.2⟩
      | error e =>
          simp only [hus] at hu ⊢
          exact fun s₂ h₂ ↦ hpost _ _ (hu s₂ h₂)
  | await q k ih =>
      intro s₁ h₁
      obtain ⟨hsend, hk⟩ := h s₁ h₁
      exact ⟨hsend, fun a ↦ ih a (hk a)⟩

/-- What is guaranteed at all states relies on nothing. -/
theorem Prog.Guarantees.relies {p : Prog σ Q R ε α} {post : Except ε α → Prop}
    (h : p.Guarantees send (fun _ ↦ True) P post) (s : σ) :
    p.Relies send rely P (fun r _ ↦ post r) s := by
  induction p generalizing s with
  | pure a => exact fun _ _ ↦ h
  | raise e => exact fun _ _ ↦ h
  | atomic u k ih =>
      intro s₁ _
      have hu := h s₁ trivial
      cases hus : u s₁ with
      | ok s' =>
          simp only [hus] at hu ⊢
          exact ⟨hu.1, ih s₁ hu.2 s'⟩
      | error e =>
          simp only [hus] at hu ⊢
          exact fun _ _ ↦ hu
  | await q k ih =>
      intro s₁ _
      obtain ⟨hsend, hk⟩ := h s₁ trivial
      exact ⟨hsend, fun a ↦ ih a (hk a) _⟩

/-- A turn of a thread is a move that it guarantees, and the rest of the thread relies on no
more. -/
theorem Prog.Relies.turn {p p' : Prog σ Q R ε α} {post : Except ε α → σ → Prop}
    (hrefl : ∀ s, rely s s) (h : p.Relies send rely P post s) (ht : p.Turn send s s' p') :
    (s' = s ∨ P s s') ∧ p'.Relies send rely P post s' := by
  cases ht with
  | answer a =>
      obtain ⟨hsend, hk⟩ := h s (hrefl s)
      exact ⟨.inr hsend, hk a⟩
  | access ht =>
      obtain ⟨u, k, rfl, ⟨hus, rfl⟩ | ⟨rfl, e, hus, rfl⟩⟩ := Prog.tick_cases ht
      · have hu := h s (hrefl s)
        simp only [hus] at hu
        exact ⟨.inr hu.1, hu.2⟩
      · have hu := h s' (hrefl s')
        simp only [hus] at hu
        exact ⟨.inl rfl, hu⟩

end Rules

/-! ## Crews -/

section Crews

variable {S : System σ Q R ε I} {G : Crew.Terms σ Q R ε I} {rely P : σ → σ → Prop}

/-- Every thread meets its specification from the present state on. -/
def Crew.Reliant (S : System σ Q R ε I) (rely P : σ → σ → Prop) (c : Crew σ Q R ε I) : Prop :=
  ∀ t ∈ c.threads, t.2.Relies S.send rely P (fun _ _ ↦ True) c.state

/-- What is asked of the moves: that threads may rely on those of the others. -/
structure Crew.Rules (S : System σ Q R ε I) (rely P : σ → σ → Prop) : Prop where
  refl : ∀ s, rely s s
  trans : ∀ s s' s'', rely s s' → rely s' s'' → rely s s''
  move : ∀ s s', P s s' → rely s s'
  drift : ∀ s s', S.drift s s' → rely s s'
  start : ∀ i s, (S.handle i).Relies S.send rely P (fun _ _ ↦ True) s

namespace Crew.Reliant

variable {c c' : Crew σ Q R ε I}

/-- **A step of a crew is a move of a thread**, or one of the outside world. -/
theorem step (hrules : Crew.Rules S rely P) (h : c.Reliant S rely P) (hs : Crew.Step S G c c') :
    c'.Reliant S rely P ∧
      (c'.state = c.state ∨ P c.state c'.state ∨ S.drift c.state c'.state) := by
  have hstable {l : List (Thread σ Q R ε I)} {s s' : σ} (hmove : rely s s')
      (h : Crew.Reliant S rely P ⟨s, l⟩) : Crew.Reliant S rely P ⟨s', l⟩ :=
    fun t ht ↦ (h t ht).stable hrules.trans hmove
  have hturn {s s' : σ} {l r : List (Thread σ Q R ε I)} {i : I} {p p' : Prog σ Q R ε Unit}
      (h : Crew.Reliant S rely P ⟨s, l ++ (i, p) :: r⟩) (ht : p.Turn S.send s s' p') :
      Crew.Reliant S rely P ⟨s', l ++ (i, p') :: r⟩ ∧ (s' = s ∨ P s s') := by
    obtain ⟨hmove, hp'⟩ := (h (i, p) (by simp)).turn hrules.refl ht
    have hrely : rely s s' := by
      rcases hmove with rfl | hmove
      · exact hrules.refl s'
      · exact hrules.move _ _ hmove
    refine ⟨fun t hmem ↦ ?_, hmove⟩
    rcases List.mem_append.mp hmem with hmem | hmem
    · exact hstable hrely h t (List.mem_append_left _ hmem)
    · rcases List.mem_cons.mp hmem with rfl | hmem
      · exact hp'
      · exact hstable hrely h t (List.mem_append_right _ (List.mem_cons_of_mem _ hmem))
  cases hs with
  | start i =>
      refine ⟨fun t hmem ↦ ?_, .inl rfl⟩
      rcases List.mem_append.mp hmem with hmem | hmem
      · exact h t hmem
      · obtain rfl := List.mem_singleton.mp hmem
        exact hrules.start i _
  | access ht =>
      obtain ⟨hreliant, hmove⟩ := hturn h (.access ht)
      exact ⟨hreliant, hmove.imp_right .inl⟩
  | answer a ha hg =>
      obtain ⟨hreliant, hmove⟩ := hturn h (.answer a)
      exact ⟨hreliant, hmove.imp_right .inl⟩
  | @drop s l r t hg =>
      refine ⟨fun t' hmem ↦ h t' ?_, .inl rfl⟩
      rcases List.mem_append.mp hmem with hmem | hmem
      · exact List.mem_append_left _ hmem
      · exact List.mem_append_right _ (List.mem_cons_of_mem _ hmem)
  | restart => exact ⟨nofun, .inl rfl⟩
  | drift hd => exact ⟨hstable (hrules.drift _ _ hd) h, .inr (.inr hd)⟩

/-- **What the moves keep holds throughout a run.** -/
theorem invariant {K : σ → Prop} (hrules : Crew.Rules S rely P)
    (hmove : ∀ s s', P s s' → K s → K s') (hdrift : ∀ s s', S.drift s s' → K s → K s') {s : σ}
    (hK : K s) (hrun : Crew.Run S G ⟨s, []⟩ c) : K c.state := by
  have hall : c.Reliant S rely P ∧ K c.state := by
    induction hrun with
    | refl => exact ⟨nofun, hK⟩
    | tail _ hs ih =>
        obtain ⟨hreliant, hsame | hm | hd⟩ := ih.1.step hrules hs
        · exact ⟨hreliant, hsame ▸ ih.2⟩
        · exact ⟨hreliant, hmove _ _ hm ih.2⟩
        · exact ⟨hreliant, hdrift _ _ hd ih.2⟩
  exact hall.2

end Crew.Reliant

end Crews

end HightowerPos.Async
