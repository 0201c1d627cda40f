import HightowerPos.Async.Crew

/-!
# Threads whose transactions do not overlap

A turn of a thread is one transaction: it reads, and a write ends it (`Prog.Transacts`).
Between two turns, and while a call is awaited, any other thread of the crew may have its
turn.

What a run has done is the list of its `Event`s: of each turn the state in which it started,
what set it going, and the call that it issued.  A statement about what happens between two
moments of a run is one about a part of that list.
-/

namespace HightowerPos.Async

variable {σ Q I ε α : Type} {R : Q → Type}

/-! ## One transaction -/

/-- Where a turn ends: the program is over, or it has more to do, or it issues the call that it
comes to. -/
def Prog.settle (send : Q → σ → σ) : Prog σ Q R ε α → σ → σ × Option (Prog σ Q R ε α)
  | .pure _, s => (s, none)
  | .raise _, s => (s, none)
  | .atomic f k, s => (s, some (.atomic f k))
  | .await q k, s => (send q s, some (.await q k))

/-- The call that the program waits for. -/
def Prog.awaited : Prog σ Q R ε α → Option Q
  | .await q _ => some q
  | _ => none

/-- Reads, and the write after them. -/
inductive Prog.Transacts (send : Q → σ → σ) :
    Prog σ Q R ε α → σ → σ × Option (Prog σ Q R ε α) → Prop
  | stop {p : Prog σ Q R ε α} {s : σ} (hp : p.tick s = none) :
      Transacts send p s (p.settle send s)
  | read {f : σ → Except ε σ} {k : σ → Prog σ Q R ε α} {s : σ}
      {r : σ × Option (Prog σ Q R ε α)} (h : f s = .ok s) (hk : Transacts send (k s) s r) :
      Transacts send (.atomic f k) s r
  | write {f : σ → Except ε σ} {k : σ → Prog σ Q R ε α} {s s' : σ} (h : f s = .ok s')
      (hne : s' ≠ s) : Transacts send (.atomic f k) s ((k s).settle send s')
  | refused {f : σ → Except ε σ} {k : σ → Prog σ Q R ε α} {s : σ} {e : ε}
      (h : f s = .error e) : Transacts send (.atomic f k) s (s, none)

namespace Prog.Transacts

variable {send : Q → σ → σ} {s : σ} {r : σ × Option (Prog σ Q R ε α)}

/-- A read does not end a turn. -/
theorem of_read {k : σ → Prog σ Q R ε α} (h : (Prog.atomic .ok k).Transacts send s r) :
    (k s).Transacts send s r := by
  cases h with
  | stop hp => cases hp
  | read _ hk => exact hk
  | write hs hne => exact absurd (Except.ok.inj hs).symm hne
  | refused he => cases he

/-- A commit ends a turn, unless it changes nothing. -/
theorem of_commit {g : σ → σ} {k : σ → Prog σ Q R ε α}
    (h : (Prog.atomic (fun s ↦ .ok (g s)) k).Transacts send s r) :
    r = (k s).settle send (g s) ∨ (k s).Transacts send (g s) r := by
  cases h with
  | stop hp => cases hp
  | read hs hk =>
      rw [Except.ok.inj hs]
      exact .inr hk
  | write hs hne =>
      rw [Except.ok.inj hs]
      exact .inl rfl
  | refused he => cases he

/-- A commit at the end of a program. -/
theorem of_last {g : σ → σ} {r : σ × Option (Prog σ Q R ε Unit)}
    (h : (Prog.commit fun s ↦ .ok (g s)).Transacts send s r) : r = (g s, none) := by
  rcases h.of_commit with rfl | h
  · rfl
  · cases h
    rfl

theorem of_pure {a : α} (h : (Prog.pure a : Prog σ Q R ε α).Transacts send s r) :
    r = (s, none) := by
  cases h
  rfl

theorem of_raise {e : ε} (h : (Prog.raise e : Prog σ Q R ε α).Transacts send s r) :
    r = (s, none) := by
  cases h
  rfl

theorem of_await {q : Q} {k : R q → Prog σ Q R ε α}
    (h : (Prog.await q k).Transacts send s r) : r = (send q s, some (.await q k)) := by
  cases h
  rfl

end Prog.Transacts

section Guaranteed

variable {send : Q → σ → σ} {P : σ → σ → Prop} {s : σ} {p : Prog σ Q R ε α}
  {post : Except ε α → Prop}

/-- What is left of a program guarantees as much. -/
theorem guaranteed_settle (hrefl : ∀ s, P s s)
    (hp : p.Guarantees send (fun _ ↦ True) P post) :
    P s (p.settle send s).1 ∧
      ∀ p' ∈ (p.settle send s).2, p'.Guarantees send (fun _ ↦ True) P post := by
  cases p with
  | pure a => exact ⟨hrefl s, fun p' hp' ↦ nomatch hp'⟩
  | raise e => exact ⟨hrefl s, fun p' hp' ↦ nomatch hp'⟩
  | atomic f k =>
      refine ⟨hrefl s, fun p' hp' ↦ ?_⟩
      cases hp'
      exact hp
  | await q k =>
      refine ⟨(hp s trivial).1, fun p' hp' ↦ ?_⟩
      cases hp'
      exact hp

/-- A turn of a program that guarantees a reflexive and transitive relation. -/
theorem Prog.Transacts.guaranteed (hrefl : ∀ s, P s s)
    (htrans : ∀ s s' s'', P s s' → P s' s'' → P s s'')
    (hp : p.Guarantees send (fun _ ↦ True) P post) {r : σ × Option (Prog σ Q R ε α)}
    (h : p.Transacts send s r) :
    P s r.1 ∧ ∀ p' ∈ r.2, p'.Guarantees send (fun _ ↦ True) P post := by
  induction h with
  | stop => exact guaranteed_settle hrefl hp
  | @read f k s r hs _ ih =>
      have hf := hp s trivial
      simp only [hs] at hf
      exact ih hf.2
  | @write f k s s' hs =>
      have hf := hp s trivial
      simp only [hs] at hf
      obtain ⟨hmove, hleft⟩ := guaranteed_settle (s := s') hrefl hf.2
      exact ⟨htrans _ _ _ hf.1 hmove, hleft⟩
  | @refused f k s => exact ⟨hrefl s, fun p' hp' ↦ nomatch hp'⟩

end Guaranteed

/-! ## Runs of a crew -/

/-- What sets a turn going. -/
inductive Cause (Q : Type) (R : Q → Type) (I : Type) : Type
  | start (i : I)
  | further
  | answer (q : Q) (a : R q)

/-- A turn: the state in which it starts, and the call that it issues at its end, if it comes
to one. -/
structure Event (σ Q : Type) (R : Q → Type) (I : Type) where
  state : σ
  cause : Cause Q R I
  issued : Option Q

namespace Crew

/-- A turn of a crew, or a move of the outside world.  A thread that is over leaves the crew;
`admits` says when a request may be served. -/
inductive Fires (S : System σ Q R ε I) (admits : Crew σ Q R ε I → I → Prop) :
    Crew σ Q R ε I → Option (Event σ Q R I) → Crew σ Q R ε I → Prop
  | start {s : σ} {l : List (Thread σ Q R ε I)} {o : σ × Option (Prog σ Q R ε Unit)} (i : I)
      (hg : admits ⟨s, l⟩ i) (h : (S.handle i).Transacts S.send s o) :
      Fires S admits ⟨s, l⟩ (some ⟨s, .start i, o.2.bind Prog.awaited⟩)
        ⟨o.1, l ++ (o.2.map fun p ↦ (i, p)).toList⟩
  | further {s : σ} {l r : List (Thread σ Q R ε I)} {i : I} {f : σ → Except ε σ}
      {k : σ → Prog σ Q R ε Unit} {o : σ × Option (Prog σ Q R ε Unit)}
      (h : (Prog.atomic f k).Transacts S.send s o) :
      Fires S admits ⟨s, l ++ (i, .atomic f k) :: r⟩ (some ⟨s, .further, o.2.bind Prog.awaited⟩)
        ⟨o.1, l ++ (o.2.map fun p ↦ (i, p)).toList ++ r⟩
  | answer {s : σ} {l r : List (Thread σ Q R ε I)} {i : I} {q : Q} {k : R q → Prog σ Q R ε Unit}
      {o : σ × Option (Prog σ Q R ε Unit)} (a : R q) (ha : S.reply s q a)
      (h : (k a).Transacts S.send s o) :
      Fires S admits ⟨s, l ++ (i, .await q k) :: r⟩
        (some ⟨s, .answer q a, o.2.bind Prog.awaited⟩)
        ⟨o.1, l ++ (o.2.map fun p ↦ (i, p)).toList ++ r⟩
  | drift {s s' : σ} {l : List (Thread σ Q R ε I)} (h : S.drift s s') :
      Fires S admits ⟨s, l⟩ none ⟨s', l⟩

/-- A run, with its events in their order. -/
inductive Traced (S : System σ Q R ε I) (admits : Crew σ Q R ε I → I → Prop)
    (c : Crew σ Q R ε I) : List (Event σ Q R I) → Crew σ Q R ε I → Prop
  | nil : Traced S admits c [] c
  | snoc {es : List (Event σ Q R I)} {o : Option (Event σ Q R I)} {c' c'' : Crew σ Q R ε I}
      (h : Traced S admits c es c') (hs : Fires S admits c' o c'') :
      Traced S admits c (es ++ o.toList) c''

variable {S : System σ Q R ε I} {admits : Crew σ Q R ε I → I → Prop} {c c' c'' : Crew σ Q R ε I}
  {es es' : List (Event σ Q R I)}

/-- One run after another. -/
theorem Traced.append (h : Traced S admits c es c') (h' : Traced S admits c' es' c'') :
    Traced S admits c (es ++ es') c'' := by
  induction h' with
  | nil => rwa [List.append_nil]
  | snoc _ hs ih =>
      rw [← List.append_assoc]
      exact ih.snoc hs

/-- What every turn keeps of the events so far and of the crew, a run keeps. -/
theorem Traced.invariant {Inv : List (Event σ Q R I) → Crew σ Q R ε I → Prop}
    (hstep : ∀ es c o c', Inv es c → Fires S admits c o c' → Inv (es ++ o.toList) c')
    (hc : Inv es c) (h : Traced S admits c es' c') : Inv (es ++ es') c' := by
  induction h with
  | nil => rwa [List.append_nil]
  | snoc _ hs ih =>
      rw [← List.append_assoc]
      exact hstep _ _ _ _ ih hs

section Keeps

variable {P : σ → σ → Prop}

/-- **A turn is a move that its thread guarantees.** -/
theorem Keeps.fires (hrefl : ∀ s, P s s) (htrans : ∀ s s' s'', P s s' → P s' s'' → P s s'')
    (hdrift : ∀ s s', S.drift s s' → P s s')
    (hstart : ∀ i, (S.handle i).Guarantees S.send (fun _ ↦ True) P fun _ ↦ True)
    (h : c.Keeps S P) {o : Option (Event σ Q R I)} (hs : Fires S admits c o c') :
    c'.Keeps S P ∧ P c.state c'.state := by
  have hturn {s : σ} {l l' : List (Thread σ Q R ε I)} {i : I} {p : Prog σ Q R ε Unit}
      {r : σ × Option (Prog σ Q R ε Unit)}
      (hothers : ∀ t ∈ l ++ l', t.2.Guarantees S.send (fun _ ↦ True) P fun _ ↦ True)
      (hp : p.Guarantees S.send (fun _ ↦ True) P fun _ ↦ True) (ht : p.Transacts S.send s r) :
      Crew.Keeps S P ⟨r.1, l ++ (r.2.map fun p ↦ (i, p)).toList ++ l'⟩ ∧ P s r.1 := by
    obtain ⟨hmove, hleft⟩ := ht.guaranteed hrefl htrans hp
    refine ⟨fun t hmem ↦ ?_, hmove⟩
    rcases List.mem_append.mp hmem with hmem | hmem
    · rcases List.mem_append.mp hmem with hmem | hmem
      · exact hothers t (List.mem_append_left _ hmem)
      · obtain ⟨p', hp', rfl⟩ := Option.map_eq_some_iff.mp (Option.mem_toList.mp hmem)
        exact hleft p' hp'
    · exact hothers t (List.mem_append_right _ hmem)
  have hsplit {s : σ} {l l' : List (Thread σ Q R ε I)} {t : Thread σ Q R ε I}
      (h : Crew.Keeps S P ⟨s, l ++ t :: l'⟩) :
      (∀ t ∈ l ++ l', t.2.Guarantees S.send (fun _ ↦ True) P fun _ ↦ True) ∧
        t.2.Guarantees S.send (fun _ ↦ True) P fun _ ↦ True :=
    ⟨fun t ht ↦ h t (by grind), h t (by simp)⟩
  cases hs with
  | @start s l r i hg ht =>
      rw [← List.append_nil (l ++ _)]
      exact hturn (fun t hmem ↦ h t (by simpa using hmem)) (hstart i) ht
  | further ht => exact hturn (hsplit h).1 (hsplit h).2 ht
  | @answer s _ _ i q k r a ha ht =>
      exact hturn (hsplit h).1 (((hsplit h).2 s trivial).2 a) ht
  | drift hd => exact ⟨h, hdrift _ _ hd⟩

/-- What the threads guarantee is kept by a run. -/
theorem Traced.keeps (hrefl : ∀ s, P s s) (htrans : ∀ s s' s'', P s s' → P s' s'' → P s s'')
    (hdrift : ∀ s s', S.drift s s' → P s s')
    (hstart : ∀ i, (S.handle i).Guarantees S.send (fun _ ↦ True) P fun _ ↦ True)
    (hc : c.Keeps S P) (h : Traced S admits c es c') : c'.Keeps S P ∧ P c.state c'.state := by
  induction h with
  | nil => exact ⟨hc, hrefl _⟩
  | snoc _ hs ih =>
      obtain ⟨hkeeps, hmove⟩ := ih.1.fires hrefl htrans hdrift hstart hs
      exact ⟨hkeeps, htrans _ _ _ ih.2 hmove⟩

end Keeps

end Crew

end HightowerPos.Async
