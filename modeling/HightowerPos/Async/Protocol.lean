import HightowerPos.Async.Pool
import HightowerPos.Async.Wp

/-!
# Protocols: what a segment can do, said once

A *protocol* describes handlers from outside.  A waiting handler is in a phase
`φ : Φ`, which names the call it waits for; a relation says what one segment can
do to the shared state and in which phase it ends.  A program *follows* a protocol
when each of its segments is one the protocol allows (`Prog.Follows`).

When every handler of a system follows a protocol, every run of the system is a run
of the protocol (`Run.simulate`).  The protocol's configurations carry phases in
place of continuations, so that invariants over any interleaving become case
analyses on one inductive relation.
-/

namespace HightowerPos.Async

/-- What set a segment going: a request, or the answer to the call of a phase. -/
inductive Trigger (Q : Type) (R : Q → Type) (I Φ : Type) : Type
  | start (i : I)
  | reply (φ : Φ) (q : Q) (a : R q)

/-- A protocol: the call of each phase, and the segments. -/
structure Protocol (σ Q : Type) (R : Q → Type) (I Φ : Type) where
  /-- The call awaited in a phase. -/
  call : Φ → Q
  /-- What set the segment going, the states before and after it, and the phase it
  ends in, `none` when the handler is over. -/
  seg : Trigger Q R I Φ → σ → σ → Option Φ → Prop

variable {σ Q I Φ ε α β : Type} {R : Q → Type}

/-- What a protocol asks of a program: an await ends a segment that the protocol has
to allow, and opens the next one.  The ghost is the trigger and the first state of the
segment under way. -/
def Protocol.calculus (S : System σ Q R ε I) (P : Protocol σ Q R I Φ) :
    Calculus σ Q R (Trigger Q R I Φ × σ) where
  write _ _ := True
  await g s q k := ∃ φ, P.call φ = q ∧ P.seg g.1 g.2 (S.send q s) (some φ) ∧
    ∀ s' a, S.reply s' q a → k a (.reply φ q a, s') s'
  read _ := trivial
  mono := fun h ⟨φ, hφ, hseg, hk⟩ ↦ ⟨φ, hφ, hseg, fun s' a ha ↦ h _ _ _ (hk s' a ha)⟩

/-- Where a handler ends, its last segment has to be allowed. -/
def Protocol.done (P : Protocol σ Q R I Φ) :
    Trigger Q R I Φ × σ → Except ε Unit → σ → Prop :=
  fun g _ s ↦ P.seg g.1 g.2 s none

/-- Each segment of `p` is allowed by the protocol, whatever happens during the awaits;
`t` and `s₀` are the trigger and the first state of the segment under way, `s` is the
present state. -/
def Prog.Follows (S : System σ Q R ε I) (P : Protocol σ Q R I Φ) (p : Prog σ Q R ε Unit)
    (t : Trigger Q R I Φ) (s₀ s : σ) : Prop :=
  p.wp (P.calculus S) P.done (t, s₀) s

/-- The handler of a request follows the protocol from its first segment on. -/
def System.Follows (S : System σ Q R ε I) (P : Protocol σ Q R I Φ) (i : I) : Prop :=
  ∀ s, (S.handle i).Follows S P (.start i) s s

/-! ## Runs of a protocol -/

/-- A shared state with the phases of the handlers that wait. -/
structure Phased (σ Φ : Type) where
  state : σ
  phases : List Φ

/-- One step of a protocol, under the outside world of a system and a guard. -/
inductive Protocol.Step (P : Protocol σ Q R I Φ) (S : System σ Q R ε I) (G : Guard σ Q R I) :
    Phased σ Φ → Phased σ Φ → Prop
  | start {s s' : σ} {l : List Φ} {o : Option Φ} (i : I) (hg : G.start s (l.map P.call) i)
      (h : P.seg (.start i) s s' o) : Step P S G ⟨s, l⟩ ⟨s', l ++ o.toList⟩
  | resume {s s' : σ} {l r : List Φ} {o : Option Φ} (φ : Φ) (a : R (P.call φ))
      (ha : S.reply s (P.call φ) a) (hg : G.resume s ((l ++ r).map P.call) (P.call φ) a)
      (h : P.seg (.reply φ (P.call φ) a) s s' o) :
      Step P S G ⟨s, l ++ φ :: r⟩ ⟨s', l ++ o.toList ++ r⟩
  | kill {s : σ} {l r : List Φ} (φ : Φ) (hg : G.kill s ((l ++ r).map P.call) (P.call φ)) :
      Step P S G ⟨s, l ++ φ :: r⟩ ⟨s, l ++ r⟩
  | resend {s : σ} {l r : List Φ} (φ : Φ) (hq : S.resends (P.call φ))
      (hg : G.resend s ((l ++ r).map P.call) (P.call φ)) :
      Step P S G ⟨s, l ++ φ :: r⟩ ⟨S.send (P.call φ) s, l ++ φ :: r⟩
  | drift {s s' : σ} {l : List Φ} (h : S.drift s s') : Step P S G ⟨s, l⟩ ⟨s', l⟩

/-- Any number of steps of a protocol. -/
abbrev Protocol.Run (P : Protocol σ Q R I Φ) (S : System σ Q R ε I) (G : Guard σ Q R I) :
    Phased σ Φ → Phased σ Φ → Prop := Relation.ReflTransGen (P.Step S G)

/-- A suspended program is in phase `φ`: it awaits the call of `φ`, and goes on as
the protocol allows from `φ`. -/
def Suspended.In (S : System σ Q R ε I) (P : Protocol σ Q R I Φ) (p : Suspended σ Q R ε)
    (φ : Φ) : Prop :=
  P.call φ = p.call ∧
    ∀ s a, S.reply s p.call a → (p.resume a).Follows S P (.reply φ p.call a) s s

/-- A configuration of programs and one of phases describe the same situation. -/
structure Simulates (S : System σ Q R ε I) (P : Protocol σ Q R I Φ) (c : Config σ Q R ε)
    (d : Phased σ Φ) : Prop where
  state : c.state = d.state
  pool : List.Forall₂ (Suspended.In S P) c.pool d.phases

namespace Simulates

variable {S : System σ Q R ε I} {P : Protocol σ Q R I Φ}

/-- Related configurations await the same calls. -/
theorem calls_eq {l : List (Suspended σ Q R ε)} {φs : List Φ}
    (h : List.Forall₂ (Suspended.In S P) l φs) : l.map Suspended.call = φs.map P.call := by
  induction h with
  | nil => rfl
  | cons hp _ ih => simp only [List.map_cons, ih, hp.1]

/-- The segment that a following program runs next is one of the protocol. -/
theorem advance {p : Prog σ Q R ε Unit} {t : Trigger Q R I Φ} {s₀ s : σ}
    (h : p.Follows S P t s₀ s) :
    ∃ o, P.seg t s₀ (p.advance S.send s).1 o ∧
      List.Forall₂ (Suspended.In S P) (p.advance S.send s).2.toList o.toList := by
  unfold Prog.Follows at h
  induction p generalizing s with
  | pure a => exact ⟨none, h, .nil⟩
  | raise e => exact ⟨none, h, .nil⟩
  | atomic u k ih =>
      simp only [Prog.wp] at h
      simp only [Prog.advance]
      cases hu : u s with
      | ok s' => simp only [hu] at h; exact ih s h.2
      | error e => simp only [hu] at h; exact ⟨none, h, .nil⟩
  | await q k ih =>
      obtain ⟨φ, hφ, hseg, hk⟩ := h
      exact ⟨some φ, hseg, .cons ⟨hφ, hk⟩ .nil⟩

/-- A step of the programs is a step of the protocol. -/
theorem step {G : Guard σ Q R I} (hall : ∀ i s l, G.start s l i → S.Follows P i)
    {c c' : Config σ Q R ε} {d : Phased σ Φ} (h : Simulates S P c d) (hs : Step S G c c') :
    ∃ d', P.Step S G d d' ∧ Simulates S P c' d' := by
  obtain ⟨t, φs⟩ := d
  cases hs with
  | @start s l i hg =>
      obtain ⟨rfl, hpool⟩ := h
      obtain ⟨o, hseg, ho⟩ := advance (hall i s _ hg s)
      rw [calls_eq hpool] at hg
      exact ⟨_, .start i hg hseg, rfl, List.rel_append hpool ho⟩
  | @resume s l r p a ha hg =>
      obtain ⟨rfl, hpool⟩ := h
      obtain ⟨l', φ, r', rfl, hl, hp, hr⟩ := forall₂_split hpool
      obtain ⟨pcall, presume⟩ := p
      obtain ⟨rfl, hk⟩ := hp
      obtain ⟨o, hseg, ho⟩ := advance (hk s a ha)
      rw [calls_eq (List.rel_append hl hr)] at hg
      exact ⟨_, .resume φ a ha hg hseg, rfl, List.rel_append (List.rel_append hl ho) hr⟩
  | @kill s l r p hg =>
      obtain ⟨rfl, hpool⟩ := h
      obtain ⟨l', φ, r', rfl, hl, hp, hr⟩ := forall₂_split hpool
      rw [calls_eq (List.rel_append hl hr), ← hp.1] at hg
      exact ⟨_, .kill φ hg, rfl, List.rel_append hl hr⟩
  | @resend s l r p hq hg =>
      obtain ⟨rfl, hpool⟩ := h
      obtain ⟨l', φ, r', rfl, hl, hp, hr⟩ := forall₂_split hpool
      rw [calls_eq (List.rel_append hl hr), ← hp.1] at hg
      rw [← hp.1] at hq ⊢
      exact ⟨_, .resend φ hq hg, rfl, hpool⟩
  | drift hd =>
      obtain ⟨rfl, hpool⟩ := h
      exact ⟨_, .drift hd, rfl, hpool⟩

end Simulates

/-- **Simulation.**  When the handlers that a guard lets start follow a protocol,
every run of the system is matched by a run of the protocol. -/
theorem Run.simulate {S : System σ Q R ε I} {P : Protocol σ Q R I Φ} {G : Guard σ Q R I}
    (hall : ∀ i s l, G.start s l i → S.Follows P i) {c c' : Config σ Q R ε} {d : Phased σ Φ}
    (h : Run S G c c') (hc : Simulates S P c d) :
    ∃ d', P.Run S G d d' ∧ Simulates S P c' d' := by
  induction h with
  | refl => exact ⟨d, .refl, hc⟩
  | tail _ hs ih =>
      obtain ⟨d', hrun, hsim⟩ := ih
      obtain ⟨d'', hstep, hsim'⟩ := hsim.step hall hs
      exact ⟨d'', hrun.tail hstep, hsim'⟩

/-- An idle configuration is simulated by one without phases. -/
theorem Simulates.idle (S : System σ Q R ε I) (P : Protocol σ Q R I Φ) (s : σ) :
    Simulates S P (.idle s) ⟨s, []⟩ := ⟨rfl, .nil⟩

end HightowerPos.Async
