import HightowerPos.Async.Prog
import Mathlib.Data.List.Forall2

/-!
# Pools of suspended handlers

A cooperative scheduler keeps a pool of suspended programs over one shared state.
A step starts a request (and runs its first segment), hands an answer to a
suspended program (and runs its next segment), sends the call of a suspended program
once more, drops a suspended program, or lets the outside world move by itself.

Runs are taken under a `Guard`: a condition on the state before each step, on the
calls then pending and on the answer handed over.  `Guard.serial` in
`HightowerPos.Async.Serial` keeps handlers from overlapping.

A list of `Move`s is the executable side: `Config.play` plays one, and a script of
allowed moves is a run (`Script.run`).
-/

namespace HightowerPos.Async

/-- A list that is related to one split around an element is split around its partner. -/
theorem forall₂_split {A D : Type} {P : A → D → Prop} {l r : List A} {a : A} {ds : List D}
    (h : List.Forall₂ P (l ++ a :: r) ds) :
    ∃ l' d r', ds = l' ++ d :: r' ∧ List.Forall₂ P l l' ∧ P a d ∧ List.Forall₂ P r r' := by
  induction l generalizing ds with
  | nil =>
      obtain ⟨d, r', ha, hr, rfl⟩ := List.forall₂_cons_left_iff.mp h
      exact ⟨[], d, r', rfl, .nil, ha, hr⟩
  | cons b l ih =>
      obtain ⟨e, m, hb, hm, rfl⟩ := List.forall₂_cons_left_iff.mp h
      obtain ⟨l', d, r', rfl, hl, ha, hr⟩ := ih hm
      exact ⟨e :: l', d, r', rfl, .cons hb hl, ha, hr⟩

/-- Requests `I` served by programs over `σ`, with the outside world they talk to. -/
structure System (σ Q : Type) (R : Q → Type) (ε I : Type) where
  /-- The program that serves a request. -/
  handle : I → Prog σ Q R ε Unit
  /-- What issuing a call does to the shared state. -/
  send : Q → σ → σ
  /-- The answers a call may get. -/
  reply : σ → (q : Q) → R q → Prop
  /-- Moves of the outside world that no program makes. -/
  drift : σ → σ → Prop
  /-- The calls that may be issued again while their answer is awaited. -/
  resends : Q → Prop := fun _ ↦ False

/-- A shared state with the programs that wait. -/
structure Config (σ Q : Type) (R : Q → Type) (ε : Type) where
  state : σ
  pool : List (Suspended σ Q R ε)

/-- A condition on each step: on the state before it, on the calls that *other*
programs then wait for, and on the request or the answer. -/
structure Guard (σ Q : Type) (R : Q → Type) (I : Type) where
  start : σ → List Q → I → Prop
  resume : σ → List Q → (q : Q) → R q → Prop
  kill : σ → List Q → Q → Prop
  resend : σ → List Q → Q → Prop := fun _ _ _ ↦ True

variable {σ Q I ε : Type} {R : Q → Type}

namespace Config

/-- A state in which nothing waits. -/
def idle (s : σ) : Config σ Q R ε := ⟨s, []⟩

/-- The calls awaited by a pool. -/
def calls (c : Config σ Q R ε) : List Q := c.pool.map Suspended.call

@[simp] theorem calls_mk (s : σ) (l : List (Suspended σ Q R ε)) :
    calls ⟨s, l⟩ = l.map Suspended.call := rfl

end Config

/-- One step of a pool under a guard. -/
inductive Step (S : System σ Q R ε I) (G : Guard σ Q R I) :
    Config σ Q R ε → Config σ Q R ε → Prop
  | /-- A request arrives and its first segment runs. -/
    start {s : σ} {l : List (Suspended σ Q R ε)} (i : I)
      (hg : G.start s (l.map Suspended.call) i) :
      Step S G ⟨s, l⟩
        ⟨((S.handle i).advance S.send s).1, l ++ ((S.handle i).advance S.send s).2.toList⟩
  | /-- An answer arrives and the segment after the await runs. -/
    resume {s : σ} {l r : List (Suspended σ Q R ε)} (p : Suspended σ Q R ε) (a : R p.call)
      (ha : S.reply s p.call a) (hg : G.resume s ((l ++ r).map Suspended.call) p.call a) :
      Step S G ⟨s, l ++ p :: r⟩
        ⟨((p.resume a).advance S.send s).1, l ++ ((p.resume a).advance S.send s).2.toList ++ r⟩
  | /-- A suspended program is dropped: its task is cancelled or its process dies. -/
    kill {s : σ} {l r : List (Suspended σ Q R ε)} (p : Suspended σ Q R ε)
      (hg : G.kill s ((l ++ r).map Suspended.call) p.call) :
      Step S G ⟨s, l ++ p :: r⟩ ⟨s, l ++ r⟩
  | /-- The call of a suspended program is issued once more. -/
    resend {s : σ} {l r : List (Suspended σ Q R ε)} (p : Suspended σ Q R ε)
      (hq : S.resends p.call) (hg : G.resend s ((l ++ r).map Suspended.call) p.call) :
      Step S G ⟨s, l ++ p :: r⟩ ⟨S.send p.call s, l ++ p :: r⟩
  | /-- The outside world moves. -/
    drift {s s' : σ} {l : List (Suspended σ Q R ε)} (h : S.drift s s') :
      Step S G ⟨s, l⟩ ⟨s', l⟩

/-- Any number of steps. -/
abbrev Run (S : System σ Q R ε I) (G : Guard σ Q R I) :
    Config σ Q R ε → Config σ Q R ε → Prop := Relation.ReflTransGen (Step S G)

/-! ## Playing a script -/

/-- One move of a script: the `n`-th program gets the answer that `answer` gives to
whatever call it waits for. -/
inductive Move (σ Q : Type) (R : Q → Type) (I : Type) : Type
  | start (i : I)
  | resume (n : Nat) (answer : (q : Q) → Option (R q))
  | drift (s : σ)

/-- Play one move.  A move that cannot be played changes nothing. -/
def Config.play (S : System σ Q R ε I) (c : Config σ Q R ε) : Move σ Q R I → Config σ Q R ε
  | .start i =>
      let out := (S.handle i).advance S.send c.state
      ⟨out.1, c.pool ++ out.2.toList⟩
  | .resume n answer => match c.pool[n]? with
      | some p => match answer p.call with
          | some a =>
              let out := (p.resume a).advance S.send c.state
              ⟨out.1, c.pool.take n ++ out.2.toList ++ c.pool.drop (n + 1)⟩
          | none => c
      | none => c
  | .drift s => ⟨s, c.pool⟩

/-- The move is one that the system and the guard allow. -/
def Move.Allowed (S : System σ Q R ε I) (G : Guard σ Q R I) (c : Config σ Q R ε) :
    Move σ Q R I → Prop
  | .start i => G.start c.state c.calls i
  | .resume n answer => match c.pool[n]? with
      | some p => match answer p.call with
          | some a => S.reply c.state p.call a ∧
              G.resume c.state ((c.pool.take n ++ c.pool.drop (n + 1)).map Suspended.call)
                p.call a
          | none => False
      | none => False
  | .drift s => S.drift c.state s

/-- An allowed move is a step. -/
theorem Move.Allowed.step {S : System σ Q R ε I} {G : Guard σ Q R I} {c : Config σ Q R ε}
    {m : Move σ Q R I} (h : m.Allowed S G c) : Step S G c (c.play S m) := by
  obtain ⟨s, pool⟩ := c
  cases m with
  | start i => exact .start i h
  | drift s' => exact .drift h
  | resume n answer =>
      simp only [Move.Allowed] at h
      simp only [Config.play]
      cases hp : pool[n]? with
      | none => simp only [hp] at h
      | some p =>
          simp only [hp] at h ⊢
          cases ha : answer p.call with
          | none => simp only [ha] at h
          | some a =>
              simp only [ha] at h ⊢
              obtain ⟨hlt, hget⟩ := List.getElem?_eq_some_iff.mp hp
              have hsplit : pool = pool.take n ++ p :: pool.drop (n + 1) := by
                rw [← hget, List.getElem_cons_drop hlt, List.take_append_drop]
              have := Step.resume (S := S) (G := G) (s := s) (l := pool.take n)
                (r := pool.drop (n + 1)) p a h.1 h.2
              rwa [← hsplit] at this

/-- Play a list of moves. -/
def Config.playAll (S : System σ Q R ε I) : Config σ Q R ε → List (Move σ Q R I) →
    Config σ Q R ε
  | c, [] => c
  | c, m :: ms => (c.play S m).playAll S ms

/-- Every move of the script is allowed where it is played. -/
def Script (S : System σ Q R ε I) (G : Guard σ Q R I) : Config σ Q R ε →
    List (Move σ Q R I) → Prop
  | _, [] => True
  | c, m :: ms => m.Allowed S G c ∧ Script S G (c.play S m) ms

/-- A script of allowed moves is a run. -/
theorem Script.run {S : System σ Q R ε I} {G : Guard σ Q R I} {c : Config σ Q R ε}
    (ms : List (Move σ Q R I)) (h : Script S G c ms) : Run S G c (c.playAll S ms) := by
  induction ms generalizing c with
  | nil => exact .refl
  | cons m ms ih => exact .head h.1.step (ih h.2)

end HightowerPos.Async
