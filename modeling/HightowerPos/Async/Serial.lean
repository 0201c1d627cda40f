import HightowerPos.Async.Pool
import HightowerPos.Async.Wp

/-!
# Handlers that do not overlap

Some calls are *quiet*: a program that waits for one holds nothing read from the
shared state, a background poller between two polls for instance.  A run is serial
when a request starts, and an answer is handed over, only while every other pending
call is quiet (`Guard.serial`).

A `Contract` says what a handler keeps when handlers do not overlap: every write is
a `step`, and `rest` holds wherever the handler ends or waits quietly.  A handler
may assume of the state only that it has not moved during a call that is not quiet,
and that `inv` and `rest` hold after a quiet one.  When every handler keeps the
contract, `inv` holds in every state of every serial run, `rest` in every state in
which only quiet calls are pending, and the state moves by contract steps only.
-/

namespace HightowerPos.Async

variable {σ Q I ε α β : Type} {R : Q → Type}

/-- Handlers do not overlap: see the module docstring.  `accepts` restricts the
requests, `ok` the answers. -/
def Guard.serial (quiet : Q → Prop) (accepts : σ → I → Prop)
    (ok : σ → (q : Q) → R q → Prop) : Guard σ Q R I where
  start s qs i := (∀ q ∈ qs, quiet q) ∧ accepts s i
  resume s qs q a := (∀ q' ∈ qs, quiet q') ∧ ok s q a
  kill _ _ _ := False

/-- What handlers keep when they do not overlap. -/
structure Contract (σ : Type) where
  /-- What one write may do. -/
  step : σ → σ → Prop
  /-- Holds in every state. -/
  inv : σ → Prop
  /-- Holds in addition where no handler is under way. -/
  rest : σ → Prop

/-- The system and the serial runs that a contract is about. -/
structure Setting (σ Q : Type) (R : Q → Type) (ε I : Type) where
  sys : System σ Q R ε I
  quiet : Q → Prop
  accepts : σ → I → Prop
  ok : σ → (q : Q) → R q → Prop
  /-- The calls that a program may issue, by the state. -/
  asks : σ → Q → Prop := fun _ _ ↦ True
  /-- What the segment that an answer sets going has to reach. -/
  owes : (q : Q) → R q → σ → Prop := fun _ _ _ ↦ True

namespace Setting

/-- The guard of the runs. -/
def guard (E : Setting σ Q R ε I) : Guard σ Q R I :=
  .serial E.quiet E.accepts E.ok

/-- The outside world moves, or a call is issued again. -/
def Shifts (E : Setting σ Q R ε I) (s s' : σ) : Prop :=
  E.sys.drift s s' ∨ ∃ q, E.sys.resends q ∧ s' = E.sys.send q s

/-- That has happened any number of times. -/
def Drifts (E : Setting σ Q R ε I) : σ → σ → Prop := Relation.ReflTransGen E.Shifts

/-- What the state can be when the answer to `q` arrives, the state having been `s`
when the call was issued. -/
def Waits (E : Setting σ Q R ε I) (K : Contract σ) (q : Q) (s s' : σ) : Prop :=
  (E.quiet q ∧ K.inv s' ∧ K.rest s') ∨ (¬ E.quiet q ∧ E.Drifts s s')

/-- The call was issued as a program may, and the state has not moved since. -/
def Asked (E : Setting σ Q R ε I) (q : Q) (s : σ) : Prop :=
  ∃ s₀, E.asks s₀ q ∧ E.Drifts (E.sys.send q s₀) s

end Setting

/-- What a contract asks of a program: a write is a step of it, a call is one that it may
issue, and before a quiet call the state is at rest.  The ghost is what the segment under
way has to reach. -/
def Contract.calculus (E : Setting σ Q R ε I) (K : Contract σ) :
    Calculus σ Q R (σ → Prop) where
  write s s' := s' = s ∨ K.step s s'
  await g s q k := E.asks s q ∧ (E.sys.send q s = s ∨ K.step s (E.sys.send q s)) ∧
    g (E.sys.send q s) ∧ (E.quiet q → K.rest (E.sys.send q s)) ∧
    ∀ s' a, E.Waits K q (E.sys.send q s) s' → E.sys.reply s' q a → E.ok s' q a →
      k a (E.owes q a) s'
  read _ := .inl rfl
  mono := fun h ⟨hasks, hsend, hg, hrest, hk⟩ ↦
    ⟨hasks, hsend, hg, hrest, fun s' a hw ha ho ↦ h _ _ _ (hk s' a hw ha ho)⟩

section Rules

variable {E : Setting σ Q R ε I} {K : Contract σ} {q : Q} {s : σ} {g : σ → Prop}
  {k : R q → (σ → Prop) → σ → Prop}

/-- A quiet await: the program goes on from any state at rest. -/
theorem Contract.await_quiet (hq : E.quiet q) (hsend : E.sys.send q s = s) (hrest : K.rest s)
    (hg : g s) (hasks : E.asks s q)
    (hk : ∀ s' a, K.inv s' → K.rest s' → E.ok s' q a → k a (E.owes q a) s') :
    (K.calculus E).await g s q k := by
  refine ⟨hasks, .inl hsend, hsend.symm ▸ hg, fun _ ↦ hsend.symm ▸ hrest,
    fun s' a hw _ hok ↦ ?_⟩
  rcases hw with ⟨-, hinv, hrest'⟩ | ⟨hn, -⟩
  · exact hk s' a hinv hrest' hok
  · exact absurd hq hn

/-- Any other await: the state has not moved when the program goes on. -/
theorem Contract.await_busy (hq : ¬ E.quiet q)
    (hsend : E.sys.send q s = s ∨ K.step s (E.sys.send q s))
    (hg : g (E.sys.send q s)) (hasks : E.asks s q)
    (hk : ∀ s' a, E.Drifts (E.sys.send q s) s' → E.ok s' q a → k a (E.owes q a) s') :
    (K.calculus E).await g s q k := by
  refine ⟨hasks, hsend, hg, fun h ↦ absurd h hq, fun s' a hw _ hok ↦ ?_⟩
  rcases hw with ⟨h, -⟩ | ⟨-, hd⟩
  · exact absurd h hq
  · exact hk s' a hd hok

end Rules

/-! ## Serial runs keep the contract -/

/-- A handler under a contract: it keeps it and ends at rest; the segment under way
reaches `g`. -/
def Prog.Serves (E : Setting σ Q R ε I) (K : Contract σ) (p : Prog σ Q R ε Unit)
    (g : σ → Prop) (s : σ) : Prop :=
  p.wp (K.calculus E) (fun g _ s ↦ K.rest s ∧ g s) g s

/-- A condition that every write of a handler keeps may be asked of it where it rests:
`K` says what the handler writes, `K'` what is asked. -/
theorem Prog.Serves.keep {E : Setting σ Q R ε I} {accepts : σ → I → Prop}
    {ok : σ → (q : Q) → R q → Prop} (hok : ∀ s q a, ok s q a → E.ok s q a) {K K' : Contract σ}
    (hinv : ∀ s, K.inv s) (hrest : ∀ s, K.rest s)
    (hstep : ∀ s s', K'.rest s → K.step s s' → K'.step s s' ∧ K'.rest s')
    (hdrift : ∀ s s', K'.rest s → E.Shifts s s' → K'.rest s') {p : Prog σ Q R ε Unit} {s : σ}
    {g : σ → Prop} (h : p.Serves E K g s) (hs : K'.rest s) :
    p.Serves { sys := E.sys, quiet := E.quiet, accepts := accepts, ok := ok } K'
      (fun _ ↦ True) s := by
  have hdrifts {s s' : σ} (hs : K'.rest s) (hd : E.Drifts s s') : K'.rest s' := by
    induction hd with
    | refl => exact hs
    | tail _ hd ih => exact hdrift _ _ ih hd
  unfold Prog.Serves at h ⊢
  induction p generalizing s g with
  | pure a => exact ⟨hs, trivial⟩
  | raise e => exact ⟨hs, trivial⟩
  | atomic u k ih =>
      simp only [Prog.wp] at h ⊢
      cases hu : u s with
      | error e => exact ⟨hs, trivial⟩
      | ok s' =>
          simp only [hu] at h
          rcases h with ⟨rfl | hw, hk⟩
          · exact ⟨.inl rfl, ih _ hk hs⟩
          · obtain ⟨hstep', hrest'⟩ := hstep s s' hs hw
            exact ⟨.inr hstep', ih s hk hrest'⟩
  | await q k ih =>
      obtain ⟨-, hsend, -, -, hk⟩ := h
      have hnext : (E.sys.send q s = s ∨ K'.step s (E.sys.send q s)) ∧
          K'.rest (E.sys.send q s) := by
        rcases hsend with hsame | hw
        · exact ⟨.inl hsame, hsame.symm ▸ hs⟩
        · exact (hstep s _ hs hw).imp_left .inr
      refine ⟨trivial, hnext.1, trivial, fun _ ↦ hnext.2, fun s' a hw ha hoka ↦ ?_⟩
      rcases hw with ⟨hq, -, hrest'⟩ | ⟨hq, hd⟩
      · exact ih a (hk s' a (.inl ⟨hq, hinv s', hrest s'⟩) ha (hok s' q a hoka)) hrest'
      · exact ih a (hk s' a (.inr ⟨hq, hd⟩) ha (hok s' q a hoka)) (hdrifts hnext.2 hd)

/-- The obligations of a contract. -/
structure Contract.Sound (E : Setting σ Q R ε I) (K : Contract σ) : Prop where
  /-- Contract steps preserve the invariant. -/
  step : ∀ {s s'}, K.inv s → K.step s s' → K.inv s'
  /-- So do moves of the outside world, -/
  drift : ∀ {s s'}, K.inv s → E.sys.drift s s' → K.inv s'
  /-- which do not disturb the resting condition either. -/
  drift_rest : ∀ {s s'}, K.rest s → E.sys.drift s s' → K.rest s'
  /-- A call that is issued again is a contract step, and does not disturb it. -/
  resend : ∀ {s q}, E.sys.resends q → K.step s (E.sys.send q s)
  resend_rest : ∀ {s q}, E.sys.resends q → K.rest s → K.rest (E.sys.send q s)
  /-- Every admitted request keeps the contract. -/
  serves : ∀ i s, E.accepts s i → K.inv s → K.rest s →
    (E.sys.handle i).Serves E K (fun _ ↦ True) s

/-- The invariant of serial runs. -/
structure Serial (E : Setting σ Q R ε I) (K : Contract σ) (c : Config σ Q R ε) : Prop where
  inv : K.inv c.state
  /-- A program that waits quietly goes on from any state at rest. -/
  quiet : ∀ p ∈ c.pool, E.quiet p.call → ∀ s a, K.inv s → K.rest s →
    E.sys.reply s p.call a → E.ok s p.call a → (p.resume a).Serves E K (E.owes p.call a) s
  /-- Either no handler is under way, or one is, and the state has not moved since it
  issued its call. -/
  busy : (K.rest c.state ∧ ∀ p ∈ c.pool, E.quiet p.call) ∨
    ∃ l p r, c.pool = l ++ p :: r ∧ (∀ x ∈ l ++ r, E.quiet x.call) ∧ ¬ E.quiet p.call ∧
      E.Asked p.call c.state ∧
      ∀ s a, E.Drifts c.state s → E.sys.reply s p.call a → E.ok s p.call a →
        (p.resume a).Serves E K (E.owes p.call a) s

namespace Serial

variable {E : Setting σ Q R ε I} {K : Contract σ}

/-- A state at rest with nothing pending. -/
theorem idle {s : σ} (hinv : K.inv s) (hrest : K.rest s) : Serial E K (.idle s) :=
  ⟨hinv, by simp [Config.idle], .inl ⟨hrest, by simp [Config.idle]⟩⟩

/-- Where only quiet calls are pending, no handler is under way. -/
theorem rest {c : Config σ Q R ε} (h : Serial E K c) (hq : ∀ q ∈ c.calls, E.quiet q) :
    K.rest c.state := by
  rcases h.busy with ⟨hrest, -⟩ | ⟨l, p, r, hpool, -, hp, -⟩
  · exact hrest
  · refine absurd (hq p.call (List.mem_map_of_mem ?_)) hp
    rw [hpool]
    simp

/-- A call that is not quiet was issued as a program may. -/
theorem asked {c : Config σ Q R ε} (h : Serial E K c) {q : Q} (hq : q ∈ c.calls)
    (hbusy : ¬ E.quiet q) : E.Asked q c.state := by
  obtain ⟨x, hx, rfl⟩ := List.mem_map.mp hq
  rcases h.busy with ⟨-, hall⟩ | ⟨l, p, r, hpool, hothers, -, hasked, -⟩
  · exact absurd (hall x hx) hbusy
  · rw [hpool] at hx
    rcases List.mem_append.mp hx with hx | hx
    · exact absurd (hothers x (List.mem_append_left _ hx)) hbusy
    · rcases List.mem_cons.mp hx with rfl | hx
      · exact hasked
      · exact absurd (hothers x (List.mem_append_right _ hx)) hbusy

/-- What the next segment of a program under contract leaves behind. -/
theorem advance (hK : K.Sound E) {p : Prog σ Q R ε Unit} {g : σ → Prop} {s : σ}
    (h : p.Serves E K g s) (hinv : K.inv s) :
    Relation.ReflTransGen K.step s (p.advance E.sys.send s).1 ∧
      K.inv (p.advance E.sys.send s).1 ∧ g (p.advance E.sys.send s).1 ∧
      match (p.advance E.sys.send s).2 with
      | none => K.rest (p.advance E.sys.send s).1
      | some p' => E.Asked p'.call (p.advance E.sys.send s).1 ∧
          (E.quiet p'.call → K.rest (p.advance E.sys.send s).1) ∧
          ∀ s' a, E.Waits K p'.call (p.advance E.sys.send s).1 s' →
            E.sys.reply s' p'.call a → E.ok s' p'.call a →
              (p'.resume a).Serves E K (E.owes p'.call a) s' := by
  unfold Prog.Serves at h
  induction p generalizing s with
  | pure a => exact ⟨.refl, hinv, h.2, h.1⟩
  | raise e => exact ⟨.refl, hinv, h.2, h.1⟩
  | atomic u k ih =>
      simp only [Prog.wp] at h
      simp only [Prog.advance]
      cases hu : u s with
      | error e => simp only [hu] at h ⊢; exact ⟨.refl, hinv, h.2, h.1⟩
      | ok s' =>
          simp only [hu] at h ⊢
          rcases h with ⟨rfl | hs, hk⟩
          · exact ih _ hk hinv
          · obtain ⟨hrun, hrest⟩ := ih s hk (hK.step hinv hs)
            exact ⟨.head hs hrun, hrest⟩
  | await q k ih =>
      obtain ⟨hasks, hsend, hg, hrest, hk⟩ := h
      have hasked : E.Asked q (E.sys.send q s) := ⟨s, hasks, .refl⟩
      simp only [Prog.advance]
      rcases hsend with hs | hs
      · rw [hs] at hg hrest hk hasked ⊢
        exact ⟨.refl, hinv, hg, hasked, hrest, hk⟩
      · exact ⟨.single hs, hK.step hinv hs, hg, hasked, hrest, hk⟩

/-- A segment taken while only quiet calls are pending elsewhere keeps the invariant
of serial runs, and moves the state by contract steps. -/
theorem segment (hK : K.Sound E) {p : Prog σ Q R ε Unit} {g : σ → Prop} {s : σ}
    {l r : List (Suspended σ Q R ε)} (h : p.Serves E K g s) (hinv : K.inv s)
    (hquiet : ∀ x ∈ l ++ r, E.quiet x.call)
    (hold : ∀ x ∈ l ++ r, E.quiet x.call → ∀ s a, K.inv s → K.rest s →
      E.sys.reply s x.call a → E.ok s x.call a → (x.resume a).Serves E K (E.owes x.call a) s) :
    Relation.ReflTransGen K.step s (p.advance E.sys.send s).1 ∧
      Serial E K ⟨(p.advance E.sys.send s).1,
        l ++ (p.advance E.sys.send s).2.toList ++ r⟩ := by
  obtain ⟨hrun, hinv', -, hnext⟩ := advance hK h hinv
  refine ⟨hrun, ?_⟩
  cases ho : (p.advance E.sys.send s).2 with
  | none =>
      simp only [ho] at hnext
      simp only [Option.toList_none, List.append_nil]
      exact ⟨hinv', hold, .inl ⟨hnext, hquiet⟩⟩
  | some p' =>
      simp only [ho] at hnext
      obtain ⟨hasked, hrest, hk⟩ := hnext
      simp only [Option.toList_some, List.append_assoc, List.singleton_append]
      by_cases hq : E.quiet p'.call
      · have hk' : ∀ s a, K.inv s → K.rest s → E.sys.reply s p'.call a →
            E.ok s p'.call a → (p'.resume a).Serves E K (E.owes p'.call a) s :=
          fun s' a hi hr ↦ hk s' a (.inl ⟨hq, hi, hr⟩)
        refine ⟨hinv', fun x hx ↦ ?_, .inl ⟨hrest hq, fun x hx ↦ ?_⟩⟩ <;>
          rcases List.mem_append.mp hx with hx | hx
        · exact hold x (List.mem_append_left _ hx)
        · rcases List.mem_cons.mp hx with rfl | hx
          · exact fun _ ↦ hk'
          · exact hold x (List.mem_append_right _ hx)
        · exact hquiet x (List.mem_append_left _ hx)
        · rcases List.mem_cons.mp hx with rfl | hx
          · exact hq
          · exact hquiet x (List.mem_append_right _ hx)
      · refine ⟨hinv', fun x hx ↦ ?_, .inr ⟨l, p', r, rfl, hquiet, hq, hasked, fun s' a hd ↦
          hk s' a (.inr ⟨hq, hd⟩)⟩⟩
        rcases List.mem_append.mp hx with hx | hx
        · exact hold x (List.mem_append_left _ hx)
        · rcases List.mem_cons.mp hx with rfl | hx
          · exact fun h ↦ absurd h hq
          · exact hold x (List.mem_append_right _ hx)

/-- The invariant passes to the others when one program is taken out of the pool. -/
theorem others {s : σ} {l r : List (Suspended σ Q R ε)} {p : Suspended σ Q R ε}
    (h : Serial E K ⟨s, l ++ p :: r⟩) :
    ∀ x ∈ l ++ r, E.quiet x.call → ∀ s a, K.inv s → K.rest s →
      E.sys.reply s x.call a → E.ok s x.call a → (x.resume a).Serves E K (E.owes x.call a) s :=
  fun x hx ↦ h.quiet x (by
    rcases List.mem_append.mp hx with hx | hx
    · exact List.mem_append_left _ hx
    · exact List.mem_append_right _ (List.mem_cons_of_mem _ hx))

/-- The program that an answer is handed to keeps the contract from there. -/
theorem resumes {s : σ} {l r : List (Suspended σ Q R ε)} {p : Suspended σ Q R ε}
    (h : Serial E K ⟨s, l ++ p :: r⟩) (hquiet : ∀ x ∈ l ++ r, E.quiet x.call) {a : R p.call}
    (ha : E.sys.reply s p.call a) (hok : E.ok s p.call a) :
    (p.resume a).Serves E K (E.owes p.call a) s := by
  have hmem : p ∈ l ++ p :: r := by simp
  rcases h.busy with ⟨hrest, hall⟩ | ⟨l', p', r', heq, hothers, hp', -, hk⟩
  · exact h.quiet p hmem (hall p hmem) s a h.inv hrest ha hok
  · -- the one program that is not quiet has to be `p`
    have hp'mem : p' ∈ l ++ p :: r := by
      rw [show l ++ p :: r = l' ++ p' :: r' from heq]; simp
    have : p' = p := by
      rcases List.mem_append.mp hp'mem with hx | hx
      · exact absurd (hquiet p' (List.mem_append_left _ hx)) hp'
      · rcases List.mem_cons.mp hx with hx | hx
        · exact hx
        · exact absurd (hquiet p' (List.mem_append_right _ hx)) hp'
    subst this
    exact hk s a .refl ha hok

/-- What the segment after an answer has reached. -/
theorem reached (hK : K.Sound E) {s : σ} {l r : List (Suspended σ Q R ε)}
    {p : Suspended σ Q R ε} (h : Serial E K ⟨s, l ++ p :: r⟩) {a : R p.call}
    (ha : E.sys.reply s p.call a)
    (hg : E.guard.resume s ((l ++ r).map Suspended.call) p.call a) :
    E.owes p.call a ((p.resume a).advance E.sys.send s).1 := by
  obtain ⟨hq, hok⟩ := hg
  simp only [List.mem_map, forall_exists_index, and_imp, forall_apply_eq_imp_iff₂] at hq
  exact (advance hK (h.resumes hq ha hok) h.inv).2.2.1

/-- What happens during the calls that are awaited keeps the invariant of serial runs, where
it keeps the contract. -/
theorem shift {s s' : σ} {l : List (Suspended σ Q R ε)} (h : Serial E K ⟨s, l⟩)
    (hs : E.Shifts s s') (hinv : K.inv s') (hrest : K.rest s → K.rest s') :
    Serial E K ⟨s', l⟩ := by
  refine ⟨hinv, h.quiet, ?_⟩
  rcases h.busy with ⟨hr, hall⟩ | ⟨l', p, r, heq, hothers, hp, ⟨s₀, hasks, hds₀⟩, hk⟩
  · exact .inl ⟨hrest hr, hall⟩
  · exact .inr ⟨l', p, r, heq, hothers, hp, ⟨s₀, hasks, hds₀.tail hs⟩,
      fun s a hds ↦ hk s a (.head hs hds)⟩

/-- One step of a serial run keeps the invariant, and moves the state by contract
steps or by a drift of the outside world. -/
theorem step (hK : K.Sound E) {c c' : Config σ Q R ε} (h : Serial E K c)
    (hs : Step E.sys E.guard c c') :
    Serial E K c' ∧ (Relation.ReflTransGen K.step c.state c'.state ∨
      E.sys.drift c.state c'.state) := by
  cases hs with
  | @start s l i hg =>
      obtain ⟨hq, haccepts⟩ := hg
      simp only [List.mem_map, forall_exists_index, and_imp, forall_apply_eq_imp_iff₂] at hq
      have hrest : K.rest s := by
        rcases h.busy with ⟨hrest, _⟩ | ⟨l', p, r', heq, _, hp, _⟩
        · exact hrest
        · exact absurd (hq p (by rw [show l = l' ++ p :: r' from heq]; simp)) hp
      obtain ⟨hrun, hser⟩ := segment (l := l) (r := []) hK (hK.serves i s haccepts h.inv hrest)
        h.inv (by simpa using hq) (by simpa using h.quiet)
      rw [List.append_nil] at hser
      exact ⟨hser, .inl hrun⟩
  | @resume s l r p a ha hg =>
      obtain ⟨hq, hok⟩ := hg
      simp only [List.mem_map, forall_exists_index, and_imp, forall_apply_eq_imp_iff₂] at hq
      obtain ⟨hrun, hser⟩ := segment hK (h.resumes hq ha hok) h.inv hq h.others
      exact ⟨hser, .inl hrun⟩
  | kill p hg => exact hg.elim
  | @resend s l r p hq hg =>
      have hstep : K.step s (E.sys.send p.call s) := hK.resend hq
      refine ⟨h.shift (.inr ⟨_, hq, rfl⟩) (hK.step h.inv hstep) ?_, .inl (.single hstep)⟩
      exact hK.resend_rest hq
  | @drift s s' l hd =>
      exact ⟨h.shift (.inl hd) (hK.drift h.inv hd) fun hrest ↦ hK.drift_rest hrest hd, .inr hd⟩

/-- **Serial runs keep the contract**: the invariant holds after them, and they move the
state by contract steps and moves of the outside world. -/
theorem run (hK : K.Sound E) {c c' : Config σ Q R ε} (h : Serial E K c)
    (hrun : Run E.sys E.guard c c') :
    Serial E K c' ∧
      Relation.ReflTransGen (fun s s' ↦ K.step s s' ∨ E.sys.drift s s') c.state c'.state := by
  induction hrun with
  | refl => exact ⟨h, .refl⟩
  | tail _ hs ih =>
      obtain ⟨hser, hmove⟩ := ih.1.step hK hs
      refine ⟨hser, ih.2.trans ?_⟩
      rcases hmove with hsteps | hdrift
      · exact Relation.ReflTransGen.mono (fun _ _ h ↦ Or.inl h) _ _ hsteps
      · exact .single (.inr hdrift)

end Serial

end HightowerPos.Async
