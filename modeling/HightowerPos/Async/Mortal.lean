import HightowerPos.Async.Serial

/-!
# Handlers that die

A serial run in which a handler may end at any of its accesses: it is dropped where it waits,
or in the middle of a segment, after some of the accesses of the segment were made.  When the
whole process dies, every handler does.

The states of such runs are the commit points of a serial run.  A contract whose resting
condition holds in every state is kept by them too (`Mortal.run`).
-/

namespace HightowerPos.Async

variable {σ Q I ε α : Type} {R : Q → Type}

/-- From `s` the segment of `p` comes to `s'`, where it may be cut. -/
inductive Prog.Passes : Prog σ Q R ε α → σ → σ → Prop
  | here {p : Prog σ Q R ε α} {s : σ} : Passes p s s
  | access {f : σ → Except ε σ} {k : σ → Prog σ Q R ε α} {s s₁ s' : σ} (hf : f s = .ok s₁)
      (h : (k s).Passes s₁ s') : Passes (.atomic f k) s s'

/-- A step of a serial run, or a death. -/
inductive Mortal.Step (E : Setting σ Q R ε I) : Config σ Q R ε → Config σ Q R ε → Prop
  | live {c c' : Config σ Q R ε} (h : Async.Step E.sys E.guard c c') : Step E c c'
  | /-- A program dies where it waits. -/
    dropped {s : σ} {l r : List (Suspended σ Q R ε)} {p : Suspended σ Q R ε} :
      Step E ⟨s, l ++ p :: r⟩ ⟨s, l ++ r⟩
  | /-- A request dies in its first segment. -/
    cutStart {s s' : σ} {l : List (Suspended σ Q R ε)} (i : I)
      (hg : E.guard.start s (l.map Suspended.call) i) (h : (E.sys.handle i).Passes s s') :
      Step E ⟨s, l⟩ ⟨s', l⟩
  | /-- A program dies in a later segment. -/
    cutResume {s s' : σ} {l r : List (Suspended σ Q R ε)} (p : Suspended σ Q R ε) (a : R p.call)
      (ha : E.sys.reply s p.call a)
      (hg : E.guard.resume s ((l ++ r).map Suspended.call) p.call a)
      (h : (p.resume a).Passes s s') : Step E ⟨s, l ++ p :: r⟩ ⟨s', l ++ r⟩

/-- Any number of steps. -/
abbrev Mortal.Run (E : Setting σ Q R ε I) : Config σ Q R ε → Config σ Q R ε → Prop :=
  Relation.ReflTransGen (Mortal.Step E)

namespace Mortal

variable {E : Setting σ Q R ε I} {K : Contract σ}

/-- The part of a segment that was made. -/
theorem moves_of_passes (hK : K.Sound E) {p : Prog σ Q R ε Unit} {g : σ → Prop} {s s' : σ}
    (h : p.Serves E K g s) (hp : p.Passes s s') (hinv : K.inv s) :
    Relation.ReflTransGen K.step s s' ∧ K.inv s' := by
  unfold Prog.Serves at h
  induction hp with
  | here => exact ⟨.refl, hinv⟩
  | access hf _ ih =>
      simp only [Prog.wp, hf] at h
      obtain ⟨rfl | hs, hk⟩ := h
      · exact ih hk hinv
      · obtain ⟨hrun, hinv'⟩ := ih hk (hK.step hinv hs)
        exact ⟨.head hs hrun, hinv'⟩

/-- A state in which only quiet programs wait. -/
theorem serial_of_quiet (hrest : ∀ s, K.inv s → K.rest s) {s : σ}
    {l : List (Suspended σ Q R ε)} (hinv : K.inv s) (hquiet : ∀ x ∈ l, E.quiet x.call)
    (hold : ∀ x ∈ l, E.quiet x.call → ∀ s a, K.inv s → K.rest s →
      E.sys.reply s x.call a → E.ok s x.call a → (x.resume a).Serves E K (E.owes x.call a) s) :
    Serial E K ⟨s, l⟩ := ⟨hinv, hold, .inl ⟨hrest s hinv, hquiet⟩⟩

/-- A program that dies where it waits leaves the others as they were. -/
theorem serial_dropped (hrest : ∀ s, K.inv s → K.rest s) {s : σ}
    {l r : List (Suspended σ Q R ε)} {p : Suspended σ Q R ε}
    (h : Serial E K ⟨s, l ++ p :: r⟩) : Serial E K ⟨s, l ++ r⟩ := by
  rcases h.busy with ⟨-, hquiet⟩ | ⟨l', p', r', hpool, hquiet, hp', hk⟩
  · refine serial_of_quiet hrest h.inv (fun x hx ↦ hquiet x ?_) h.others
    rcases List.mem_append.mp hx with hx | hx
    · exact List.mem_append_left _ hx
    · exact List.mem_append_right _ (List.mem_cons_of_mem _ hx)
  · -- `p'` is the only program that is not quiet
    classical
    have hfilter : (l ++ p :: r).filter (fun x ↦ ¬ E.quiet x.call) = [p'] := by
      have hnil (m : List (Suspended σ Q R ε)) (hm : ∀ x ∈ m, E.quiet x.call) :
          m.filter (fun x ↦ ¬ E.quiet x.call) = [] :=
        List.filter_eq_nil_iff.mpr fun x hx ↦ by simpa using hm x hx
      rw [show l ++ p :: r = l' ++ p' :: r' from hpool, List.filter_append,
        hnil l' fun x hx ↦ hquiet x (List.mem_append_left _ hx), List.nil_append,
        List.filter_cons_of_pos (by simpa using hp'),
        hnil r' fun x hx ↦ hquiet x (List.mem_append_right _ hx)]
    rw [List.filter_append] at hfilter
    by_cases hp : E.quiet p.call
    · rw [List.filter_cons_of_neg (by simpa using hp), ← List.filter_append,
        List.filter_eq_cons_iff] at hfilter
      obtain ⟨l₁, r₁, hsplit, hl₁, -, hr₁⟩ := hfilter
      refine ⟨h.inv, h.others, .inr ⟨l₁, p', r₁, hsplit, fun x hx ↦ ?_, hp', hk⟩⟩
      rcases List.mem_append.mp hx with hx | hx
      · simpa using hl₁ x hx
      · simpa using List.filter_eq_nil_iff.mp hr₁ x hx
    · rw [List.filter_cons_of_pos (by simpa using hp)] at hfilter
      refine serial_of_quiet hrest h.inv (fun x hx ↦ ?_) h.others
      refine Classical.byContradiction fun hx' ↦ ?_
      have hmem : x ∈ (l ++ r).filter fun x ↦ ¬ E.quiet x.call :=
        List.mem_filter.mpr ⟨hx, by simpa using hx'⟩
      have hlen := congrArg List.length hfilter
      rw [List.filter_append] at hmem
      have hpos := List.length_pos_of_mem hmem
      simp only [List.length_append, List.length_cons, List.length_nil] at hlen hpos
      omega

/-- One step. -/
theorem step (hK : K.Sound E) (hrest : ∀ s, K.inv s → K.rest s) {c c' : Config σ Q R ε}
    (h : Serial E K c) (hs : Step E c c') :
    Serial E K c' ∧
      Relation.ReflTransGen (fun s s' ↦ K.step s s' ∨ E.sys.drift s s') c.state c'.state := by
  have hmono {s s' : σ} (h : Relation.ReflTransGen K.step s s') :
      Relation.ReflTransGen (fun s s' ↦ K.step s s' ∨ E.sys.drift s s') s s' :=
    Relation.ReflTransGen.mono (fun _ _ h ↦ Or.inl h) _ _ h
  cases hs with
  | live hs =>
      obtain ⟨hser, hmove⟩ := h.step hK hs
      exact ⟨hser, hmove.elim hmono fun hd ↦ .single (.inr hd)⟩
  | dropped => exact ⟨serial_dropped hrest h, .refl⟩
  | @cutStart s s' l i hg hp =>
      obtain ⟨hq, haccepts⟩ := hg
      simp only [List.mem_map, forall_exists_index, and_imp, forall_apply_eq_imp_iff₂] at hq
      obtain ⟨hrun, hinv⟩ :=
        moves_of_passes hK (hK.serves i s haccepts h.inv (hrest s h.inv)) hp h.inv
      exact ⟨serial_of_quiet hrest hinv hq h.quiet, hmono hrun⟩
  | @cutResume s s' l r p a ha hg hp =>
      obtain ⟨hq, hok⟩ := hg
      simp only [List.mem_map, forall_exists_index, and_imp, forall_apply_eq_imp_iff₂] at hq
      obtain ⟨hrun, hinv⟩ := moves_of_passes hK (h.resumes hq ha hok) hp h.inv
      exact ⟨serial_of_quiet hrest hinv hq h.others, hmono hrun⟩

/-- **Runs in which handlers die keep the contract.** -/
theorem run (hK : K.Sound E) (hrest : ∀ s, K.inv s → K.rest s) {c c' : Config σ Q R ε}
    (h : Serial E K c) (hrun : Run E c c') :
    Serial E K c' ∧
      Relation.ReflTransGen (fun s s' ↦ K.step s s' ∨ E.sys.drift s s') c.state c'.state := by
  induction hrun with
  | refl => exact ⟨h, .refl⟩
  | tail _ hs ih =>
      obtain ⟨hser, hmove⟩ := step hK hrest ih.1 hs
      exact ⟨hser, ih.2.trans hmove⟩

end Mortal

end HightowerPos.Async
