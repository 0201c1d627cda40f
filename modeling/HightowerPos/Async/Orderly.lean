import HightowerPos.Async.Monitor

/-!
# Pieces of work, one after the other

The threads of a monitor may be interrupted at each access and at each command.  When all of
them heed the mutexes, the commands of an object are nonetheless those of whole pieces of work,
one after the other, but for the piece under way (`Monitor.Orderly.serial`), and a command that
belongs to an object is issued under its mutex (`Monitor.Orderly.owned`).
-/

namespace HightowerPos.Async

variable {σ L J C V ε I : Type} {A : C → Type}

/-- A piece of work that a thread has done, with its commands. -/
structure Piece (J C : Type) (A : C → Type) where
  thread : Nat
  work : J
  exchanges : List (Exchange C A)

/-- The commands of a piece of work, with the thread that issued them. -/
def Piece.commands (b : Piece J C A) : List (Nat × Exchange C A) := b.exchanges.map (b.thread, ·)

/-- The pieces of work take the cell of `l` from the one value to the other, one after the
other. -/
inductive Monitor.Serial (M : Monitor σ L J C V A) (l : L) : V → List (Piece J C A) → V → Prop
  | nil (v : V) : Serial M l v [] v
  | snoc {v v' v'' : V} {bs : List (Piece J C A)} {b : Piece J C A} (h : Serial M l v bs v')
      (hwork : M.work l b.work v' b.exchanges v'') : Serial M l v (bs ++ [b]) v''

section Orderly

variable [DecidableEq L] {S : Machine σ L J C A ε I} {M : Monitor σ L J C V A}
variable {c c' : Floor σ L J C A ε I} {ph : Nat → Phase L J C V A}

/-- The commands under the mutex of an object, with the threads that issued them. -/
def Floor.under (c : Floor σ L J C A ε I) (l : L) : List (Nat × Exchange C A) :=
  (c.log.filter (·.lock = some l)).map fun e ↦ (e.thread, e.exchange)

/-- No thread holds the mutex. -/
def Floor.Free (c : Floor σ L J C A ε I) (l : L) : Prop :=
  ∀ (n : Nat) (w : Worker σ L J C A ε I), c.workers[n]? = some w → w.held ≠ some l

/-- The threads heed the mutexes from where they are, and the commands so far are those of whole
pieces of work, but for the pieces under way. -/
structure Monitor.Orderly (M : Monitor σ L J C V A) (c : Floor σ L J C A ε I)
    (ph : Nat → Phase L J C V A) : Prop where
  heeds : ∀ (n : Nat) (w : Worker σ L J C A ε I), c.workers[n]? = some w →
    w.code.Heeds M (fun _ ph ↦ ph = .outside) (ph n)
  held : ∀ (n : Nat) (w : Worker σ L J C A ε I), c.workers[n]? = some w → (ph n).lock = w.held
  alone : ∀ (n n' : Nat) (w w' : Worker σ L J C A ε I) l, c.workers[n]? = some w →
    c.workers[n']? = some w' → w.held = some l → w'.held = some l → n = n'
  free : ∀ l, c.Free l → ∃ bs, c.under l = bs.flatMap Piece.commands ∧
    (M.cell c.state l = none → bs = []) ∧
    ∀ v, M.cell c.state l = some v → ∃ v₀, M.Serial l v₀ bs v
  busy : ∀ (n : Nat) (w : Worker σ L J C A ε I) l j v₀ v tr, c.workers[n]? = some w →
    ph n = .inside l j v₀ v tr → M.cell c.state l = some v ∧ ∃ v₁ bs, M.Serial l v₁ bs v₀ ∧
      c.under l = bs.flatMap Piece.commands ++ tr.map (n, ·)
  owned : ∀ e ∈ c.log, ∀ l, M.owner e.exchange.1 = some l → e.lock = some l

namespace Monitor

namespace Orderly

/-- A thread that is inside holds the mutex. -/
theorem held_of_inside (h : M.Orderly c ph) {n : Nat} {w : Worker σ L J C A ε I} {l : L} {j : J}
    {v₀ v : V} {tr : List (Exchange C A)} (hn : c.workers[n]? = some w)
    (hph : ph n = .inside l j v₀ v tr) : w.held = some l := by
  rw [← h.held n w hn, hph]
  rfl

/-- The threads after one of them has moved on. -/
theorem heeds_set {s : σ} {ws : List (Worker σ L J C A ε I)} {log : List (Entry L C A)}
    {φ : Phase L J C V A} (h : M.Orderly ⟨s, ws, log⟩ ph) (n : Nat) (w : Worker σ L J C A ε I)
    (hcode : w.code.Heeds M (fun _ ph ↦ ph = .outside) φ) (hheld : φ.lock = w.held) :
    ∀ m w', (ws.set n w)[m]? = some w' →
      w'.code.Heeds M (fun _ ph ↦ ph = .outside) (Function.update ph n φ m) ∧
        (Function.update ph n φ m).lock = w'.held := by
  intro m w' hm
  rcases getElem?_set_cases hm with ⟨rfl, rfl⟩ | ⟨hne, hm⟩
  · rw [Function.update_self]
    exact ⟨hcode, hheld⟩
  · rw [Function.update_of_ne hne]
    exact ⟨h.heeds m w' hm, h.held m w' hm⟩

/-- A request arrives. -/
theorem start {s : σ} {ws : List (Worker σ L J C A ε I)} {log : List (Entry L C A)} {i : I}
    {p : Code σ L J C A ε Unit} (h : M.Orderly ⟨s, ws, log⟩ ph)
    (hp : p.Heeds M (fun _ ph ↦ ph = .outside) .outside) :
    M.Orderly ⟨s, ws ++ [⟨i, none, p⟩], log⟩ (Function.update ph ws.length .outside) := by
  have hlt (m : Nat) (w : Worker σ L J C A ε I) (hm : ws[m]? = some w) : m ≠ ws.length :=
    Nat.ne_of_lt (List.getElem?_eq_some_iff.mp hm).1
  have hmem (m : Nat) (w : Worker σ L J C A ε I) (hm : ws[m]? = some w) :
      (ws ++ [⟨i, none, p⟩])[m]? = some w := by
    rwa [List.getElem?_append_left (List.getElem?_eq_some_iff.mp hm).1]
  refine ⟨fun m w hm ↦ ?_, fun m w hm ↦ ?_, fun m m' w w' l hm hm' hl hl' ↦ ?_, fun l hfree ↦ ?_,
    fun m w l j v₀ v tr hm hph ↦ ?_, h.owned⟩
  · rcases getElem?_concat_cases hm with ⟨rfl, rfl⟩ | hm
    · rwa [Function.update_self]
    · rw [Function.update_of_ne (hlt m w hm)]
      exact h.heeds m w hm
  · rcases getElem?_concat_cases hm with ⟨rfl, rfl⟩ | hm
    · rw [Function.update_self]
      rfl
    · rw [Function.update_of_ne (hlt m w hm)]
      exact h.held m w hm
  · rcases getElem?_concat_cases hm with ⟨rfl, rfl⟩ | hm
    · cases hl
    · rcases getElem?_concat_cases hm' with ⟨rfl, rfl⟩ | hm'
      · cases hl'
      · exact h.alone m m' w w' l hm hm' hl hl'
  · exact h.free l fun m w hm ↦ hfree m w (hmem m w hm)
  · rcases getElem?_concat_cases hm with ⟨rfl, rfl⟩ | hm
    · rw [Function.update_self] at hph
      cases hph
    · rw [Function.update_of_ne (hlt m w hm)] at hph
      exact h.busy m w l j v₀ v tr hm hph

/-- A thread makes an access. -/
theorem access {s s' : σ} {ws : List (Worker σ L J C A ε I)} {log : List (Entry L C A)} {n : Nat}
    {i : I} {held : Option L} {p p' : Code σ L J C A ε Unit} {φ : Phase L J C V A}
    (h : M.Orderly ⟨s, ws, log⟩ ph) (hn : ws[n]? = some ⟨i, held, p⟩)
    (hp' : p'.Heeds M (fun _ ph ↦ ph = .outside) φ) (hmoves : M.Moves s s' (ph n) φ) :
    M.Orderly ⟨s', ws.set n ⟨i, held, p'⟩, log⟩ (Function.update ph n φ) := by
  obtain ⟨hspares, hlock⟩ := hmoves.spares
  have hheld : (ph n).lock = held := h.held n _ hn
  have hset := h.heeds_set n ⟨i, held, p'⟩ hp' (hlock.trans hheld)
  -- the mutexes are held as before
  have hback (m : Nat) (w : Worker σ L J C A ε I)
      (hm : (ws.set n ⟨i, held, p'⟩)[m]? = some w) :
      ∃ w₀, ws[m]? = some w₀ ∧ w₀.held = w.held := by
    rcases getElem?_set_cases hm with ⟨rfl, rfl⟩ | ⟨-, hm⟩
    · exact ⟨_, hn, rfl⟩
    · exact ⟨w, hm, rfl⟩
  have hfree (l : L) (hl : Floor.Free ⟨s', ws.set n ⟨i, held, p'⟩, log⟩ l) :
      Floor.Free ⟨s, ws, log⟩ l := by
    intro m w hm
    by_cases hmn : m = n
    · subst hmn
      obtain rfl := Option.some.inj (hm.symm.trans hn)
      exact hl m ⟨i, held, p'⟩ (by rw [List.getElem?_set_self (List.getElem?_eq_some_iff.mp hn).1])
    · exact hl m w (by rwa [List.getElem?_set_ne (fun hnm ↦ hmn hnm.symm)])
  refine ⟨fun m w hm ↦ (hset m w hm).1, fun m w hm ↦ (hset m w hm).2,
    fun m m' w w' l hm hm' hl hl' ↦ ?_, fun l hl ↦ ?_, fun m w l j v₀ v tr hm hph ↦ ?_, h.owned⟩
  · obtain ⟨w₀, hw₀, hheld₀⟩ := hback m w hm
    obtain ⟨w₁, hw₁, hheld₁⟩ := hback m' w' hm'
    exact h.alone m m' w₀ w₁ l hw₀ hw₁ (hheld₀.trans hl) (hheld₁.trans hl')
  · obtain ⟨bs, hunder, hnone, hserial⟩ := h.free l (hfree l hl)
    have hother : (ph n).lock ≠ some l := by
      rw [hheld]
      exact hfree l hl n _ hn
    cases hcell : M.cell s l with
    | none =>
        obtain rfl := hnone hcell
        exact ⟨[], hunder, fun _ ↦ rfl, fun v _ ↦ ⟨v, .nil v⟩⟩
    | some u =>
        have hsame := hspares l u hother hcell
        refine ⟨bs, hunder, fun hgone ↦ ?_, fun v hv ↦ ?_⟩
        · exact absurd (hsame.symm.trans hgone) (by simp)
        · obtain rfl := Option.some.inj (hsame.symm.trans hv)
          exact hserial u hcell
  · rcases getElem?_set_cases hm with ⟨rfl, rfl⟩ | ⟨hne, hm⟩
    · rw [Function.update_self] at hph
      subst hph
      cases hphm : ph m with
      | outside =>
          rw [hphm] at hlock
          cases hlock
      | inside l₀ j₀ u₀ u tr₀ =>
          rw [hphm] at hmoves
          obtain ⟨v', heq, hcell, -⟩ := hmoves
          cases heq
          exact ⟨hcell, (h.busy m _ _ _ _ _ _ hn hphm).2⟩
    · rw [Function.update_of_ne hne] at hph
      obtain ⟨hcell, hserial⟩ := h.busy m w l j v₀ v tr hm hph
      refine ⟨hspares l v ?_ hcell, hserial⟩
      intro hl
      exact hne (h.alone m n w _ l hm hn (h.held_of_inside hm hph) (hheld.symm.trans hl))

/-- A thread takes a mutex. -/
theorem acquire {s : σ} {ws : List (Worker σ L J C A ε I)} {log : List (Entry L C A)} {n : Nat}
    {i : I} {l : L} {j : J} {k : Unit → Code σ L J C A ε Unit} {v : V}
    (h : M.Orderly ⟨s, ws, log⟩ ph) (hn : ws[n]? = some ⟨i, none, .await (.acquire l j) k⟩)
    (hfree : Floor.Free ⟨s, ws, log⟩ l) (hcell : M.cell s l = some v) :
    M.Orderly ⟨s, ws.set n ⟨i, some l, k ()⟩, log⟩
      (Function.update ph n (.inside l j v v [])) := by
  have hset := h.heeds_set n ⟨i, some l, k ()⟩ ((h.heeds n _ hn).2 v) rfl
  refine ⟨fun m w hm ↦ (hset m w hm).1, fun m w hm ↦ (hset m w hm).2,
    fun m m' w w' l' hm hm' hl hl' ↦ ?_, fun l' hl' ↦ ?_, fun m w l' j' v₀ v' tr hm hph ↦ ?_,
    h.owned⟩
  · rcases getElem?_set_cases hm with ⟨rfl, rfl⟩ | ⟨-, hold⟩
    · rcases getElem?_set_cases hm' with ⟨rfl, rfl⟩ | ⟨-, hold'⟩
      · rfl
      · exact absurd (hl'.trans hl.symm) (hfree m' w' hold')
    · rcases getElem?_set_cases hm' with ⟨rfl, rfl⟩ | ⟨-, hold'⟩
      · exact absurd (hl.trans hl'.symm) (hfree m w hold)
      · exact h.alone m m' w w' l' hold hold' hl hl'
  · refine h.free l' fun m w hm ↦ ?_
    by_cases hmn : m = n
    · subst hmn
      obtain rfl := Option.some.inj (hm.symm.trans hn)
      exact fun hnone ↦ by cases hnone
    · exact hl' m w (by rwa [List.getElem?_set_ne (fun hnm ↦ hmn hnm.symm)])
  · rcases getElem?_set_cases hm with ⟨rfl, rfl⟩ | ⟨hne, hm⟩
    · rw [Function.update_self] at hph
      cases hph
      obtain ⟨bs, hunder, -, hserial⟩ := h.free l hfree
      obtain ⟨v₁, hv₁⟩ := hserial v hcell
      refine ⟨hcell, v₁, bs, hv₁, ?_⟩
      rw [List.map_nil, List.append_nil]
      exact hunder
    · rw [Function.update_of_ne hne] at hph
      exact h.busy m w l' j' v₀ v' tr hm hph

/-- A thread gives its mutex back. -/
theorem release {s : σ} {ws : List (Worker σ L J C A ε I)} {log : List (Entry L C A)} {n : Nat}
    {i : I} {l : L} {k : Unit → Code σ L J C A ε Unit} (h : M.Orderly ⟨s, ws, log⟩ ph)
    (hn : ws[n]? = some ⟨i, some l, .await .release k⟩) :
    M.Orderly ⟨s, ws.set n ⟨i, none, k ()⟩, log⟩ (Function.update ph n .outside) := by
  have hcode := h.heeds n _ hn
  have hheld := h.held n _ hn
  cases hph : ph n with
  | outside =>
      rw [hph] at hheld
      cases hheld
  | inside l₀ j v₀ v tr =>
      rw [hph] at hcode hheld
      obtain ⟨hwork, hk⟩ := hcode
      obtain rfl : l₀ = l := Option.some.inj hheld
      obtain ⟨hcell, v₁, bs, hserial, hunder⟩ := h.busy n _ _ _ _ _ _ hn hph
      have hset := h.heeds_set n ⟨i, none, k ()⟩ hk rfl
      refine ⟨fun m w hm ↦ (hset m w hm).1, fun m w hm ↦ (hset m w hm).2,
        fun m m' w w' l' hm hm' hl hl' ↦ ?_, fun l' hl' ↦ ?_,
        fun m w l' j' v₀' v' tr' hm hph' ↦ ?_, h.owned⟩
      · rcases getElem?_set_cases hm with ⟨rfl, rfl⟩ | ⟨hne, hm⟩
        · cases hl
        · rcases getElem?_set_cases hm' with ⟨rfl, rfl⟩ | ⟨hne', hm'⟩
          · cases hl'
          · exact h.alone m m' w w' l' hm hm' hl hl'
      · by_cases hll : l' = l₀
        · -- the piece of work is complete
          subst hll
          refine ⟨bs ++ [⟨n, j, tr⟩], ?_, fun hnone ↦ ?_, fun u hu ↦ ?_⟩
          · rw [List.flatMap_append, List.flatMap_singleton]
            exact hunder
          · exact absurd (hcell.symm.trans hnone) (by simp)
          · obtain rfl := Option.some.inj (hcell.symm.trans hu)
            exact ⟨v₁, .snoc hserial hwork⟩
        · refine h.free l' fun m w hm ↦ ?_
          by_cases hmn : m = n
          · subst hmn
            obtain rfl := Option.some.inj (hm.symm.trans hn)
            exact fun hsome ↦ hll (Option.some.inj hsome).symm
          · exact hl' m w (by rwa [List.getElem?_set_ne (fun hnm ↦ hmn hnm.symm)])
      · rcases getElem?_set_cases hm with ⟨rfl, rfl⟩ | ⟨hne, hm⟩
        · rw [Function.update_self] at hph'
          cases hph'
        · rw [Function.update_of_ne hne] at hph'
          exact h.busy m w l' j' v₀' v' tr' hm hph'

/-- A command is answered. -/
theorem command {s : σ} {ws : List (Worker σ L J C A ε I)} {log : List (Entry L C A)} {n : Nat}
    {i : I} {held : Option L} {q : C} {k : A q → Code σ L J C A ε Unit} (a : A q)
    (h : M.Orderly ⟨s, ws, log⟩ ph) (hn : ws[n]? = some ⟨i, held, .await (.command q) k⟩) :
    M.Orderly ⟨s, ws.set n ⟨i, held, k a⟩, log ++ [⟨n, held, ⟨q, a⟩⟩]⟩
      (Function.update ph n ((ph n).issue ⟨q, a⟩)) := by
  obtain ⟨hissues, hk⟩ := h.heeds n _ hn
  have hheld : (ph n).lock = held := h.held n _ hn
  have hset := h.heeds_set n ⟨i, held, k a⟩ (hk a) ((Phase.lock_issue _ _).trans hheld)
  have hunder (l : L) (hl : held ≠ some l) :
      Floor.under ⟨s, ws.set n ⟨i, held, k a⟩, log ++ [⟨n, held, ⟨q, a⟩⟩]⟩ l =
        Floor.under ⟨s, ws, log⟩ l := by simp [Floor.under, hl]
  have hback (m : Nat) (w : Worker σ L J C A ε I)
      (hm : (ws.set n ⟨i, held, k a⟩)[m]? = some w) :
      ∃ w₀, ws[m]? = some w₀ ∧ w₀.held = w.held := by
    rcases getElem?_set_cases hm with ⟨rfl, rfl⟩ | ⟨-, hm⟩
    · exact ⟨_, hn, rfl⟩
    · exact ⟨w, hm, rfl⟩
  refine ⟨fun m w hm ↦ (hset m w hm).1, fun m w hm ↦ (hset m w hm).2,
    fun m m' w w' l hm hm' hl hl' ↦ ?_, fun l hl ↦ ?_, fun m w l j v₀ v tr hm hph ↦ ?_,
    fun e he l hl ↦ ?_⟩
  · obtain ⟨w₀, hw₀, hheld₀⟩ := hback m w hm
    obtain ⟨w₁, hw₁, hheld₁⟩ := hback m' w' hm'
    exact h.alone m m' w₀ w₁ l hw₀ hw₁ (hheld₀.trans hl) (hheld₁.trans hl')
  · have hother : held ≠ some l := hl n ⟨i, held, k a⟩
      (by rw [List.getElem?_set_self (List.getElem?_eq_some_iff.mp hn).1])
    rw [hunder l hother]
    refine h.free l fun m w hm ↦ ?_
    by_cases hmn : m = n
    · subst hmn
      obtain rfl := Option.some.inj (hm.symm.trans hn)
      exact hother
    · exact hl m w (by rwa [List.getElem?_set_ne (fun hnm ↦ hmn hnm.symm)])
  · rcases getElem?_set_cases hm with ⟨rfl, rfl⟩ | ⟨hne, hold⟩
    · rw [Function.update_self] at hph
      cases hphm : ph m with
      | outside =>
          rw [hphm] at hph
          cases hph
      | inside l₀ j₀ u₀ u tr₀ =>
          rw [hphm] at hph hheld
          cases hph
          obtain ⟨hcell, v₁, bs, hserial, hlog⟩ := h.busy m _ _ _ _ _ _ hn hphm
          refine ⟨hcell, v₁, bs, hserial, ?_⟩
          subst hheld
          rw [List.map_append, ← List.append_assoc, ← hlog]
          simp [Floor.under, Phase.lock]
    · rw [Function.update_of_ne hne] at hph
      have hother : held ≠ some l := by
        intro hl
        exact hne (h.alone m n w _ l hold hn (h.held_of_inside hold hph) hl)
      rw [hunder l hother]
      exact h.busy m w l j v₀ v tr hold hph
  · rcases List.mem_append.mp he with he | he
    · exact h.owned e he l hl
    · obtain rfl := List.mem_singleton.mp he
      exact hheld.symm.trans (hissues l hl)

/-- The outside world moves. -/
theorem drift {s s' : σ} {ws : List (Worker σ L J C A ε I)} {log : List (Entry L C A)}
    (h : M.Orderly ⟨s, ws, log⟩ ph) (hcell : ∀ l, M.cell s' l = M.cell s l) :
    M.Orderly ⟨s', ws, log⟩ ph where
  heeds := h.heeds
  held := h.held
  alone := h.alone
  free l hl := by
    rw [hcell]
    exact h.free l hl
  busy n w l j v₀ v tr hn hph := by
    rw [hcell]
    exact h.busy n w l j v₀ v tr hn hph
  owned := h.owned

/-- **A step keeps the commands in order.** -/
theorem step (hstart : ∀ i, (S.handle i).Heeds M (fun _ ph ↦ ph = .outside) .outside)
    (hobject : ∀ s l, S.object s l → ∃ v, M.cell s l = some v)
    (hdrift : ∀ s s', S.drift s s' → ∀ l, M.cell s' l = M.cell s l) (h : M.Orderly c ph)
    (hs : S.Step c c') : ∃ ph', M.Orderly c' ph' := by
  cases hs with
  | start i => exact ⟨_, h.start (hstart i)⟩
  | @access s s' ws log n i held p p' hn ht =>
      have hcode := h.heeds n _ hn
      obtain ⟨f, k, rfl, ⟨hf, rfl⟩ | ⟨rfl, e, hf, rfl⟩⟩ := Prog.tick_cases ht
      · cases hphn : ph n with
        | outside =>
            rw [hphn] at hcode
            have hk := hcode s trivial
            simp only [hf] at hk
            obtain ⟨φ, hmoves, hk⟩ := hk
            exact ⟨_, h.access hn hk (hphn ▸ hmoves)⟩
        | inside l j v₀ v tr =>
            rw [hphn] at hcode
            have hk := hcode s (h.busy n _ _ _ _ _ _ hn hphn).1
            simp only [hf] at hk
            obtain ⟨φ, hmoves, hk⟩ := hk
            exact ⟨_, h.access hn hk (hphn ▸ hmoves)⟩
      · have hsees : M.Sees (ph n) s' := by
          cases hphn : ph n with
          | outside => trivial
          | inside l j v₀ v tr => exact (h.busy n _ _ _ _ _ _ hn hphn).1
        have hend := hcode s' hsees
        simp only [hf] at hend
        exact ⟨_, h.access hn hend (M.moves_self hsees)⟩
  | @acquire s ws log n i l j k hn hfree hl =>
      obtain ⟨v, hv⟩ := hobject _ _ hl
      exact ⟨_, h.acquire hn (fun m w hm ↦ hfree w (List.mem_of_getElem? hm)) hv⟩
  | release hn => exact ⟨_, h.release hn⟩
  | command hn a => exact ⟨_, h.command a hn⟩
  | drift hd => exact ⟨_, h.drift (hdrift _ _ hd)⟩

/-- Any number of steps. -/
theorem run (hstart : ∀ i, (S.handle i).Heeds M (fun _ ph ↦ ph = .outside) .outside)
    (hobject : ∀ s l, S.object s l → ∃ v, M.cell s l = some v)
    (hdrift : ∀ s s', S.drift s s' → ∀ l, M.cell s' l = M.cell s l) (h : M.Orderly c ph)
    (hrun : S.Run c c') : ∃ ph', M.Orderly c' ph' := by
  induction hrun with
  | refl => exact ⟨ph, h⟩
  | tail _ hs ih =>
      obtain ⟨ph', h'⟩ := ih
      exact h'.step hstart hobject hdrift hs

/-- Where nothing has happened yet. -/
theorem init (s : σ) : M.Orderly (⟨s, [], []⟩ : Floor σ L J C A ε I) fun _ ↦ .outside where
  heeds _ _ h := by simp at h
  held _ _ h := by simp at h
  alone _ _ _ _ _ h := by simp at h
  free l _ := ⟨[], rfl, fun _ ↦ rfl, fun v _ ↦ ⟨v, .nil v⟩⟩
  busy _ _ _ _ _ _ _ h := by simp at h
  owned _ h := by simp at h

/-- **The commands of an object are those of whole pieces of work**, one after the other, and of
the beginning of a piece under way, whose thread holds the mutex. -/
theorem serial [∀ c, Nonempty (A c)] (h : M.Orderly c ph) {l : L} {v : V}
    (hl : M.cell c.state l = some v) :
    ∃ v₀ v₁ bs cur, M.Serial l v₀ bs v₁ ∧ c.under l = bs.flatMap Piece.commands ++ cur ∧
      (c.Free l ∧ cur = [] ∧ v₁ = v ∨ ∃ w b rest v', c.workers[b.thread]? = some w ∧
        w.held = some l ∧ cur = Piece.commands b ∧
        M.work l b.work v₁ (b.exchanges ++ rest) v') := by
  by_cases hfree : c.Free l
  · obtain ⟨bs, hunder, -, hserial⟩ := h.free l hfree
    obtain ⟨v₀, hv₀⟩ := hserial v hl
    exact ⟨v₀, v, bs, [], hv₀, by rw [hunder, List.append_nil], .inl ⟨hfree, rfl, rfl⟩⟩
  · obtain ⟨n, w, hn, hheld⟩ : ∃ (n : Nat) (w : Worker σ L J C A ε I),
        c.workers[n]? = some w ∧ w.held = some l := by
      simpa [Floor.Free] using hfree
    have hlock := (h.held n w hn).trans hheld
    cases hph : ph n with
    | outside =>
        rw [hph] at hlock
        cases hlock
    | inside l₀ j v₀ v' tr =>
        rw [hph] at hlock
        obtain rfl : l₀ = l := Option.some.inj hlock
        obtain ⟨hcell, v₁, bs, hserial, hunder⟩ := h.busy n w _ _ _ _ _ hn hph
        have hcode := h.heeds n w hn
        rw [hph] at hcode
        obtain ⟨rest, v₂, hwork⟩ := hcode.completes (fun _ _ hout ↦ hout) hcell
        exact ⟨v₁, v₀, bs, tr.map (n, ·), hserial, hunder,
          .inr ⟨w, ⟨n, j, tr⟩, rest, v₂, hn, hheld, rfl, hwork⟩⟩

end Orderly

end Monitor

end Orderly

end HightowerPos.Async
