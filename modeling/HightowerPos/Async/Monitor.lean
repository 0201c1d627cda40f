import HightowerPos.Async.Threads
import Mathlib.Data.List.Flatten
import Mathlib.Logic.Function.Basic

/-!
# Monitors

Objects with a mutex each, on which threads work.  A thread takes the mutex of an object for a
piece of work, reads and writes the cell of the object and issues commands, and gives the mutex
back.  What it may do without a mutex is to look at the cells and to issue commands that belong
to no object.

* `Prog.Tells` is about the commands that a thread issues, with their answers, whatever the
  others do; what the programs keep so, the threads of every run keep (`Floor.Truthful.run`).
* `Prog.Heeds` asks of a program that it takes the mutexes that it needs.  `Monitor.work` says
  what a piece of work does to the cell of its object, and with which commands.
  `HightowerPos.Async.Orderly` is about runs in which all threads heed the mutexes.
-/

namespace HightowerPos.Async

variable {σ L J C V ε α β I : Type} {A : C → Type}

/-! ## Code that takes mutexes -/

/-- What a thread asks for: the mutex of `l` for the work `j`, to give the mutex back, or the
answer to a command. -/
inductive Op (L J C : Type)
  | acquire (l : L) (j : J)
  | release
  | command (c : C)

@[reducible] def Op.Answer (A : C → Type) : Op L J C → Type
  | .acquire _ _ | .release => Unit
  | .command c => A c

/-- The code of a thread. -/
abbrev Code (σ L J C : Type) (A : C → Type) (ε α : Type) :=
  Prog σ (Op L J C) (Op.Answer A) ε α

/-- A command with its answer. -/
abbrev Exchange (C : Type) (A : C → Type) := (c : C) × A c

/-- `with lock:`.  The mutex is given back where the body returns and where it raises. -/
def Code.holding (l : L) (j : J) (body : Code σ L J C A ε α) : Code σ L J C A ε α :=
  .await (.acquire l j) fun _ ↦
    (body.catching fun e ↦ .await .release fun _ ↦ .raise e) >>= fun a ↦
      .await .release fun _ ↦ .pure a

/-! ## Threads at work -/

/-- A thread: the request that it serves, the object whose mutex it holds, and the rest of its
code. -/
structure Worker (σ L J C : Type) (A : C → Type) (ε I : Type) where
  request : I
  held : Option L
  code : Code σ L J C A ε Unit

/-- A command that was issued: by which thread, under which mutex, and with which answer. -/
structure Entry (L C : Type) (A : C → Type) where
  thread : Nat
  lock : Option L
  exchange : Exchange C A

/-- A shared state, the threads at work on it, and the commands that were issued so far.  A
thread is known by its place among the threads. -/
structure Floor (σ L J C : Type) (A : C → Type) (ε I : Type) where
  state : σ
  workers : List (Worker σ L J C A ε I)
  log : List (Entry L C A)

/-- Requests served by threads. -/
structure Machine (σ L J C : Type) (A : C → Type) (ε I : Type) where
  handle : I → Code σ L J C A ε Unit
  /-- The objects that there are. -/
  object : σ → L → Prop
  reply : σ → (c : C) → A c → Prop
  drift : σ → σ → Prop

/-- One step. -/
inductive Machine.Step (S : Machine σ L J C A ε I) :
    Floor σ L J C A ε I → Floor σ L J C A ε I → Prop
  | /-- A request arrives. -/
    start {s : σ} {ws : List (Worker σ L J C A ε I)} {log : List (Entry L C A)} (i : I) :
      Step S ⟨s, ws, log⟩ ⟨s, ws ++ [⟨i, none, S.handle i⟩], log⟩
  | /-- A thread makes one access to the shared state. -/
    access {s s' : σ} {ws : List (Worker σ L J C A ε I)} {log : List (Entry L C A)} {n : Nat}
      {i : I} {held : Option L} {p p' : Code σ L J C A ε Unit} (hn : ws[n]? = some ⟨i, held, p⟩)
      (h : p.tick s = some (s', p')) : Step S ⟨s, ws, log⟩ ⟨s', ws.set n ⟨i, held, p'⟩, log⟩
  | /-- A thread takes a mutex that is free. -/
    acquire {s : σ} {ws : List (Worker σ L J C A ε I)} {log : List (Entry L C A)} {n : Nat}
      {i : I} {l : L} {j : J} {k : Unit → Code σ L J C A ε Unit}
      (hn : ws[n]? = some ⟨i, none, .await (.acquire l j) k⟩) (hfree : ∀ w ∈ ws, w.held ≠ some l)
      (hl : S.object s l) : Step S ⟨s, ws, log⟩ ⟨s, ws.set n ⟨i, some l, k ()⟩, log⟩
  | /-- A thread gives its mutex back. -/
    release {s : σ} {ws : List (Worker σ L J C A ε I)} {log : List (Entry L C A)} {n : Nat}
      {i : I} {l : L} {k : Unit → Code σ L J C A ε Unit}
      (hn : ws[n]? = some ⟨i, some l, .await .release k⟩) :
      Step S ⟨s, ws, log⟩ ⟨s, ws.set n ⟨i, none, k ()⟩, log⟩
  | /-- A command is answered. -/
    command {s : σ} {ws : List (Worker σ L J C A ε I)} {log : List (Entry L C A)} {n : Nat}
      {i : I} {held : Option L} {c : C} {k : A c → Code σ L J C A ε Unit}
      (hn : ws[n]? = some ⟨i, held, .await (.command c) k⟩) (a : A c) (ha : S.reply s c a) :
      Step S ⟨s, ws, log⟩ ⟨s, ws.set n ⟨i, held, k a⟩, log ++ [⟨n, held, ⟨c, a⟩⟩]⟩
  | /-- The outside world moves. -/
    drift {s s' : σ} {ws : List (Worker σ L J C A ε I)} {log : List (Entry L C A)}
      (h : S.drift s s') : Step S ⟨s, ws, log⟩ ⟨s', ws, log⟩

/-- Any number of steps. -/
abbrev Machine.Run (S : Machine σ L J C A ε I) :
    Floor σ L J C A ε I → Floor σ L J C A ε I → Prop := Relation.ReflTransGen S.Step

/-! ## What a thread has told -/

/-- The exchanges of a thread. -/
def Floor.told (c : Floor σ L J C A ε I) (n : Nat) : List (Exchange C A) :=
  (c.log.filter (·.thread = n)).map (·.exchange)

/-- After the exchanges `tr`, each further exchange of the program is `ok` after those before it;
`post` is asked of its end. -/
def Prog.Tells (ok : List (Exchange C A) → Exchange C A → Prop)
    (post : Except ε α → List (Exchange C A) → Prop) :
    Code σ L J C A ε α → List (Exchange C A) → Prop
  | .pure a, tr => post (.ok a) tr
  | .raise e, tr => post (.error e) tr
  | .atomic f k, tr => ∀ s, match f s with
      | .ok _ => (k s).Tells ok post tr
      | .error e => post (.error e) tr
  | .await (.acquire _ _) k, tr => (k ()).Tells ok post tr
  | .await .release k, tr => (k ()).Tells ok post tr
  | .await (.command c) k, tr => ∀ a, ok tr ⟨c, a⟩ ∧ (k a).Tells ok post (tr ++ [⟨c, a⟩])

section Tells

variable {ok : List (Exchange C A) → Exchange C A → Prop} {tr : List (Exchange C A)}

/-- Less is asked. -/
theorem Prog.Tells.mono {p : Code σ L J C A ε α}
    {ok' : List (Exchange C A) → Exchange C A → Prop}
    {post post' : Except ε α → List (Exchange C A) → Prop} (h : p.Tells ok post tr)
    (hok : ∀ tr x, ok tr x → ok' tr x) (hpost : ∀ r tr, post r tr → post' r tr) :
    p.Tells ok' post' tr := by
  induction p generalizing tr with
  | pure a => exact hpost _ _ h
  | raise e => exact hpost _ _ h
  | atomic f k ih =>
      intro s
      have hs := h s
      cases hf : f s with
      | ok s' =>
          simp only [hf] at hs
          exact ih s hs
      | error e =>
          simp only [hf] at hs
          exact hpost _ _ hs
  | await q k ih =>
      cases q with
      | acquire l j => exact ih () h
      | release => exact ih () h
      | command c => exact fun a ↦ ⟨hok _ _ (h a).1, ih a (h a).2⟩

/-- A sequence. -/
theorem tells_bind {p : Code σ L J C A ε α} {f : α → Code σ L J C A ε β}
    {post : Except ε β → List (Exchange C A) → Prop}
    (h : p.Tells ok (fun r tr ↦ match r with
      | .ok a => (f a).Tells ok post tr
      | .error e => post (.error e) tr) tr) : (p >>= f).Tells ok post tr := by
  induction p generalizing tr with
  | pure a => exact h
  | raise e => exact h
  | atomic u k ih =>
      intro s
      have hs := h s
      cases hu : u s with
      | ok s' =>
          simp only [hu] at hs
          exact ih s hs
      | error e => simpa only [hu] using hs
  | await q k ih =>
      cases q with
      | acquire l j => exact ih () h
      | release => exact ih () h
      | command c => exact fun a ↦ ⟨(h a).1, ih a (h a).2⟩

/-- An exception handler. -/
theorem tells_catching {p : Code σ L J C A ε α} {f : ε → Code σ L J C A ε α}
    {post : Except ε α → List (Exchange C A) → Prop}
    (h : p.Tells ok (fun r tr ↦ match r with
      | .ok a => post (.ok a) tr
      | .error e => (f e).Tells ok post tr) tr) : (p.catching f).Tells ok post tr := by
  induction p generalizing tr with
  | pure a => exact h
  | raise e => exact h
  | atomic u k ih =>
      intro s
      have hs := h s
      cases hu : u s with
      | ok s' =>
          simp only [hu] at hs ⊢
          exact ih s hs
      | error e =>
          simp only [hu] at hs ⊢
          exact hs
  | await q k ih =>
      cases q with
      | acquire l j => exact ih () h
      | release => exact ih () h
      | command c => exact fun a ↦ ⟨(h a).1, ih a (h a).2⟩

/-- A read. -/
theorem tells_read {f : σ → Code σ L J C A ε α} {post : Except ε α → List (Exchange C A) → Prop}
    (h : ∀ s, (f s).Tells ok post tr) : (Prog.read >>= f).Tells ok post tr := h

/-- Where nothing is asked. -/
theorem tells_any {p : Code σ L J C A ε α} {post : Except ε α → List (Exchange C A) → Prop}
    (hok : ∀ tr x, ok tr x) (hpost : ∀ r tr, post r tr) : p.Tells ok post tr := by
  induction p generalizing tr with
  | pure a => exact hpost _ _
  | raise e => exact hpost _ _
  | atomic f k ih =>
      intro s
      cases f s with
      | ok _ => exact ih s
      | error e => exact hpost _ _
  | await q k ih =>
      cases q with
      | acquire l j => exact ih ()
      | release => exact ih ()
      | command c => exact fun a ↦ ⟨hok _ _, ih a⟩

/-- The mutex is transparent. -/
theorem tells_holding {l : L} {j : J} {body : Code σ L J C A ε α}
    {post : Except ε α → List (Exchange C A) → Prop} (h : body.Tells ok post tr) :
    (Code.holding l j body).Tells ok post tr := by
  refine tells_bind (tells_catching (h.mono (fun _ _ hx ↦ hx) fun r tr hr ↦ ?_))
  cases r with
  | ok a => exact hr
  | error e => exact hr

end Tells

/-! ### Over a run -/

section Told

variable {S : Machine σ L J C A ε I} {c c' : Floor σ L J C A ε I}

/-- The thread `m` after the thread `n` was replaced. -/
theorem getElem?_set_cases {β : Type} {l : List β} {n m : Nat} {a b : β}
    (h : (l.set n a)[m]? = some b) : m = n ∧ b = a ∨ m ≠ n ∧ l[m]? = some b := by
  rw [List.getElem?_set] at h
  split at h
  · next hnm =>
      split at h
      · exact .inl ⟨hnm.symm, (Option.some.inj h).symm⟩
      · cases h
  · next hnm => exact .inr ⟨fun hmn ↦ hnm hmn.symm, h⟩

/-- The thread `m` after a thread was added. -/
theorem getElem?_concat_cases {β : Type} {l : List β} {m : Nat} {a b : β}
    (h : (l ++ [a])[m]? = some b) : m = l.length ∧ b = a ∨ l[m]? = some b := by
  rcases Nat.lt_trichotomy m l.length with hm | hm | hm
  · exact .inr (by rwa [List.getElem?_append_left hm] at h)
  · subst hm
    rw [List.getElem?_concat_length] at h
    exact .inl ⟨rfl, (Option.some.inj h).symm⟩
  · rw [List.getElem?_eq_none (by rw [List.length_append]; exact hm)] at h
    cases h

/-- Each exchange of a thread is as its request asks, and so will be its end. -/
structure Floor.Truthful (ok : I → List (Exchange C A) → Exchange C A → Prop)
    (post : I → List (Exchange C A) → Prop) (c : Floor σ L J C A ε I) : Prop where
  told : ∀ (n : Nat) (w : Worker σ L J C A ε I), c.workers[n]? = some w →
    (∀ pre x, pre ++ [x] <+: c.told n → ok w.request pre x) ∧
      w.code.Tells (ok w.request) (fun _ ↦ post w.request) (c.told n)
  known : ∀ e ∈ c.log, e.thread < c.workers.length

namespace Floor.Truthful

variable {ok : I → List (Exchange C A) → Exchange C A → Prop}
variable {post : I → List (Exchange C A) → Prop}

/-- What was asked of the end of a thread. -/
theorem ended (h : c.Truthful ok post) {n : Nat} {w : Worker σ L J C A ε I}
    (hn : c.workers[n]? = some w) (hend : w.code.Ended) : post w.request (c.told n) := by
  have htells := (h.told n w hn).2
  cases hcode : w.code with
  | pure _ | raise _ =>
      rw [hcode] at htells
      exact htells
  | atomic _ _ | await _ _ =>
      rw [hcode] at hend
      exact hend.elim

/-- A step that issues no command. -/
theorem set {s s' : σ} {ws : List (Worker σ L J C A ε I)} {log : List (Entry L C A)} {n : Nat}
    {i : I} {held held' : Option L} {p p' : Code σ L J C A ε Unit}
    (h : Floor.Truthful ok post ⟨s, ws, log⟩) (hn : ws[n]? = some ⟨i, held, p⟩)
    (hp : ∀ tr, p.Tells (ok i) (fun _ ↦ post i) tr → p'.Tells (ok i) (fun _ ↦ post i) tr) :
    Floor.Truthful ok post ⟨s', ws.set n ⟨i, held', p'⟩, log⟩ where
  told m w hm := by
    rcases getElem?_set_cases hm with ⟨rfl, rfl⟩ | ⟨-, hm⟩
    · obtain ⟨hok, htells⟩ := h.told _ _ hn
      exact ⟨hok, hp _ htells⟩
    · exact h.told m w hm
  known e he := by
    rw [List.length_set]
    exact h.known e he

theorem step (hstart : ∀ i, (S.handle i).Tells (ok i) (fun _ ↦ post i) [])
    (h : c.Truthful ok post) (hs : S.Step c c') : c'.Truthful ok post := by
  cases hs with
  | @start s ws log i =>
      refine ⟨fun m w hm ↦ ?_, fun e he ↦ ?_⟩
      · rcases getElem?_concat_cases hm with ⟨rfl, rfl⟩ | hm
        · -- a thread that is new has told nothing
          have hnew : Floor.told ⟨s, ws ++ [⟨i, none, S.handle i⟩], log⟩ ws.length = [] := by
            rw [Floor.told, List.map_eq_nil_iff, List.filter_eq_nil_iff]
            intro e he
            simpa using Nat.ne_of_lt (h.known e he)
          rw [hnew]
          exact ⟨fun pre x hpre ↦ by simpa using List.prefix_nil.mp hpre, hstart i⟩
        · exact h.told m w hm
      · rw [List.length_append]
        exact Nat.lt_add_right _ (h.known e he)
  | @access s s' ws log n i held p p' hn ht =>
      refine h.set hn fun tr htells ↦ ?_
      obtain ⟨f, k, rfl, ⟨hf, rfl⟩ | ⟨-, e, hf, rfl⟩⟩ := Prog.tick_cases ht
      · simpa only [Prog.Tells, hf] using htells s
      · simpa only [Prog.Tells, hf] using htells s
  | acquire hn => exact h.set hn fun tr htells ↦ htells
  | release hn => exact h.set hn fun tr htells ↦ htells
  | @command s ws log n i held q k hn a =>
      refine ⟨fun m w hm ↦ ?_, fun e he ↦ ?_⟩
      · rcases getElem?_set_cases hm with ⟨rfl, rfl⟩ | ⟨hne, hm⟩
        · obtain ⟨hok, htells⟩ := h.told _ _ hn
          have hnew : Floor.told ⟨s, ws.set m ⟨i, held, k a⟩, log ++ [⟨m, held, ⟨q, a⟩⟩]⟩ m =
              Floor.told ⟨s, ws, log⟩ m ++ [⟨q, a⟩] := by simp [Floor.told]
          rw [hnew]
          refine ⟨fun pre x hpre ↦ ?_, (htells a).2⟩
          rcases List.prefix_concat_iff.mp hpre with heq | hpre
          · obtain ⟨rfl, rfl⟩ := List.append_singleton_inj.mp heq
            exact (htells a).1
          · exact hok pre x hpre
        · have hold : Floor.told ⟨s, ws.set n ⟨i, held, k a⟩, log ++ [⟨n, held, ⟨q, a⟩⟩]⟩ m =
              Floor.told ⟨s, ws, log⟩ m := by simp [Floor.told, hne.symm]
          rw [hold]
          exact h.told m w hm
      · rw [List.length_set]
        rcases List.mem_append.mp he with he | he
        · exact h.known e he
        · obtain rfl := List.mem_singleton.mp he
          exact (List.getElem?_eq_some_iff.mp hn).1
  | drift => exact ⟨h.told, h.known⟩

/-- **What every program keeps of its own exchanges, the threads keep in every run.** -/
theorem run (hstart : ∀ i, (S.handle i).Tells (ok i) (fun _ ↦ post i) [])
    (h : c.Truthful ok post) (hrun : S.Run c c') : c'.Truthful ok post := by
  induction hrun with
  | refl => exact h
  | tail _ hs ih => exact ih.step hstart hs

end Floor.Truthful

end Told

/-! ## Pieces of work -/

/-- What is done under the mutexes. -/
structure Monitor (σ L J C V : Type) (A : C → Type) where
  /-- The cell of an object, where there is one. -/
  cell : σ → L → Option V
  /-- The object that a command belongs to. -/
  owner : C → Option L
  /-- A piece of work finds the cell as the one value, issues the commands and leaves the other
  value. -/
  work : L → J → V → List (Exchange C A) → V → Prop

/-- Where a thread is.  Inside, the piece of work has found the cell as `v₀`, has left it as `v`
so far and has issued the commands `tr`. -/
inductive Phase (L J C V : Type) (A : C → Type)
  | outside
  | inside (l : L) (j : J) (v₀ v : V) (tr : List (Exchange C A))

namespace Phase

/-- The object whose mutex is held. -/
def lock : Phase L J C V A → Option L
  | .outside => none
  | .inside l _ _ _ _ => some l

/-- A command was issued. -/
def issue : Phase L J C V A → Exchange C A → Phase L J C V A
  | .outside, _ => .outside
  | .inside l j v₀ v tr, x => .inside l j v₀ v (tr ++ [x])

@[simp] theorem lock_issue (ph : Phase L J C V A) (x : Exchange C A) :
    (ph.issue x).lock = ph.lock := by
  cases ph <;> rfl

end Phase

namespace Monitor

variable (M : Monitor σ L J C V A)

/-- The cell is as the thread has left it. -/
def Sees : Phase L J C V A → σ → Prop
  | .outside, _ => True
  | .inside l _ _ v _, s => M.cell s l = some v

/-- The cells of the objects but for that of `l`. -/
def Spares (l : Option L) (s s' : σ) : Prop :=
  ∀ l' v, l ≠ some l' → M.cell s l' = some v → M.cell s' l' = some v

/-- An access writes to no cell but that of the object whose mutex is held. -/
def Moves (s s' : σ) : Phase L J C V A → Phase L J C V A → Prop
  | .outside, ph => ph = .outside ∧ M.Spares none s s'
  | .inside l j v₀ _ tr, ph => ∃ v, ph = .inside l j v₀ v tr ∧ M.cell s' l = some v ∧
      M.Spares (some l) s s'

/-- A command that belongs to an object is issued under its mutex. -/
def Issues (ph : Phase L J C V A) (c : C) : Prop := ∀ l, M.owner c = some l → ph.lock = some l

end Monitor

/-- The program takes the mutexes that it needs, and what it does under a mutex is one of the
pieces of work. -/
def Prog.Heeds (M : Monitor σ L J C V A) (post : Except ε α → Phase L J C V A → Prop) :
    Code σ L J C A ε α → Phase L J C V A → Prop
  | .pure a, ph => post (.ok a) ph
  | .raise e, ph => post (.error e) ph
  | .atomic f k, ph => ∀ s, M.Sees ph s → match f s with
      | .ok s' => ∃ ph', M.Moves s s' ph ph' ∧ (k s).Heeds M post ph'
      | .error e => post (.error e) ph
  | .await (.acquire l j) k, ph => ph = .outside ∧ ∀ v, (k ()).Heeds M post (.inside l j v v [])
  | .await .release k, ph => match ph with
      | .outside => False
      | .inside l j v₀ v tr => M.work l j v₀ tr v ∧ (k ()).Heeds M post .outside
  | .await (.command c) k, ph => M.Issues ph c ∧ ∀ a, (k a).Heeds M post (ph.issue ⟨c, a⟩)

section Heeds

variable {M : Monitor σ L J C V A} {ph : Phase L J C V A}

/-- A weaker postcondition. -/
theorem Prog.Heeds.mono {p : Code σ L J C A ε α}
    {post post' : Except ε α → Phase L J C V A → Prop} (h : p.Heeds M post ph)
    (hpost : ∀ r ph, post r ph → post' r ph) : p.Heeds M post' ph := by
  induction p generalizing ph with
  | pure a => exact hpost _ _ h
  | raise e => exact hpost _ _ h
  | atomic f k ih =>
      intro s hs
      have hf := h s hs
      cases hfs : f s with
      | ok s' =>
          simp only [hfs] at hf ⊢
          obtain ⟨ph', hmoves, hk⟩ := hf
          exact ⟨ph', hmoves, ih s hk⟩
      | error e =>
          simp only [hfs] at hf ⊢
          exact hpost _ _ hf
  | await q k ih =>
      cases q with
      | acquire l j => exact ⟨h.1, fun v ↦ ih () (h.2 v)⟩
      | release =>
          cases ph with
          | outside => exact h.elim
          | inside l j v₀ v tr => exact ⟨h.1, ih () h.2⟩
      | command c => exact ⟨h.1, fun a ↦ ih a (h.2 a)⟩

/-- A sequence. -/
theorem heeds_bind {p : Code σ L J C A ε α} {f : α → Code σ L J C A ε β}
    {post : Except ε β → Phase L J C V A → Prop}
    (h : p.Heeds M (fun r ph ↦ match r with
      | .ok a => (f a).Heeds M post ph
      | .error e => post (.error e) ph) ph) : (p >>= f).Heeds M post ph := by
  induction p generalizing ph with
  | pure a => exact h
  | raise e => exact h
  | atomic u k ih =>
      intro s hs
      have hu := h s hs
      cases hus : u s with
      | ok s' =>
          simp only [hus] at hu ⊢
          obtain ⟨ph', hmoves, hk⟩ := hu
          exact ⟨ph', hmoves, ih s hk⟩
      | error e => simpa only [hus] using hu
  | await q k ih =>
      cases q with
      | acquire l j => exact ⟨h.1, fun v ↦ ih () (h.2 v)⟩
      | release =>
          cases ph with
          | outside => exact h.elim
          | inside l j v₀ v tr => exact ⟨h.1, ih () h.2⟩
      | command c => exact ⟨h.1, fun a ↦ ih a (h.2 a)⟩

/-- An access that writes nothing. -/
theorem Monitor.moves_self {s : σ} (h : M.Sees ph s) : M.Moves s s ph ph := by
  cases ph with
  | outside => exact ⟨rfl, fun _ _ _ hv ↦ hv⟩
  | inside l j v₀ v tr => exact ⟨v, rfl, h, fun _ _ _ hv ↦ hv⟩

/-- An access spares the cells of the other objects, and keeps the mutex. -/
theorem Monitor.Moves.spares {s s' : σ} {ph ph' : Phase L J C V A} (h : M.Moves s s' ph ph') :
    M.Spares ph.lock s s' ∧ ph'.lock = ph.lock := by
  cases ph with
  | outside =>
      obtain ⟨rfl, h⟩ := h
      exact ⟨h, rfl⟩
  | inside l j v₀ v tr =>
      obtain ⟨v', rfl, -, h⟩ := h
      exact ⟨h, rfl⟩

/-- An exception handler. -/
theorem heeds_catching {p : Code σ L J C A ε α} {f : ε → Code σ L J C A ε α}
    {post : Except ε α → Phase L J C V A → Prop}
    (h : p.Heeds M (fun r ph ↦ match r with
      | .ok a => post (.ok a) ph
      | .error e => (f e).Heeds M post ph) ph) : (p.catching f).Heeds M post ph := by
  induction p generalizing ph with
  | pure a => exact h
  | raise e => exact h
  | atomic u k ih =>
      intro s hs
      have hu := h s hs
      cases hus : u s with
      | ok s' =>
          simp only [hus] at hu ⊢
          obtain ⟨ph', hmoves, hk⟩ := hu
          exact ⟨ph', hmoves, ih s hk⟩
      | error e =>
          simp only [hus] at hu ⊢
          exact ⟨ph, M.moves_self hs, hu⟩
  | await q k ih =>
      cases q with
      | acquire l j => exact ⟨h.1, fun v ↦ ih () (h.2 v)⟩
      | release =>
          cases ph with
          | outside => exact h.elim
          | inside l j v₀ v tr => exact ⟨h.1, ih () h.2⟩
      | command c => exact ⟨h.1, fun a ↦ ih a (h.2 a)⟩

/-- Whatever was issued so far under a mutex is the beginning of a piece of work: some answers lead
to its end. -/
theorem Prog.Heeds.completes [∀ c, Nonempty (A c)] {p : Code σ L J C A ε α}
    {post : Except ε α → Phase L J C V A → Prop} {l : L} {j : J} {v₀ v : V}
    {tr : List (Exchange C A)} {s : σ} (h : p.Heeds M post (.inside l j v₀ v tr))
    (hpost : ∀ r ph, post r ph → ph = .outside) (hs : M.cell s l = some v) :
    ∃ rest v', M.work l j v₀ (tr ++ rest) v' := by
  induction p generalizing s v tr with
  | pure a => exact absurd (hpost _ _ h) (by simp)
  | raise e => exact absurd (hpost _ _ h) (by simp)
  | atomic f k ih =>
      have hf := h s hs
      cases hfs : f s with
      | ok s' =>
          simp only [hfs] at hf
          obtain ⟨ph', hmoves, hk⟩ := hf
          obtain ⟨v', rfl, hcell, -⟩ := hmoves
          exact ih s hk hcell
      | error e =>
          simp only [hfs] at hf
          exact absurd (hpost _ _ hf) (by simp)
  | await q k ih =>
      cases q with
      | acquire l' j' => exact absurd h.1 (by simp)
      | release => exact ⟨[], v, by rw [List.append_nil]; exact h.1⟩
      | command c =>
          obtain ⟨a⟩ := ‹∀ c, Nonempty (A c)› c
          obtain ⟨rest, v', hwork⟩ := ih a (h.2 a) hs
          exact ⟨⟨c, a⟩ :: rest, v', by rwa [List.append_assoc] at hwork⟩

/-- A read. -/
theorem heeds_read {f : σ → Code σ L J C A ε α} {post : Except ε α → Phase L J C V A → Prop}
    (h : ∀ s, M.Sees ph s → (f s).Heeds M post ph) : (Prog.read >>= f).Heeds M post ph :=
  fun s hs ↦ ⟨ph, M.moves_self hs, h s hs⟩

/-- A body under a mutex has to be a piece of work. -/
theorem heeds_holding {l : L} {j : J} {body : Code σ L J C A ε α}
    {post : Except ε α → Phase L J C V A → Prop}
    (h : ∀ v, body.Heeds M (fun r ph ↦ ∃ v' tr, ph = .inside l j v v' tr ∧ M.work l j v tr v' ∧
      post r .outside) (.inside l j v v [])) :
    (Code.holding l j body).Heeds M post .outside := by
  refine ⟨rfl, fun v ↦ heeds_bind (heeds_catching ((h v).mono fun r ph hr ↦ ?_))⟩
  obtain ⟨v', tr, rfl, hwork, hpost⟩ := hr
  cases r with
  | ok a => exact ⟨hwork, hpost⟩
  | error e => exact ⟨hwork, hpost⟩

end Heeds

end HightowerPos.Async
