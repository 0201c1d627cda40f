import HightowerPos.Async.Pool
import HightowerPos.Async.Threads

/-!
# Crews of threads, and what a thread owes

A crew is a pool of threads over one shared state, each of which may be interrupted at
every access and at every await.  A thread may be dropped where it stands, and a restart
drops all of them.

Some threads *take* items of the shared state and have to give them back.  `Prog.Repays`
says of a program which of the items it has taken it still owes, at each of its accesses
and whatever other threads do between them.  When every thread that takes items repays
them, and is not dropped while it owes one, every item that is taken is owed by a thread
(`Debts.Covers`): where no such thread is under way, nothing is taken (`Debts.Covers.untaken`).
-/

namespace HightowerPos.Async

variable {σ Q I ι ε α β : Type} {R : Q → Type}

/-! ## Crews -/

/-- A thread: the request that it serves, and the rest of its program. -/
abbrev Thread (σ Q : Type) (R : Q → Type) (ε I : Type) := I × Prog σ Q R ε Unit

/-- A shared state with the threads that work on it. -/
structure Crew (σ Q : Type) (R : Q → Type) (ε I : Type) where
  state : σ
  threads : List (Thread σ Q R ε I)

/-- Which answers arrive, and which threads may be dropped. -/
structure Crew.Terms (σ Q : Type) (R : Q → Type) (ε I : Type) where
  answers : (q : Q) → R q → Prop
  drops : σ → Thread σ Q R ε I → Prop

/-- Everything may happen. -/
def Crew.Terms.free : Crew.Terms σ Q R ε I where
  answers _ _ := True
  drops _ _ := True

/-- One step of a crew. -/
inductive Crew.Step (S : System σ Q R ε I) (G : Crew.Terms σ Q R ε I) :
    Crew σ Q R ε I → Crew σ Q R ε I → Prop
  | /-- A request arrives. -/
    start {s : σ} {l : List (Thread σ Q R ε I)} (i : I) :
      Step S G ⟨s, l⟩ ⟨s, l ++ [(i, S.handle i)]⟩
  | /-- A thread makes one access. -/
    access {s s' : σ} {l r : List (Thread σ Q R ε I)} {i : I} {p p' : Prog σ Q R ε Unit}
      (h : p.tick s = some (s', p')) : Step S G ⟨s, l ++ (i, p) :: r⟩ ⟨s', l ++ (i, p') :: r⟩
  | /-- A call of a thread is answered. -/
    answer {s : σ} {l r : List (Thread σ Q R ε I)} {i : I} {q : Q} {k : R q → Prog σ Q R ε Unit}
      (a : R q) (ha : S.reply s q a) (hg : G.answers q a) :
      Step S G ⟨s, l ++ (i, .await q k) :: r⟩ ⟨S.send q s, l ++ (i, k a) :: r⟩
  | /-- A thread is dropped: its task is cancelled. -/
    drop {s : σ} {l r : List (Thread σ Q R ε I)} {t : Thread σ Q R ε I} (hg : G.drops s t) :
      Step S G ⟨s, l ++ t :: r⟩ ⟨s, l ++ r⟩
  | /-- The process dies and starts again. -/
    restart {s : σ} {l : List (Thread σ Q R ε I)} (hg : ∀ t ∈ l, G.drops s t) :
      Step S G ⟨s, l⟩ ⟨s, []⟩
  | /-- The outside world moves. -/
    drift {s s' : σ} {l : List (Thread σ Q R ε I)} (h : S.drift s s') : Step S G ⟨s, l⟩ ⟨s', l⟩

/-- Any number of steps of a crew. -/
abbrev Crew.Run (S : System σ Q R ε I) (G : Crew.Terms σ Q R ε I) :
    Crew σ Q R ε I → Crew σ Q R ε I → Prop := Relation.ReflTransGen (Step S G)

/-- The step is a turn of a thread that serves `i`. -/
def Crew.TurnOf (S : System σ Q R ε I) (i : I) (c c' : Crew σ Q R ε I) : Prop :=
  ∃ l r p p', c.threads = l ++ (i, p) :: r ∧ c'.threads = l ++ (i, p') :: r ∧
    p.Turn S.send c.state c'.state p'

/-! ## What every thread keeps -/

section Keeps

variable {S : System σ Q R ε I} {G : Crew.Terms σ Q R ε I} {J : σ → Prop}

/-- Every thread makes moves that its request allows, at states of `J`. -/
def Crew.Abides (S : System σ Q R ε I) (J : σ → Prop) (P : I → σ → σ → Prop)
    (c : Crew σ Q R ε I) : Prop :=
  ∀ t ∈ c.threads, t.2.Guarantees S.send J (P t.1) fun _ ↦ True

namespace Crew.Abides

variable {P : I → σ → σ → Prop} {c c' : Crew σ Q R ε I}

theorem nil (s : σ) : Crew.Abides S J P ⟨s, []⟩ := nofun

/-- **A step of a crew is a move of the thread whose turn it is**, or one of the outside world. -/
theorem turn (hstart : ∀ i, (S.handle i).Guarantees S.send J (P i) fun _ ↦ True)
    (h : c.Abides S J P) (hJ : J c.state) (hs : Crew.Step S G c c') :
    c'.Abides S J P ∧ (c'.state = c.state ∨ (∃ i, c.TurnOf S i c' ∧ P i c.state c'.state) ∨
      S.drift c.state c'.state) := by
  have hturn {s s' : σ} {l r : List (Thread σ Q R ε I)} {i : I} {p p' : Prog σ Q R ε Unit}
      (h : Crew.Abides S J P ⟨s, l ++ (i, p) :: r⟩) (hJ : J s) (ht : p.Turn S.send s s' p') :
      Crew.Abides S J P ⟨s', l ++ (i, p') :: r⟩ ∧ (s' = s ∨ P i s s') := by
    obtain ⟨hmove, hp'⟩ := (h (i, p) (by simp)).turn hJ ht
    refine ⟨fun t hmem ↦ ?_, hmove⟩
    rcases List.mem_append.mp hmem with hmem | hmem
    · exact h t (List.mem_append_left _ hmem)
    · rcases List.mem_cons.mp hmem with rfl | hmem
      · exact hp'
      · exact h t (List.mem_append_right _ (List.mem_cons_of_mem _ hmem))
  cases hs with
  | start i =>
      refine ⟨fun t hmem ↦ ?_, .inl rfl⟩
      rcases List.mem_append.mp hmem with hmem | hmem
      · exact h t hmem
      · obtain rfl := List.mem_singleton.mp hmem
        exact hstart i
  | @access s s' l r i p p' ht =>
      obtain ⟨habides, hmove⟩ := hturn h hJ (.access ht)
      exact ⟨habides, hmove.imp_right fun hm ↦ .inl ⟨i, ⟨l, r, p, p', rfl, rfl, .access ht⟩, hm⟩⟩
  | @answer s l r i q k a ha hg =>
      obtain ⟨habides, hmove⟩ := hturn h hJ (.answer a)
      exact ⟨habides, hmove.imp_right fun hm ↦
        .inl ⟨i, ⟨l, r, .await q k, k a, rfl, rfl, .answer a⟩, hm⟩⟩
  | @drop s l r t hg =>
      refine ⟨fun t' hmem ↦ h t' ?_, .inl rfl⟩
      rcases List.mem_append.mp hmem with hmem | hmem
      · exact List.mem_append_left _ hmem
      · exact List.mem_append_right _ (List.mem_cons_of_mem _ hmem)
  | restart => exact ⟨nofun, .inl rfl⟩
  | drift hd => exact ⟨h, .inr (.inr hd)⟩

/-- A step of a crew is a move of one of its threads, or one of the outside world. -/
theorem step (hstart : ∀ i, (S.handle i).Guarantees S.send J (P i) fun _ ↦ True)
    (h : c.Abides S J P) (hJ : J c.state) (hs : Crew.Step S G c c') :
    c'.Abides S J P ∧ (c'.state = c.state ∨ (∃ t ∈ c.threads, P t.1 c.state c'.state) ∨
      S.drift c.state c'.state) := by
  obtain ⟨habides, hmove⟩ := h.turn hstart hJ hs
  refine ⟨habides, hmove.imp_right (Or.imp_left ?_)⟩
  rintro ⟨i, ⟨l, r, p, p', hthreads, -, -⟩, hm⟩
  exact ⟨(i, p), by simp [hthreads], hm⟩

/-- The threads at the end of a run whose states are of `J`. -/
theorem run (hstart : ∀ i, (S.handle i).Guarantees S.send J (P i) fun _ ↦ True)
    (h : c.Abides S J P)
    (hJ : ∀ c₁, Crew.Run S G c c₁ → Crew.Run S G c₁ c' → J c₁.state)
    (hrun : Crew.Run S G c c') : c'.Abides S J P := by
  induction hrun with
  | refl => exact h
  | @tail c₁ c₂ hrun hs ih =>
      have habides := ih fun c₀ h₀ h₁ ↦ hJ c₀ h₀ (h₁.tail hs)
      exact (habides.step hstart (hJ c₁ hrun (.single hs)) hs).1

/-- What every move and the outside world keep, a run keeps. -/
theorem moves {K : σ → σ → Prop} (hrefl : ∀ s, K s s)
    (htrans : ∀ s s' s'', K s s' → K s' s'' → K s s'') (hmove : ∀ i s s', P i s s' → K s s')
    (hdrift : ∀ s s', S.drift s s' → K s s')
    (hstart : ∀ i, (S.handle i).Guarantees S.send J (P i) fun _ ↦ True)
    (hJ : ∀ s, J s) (h : c.Abides S J P) (hrun : Crew.Run S G c c') :
    c'.Abides S J P ∧ K c.state c'.state := by
  induction hrun with
  | refl => exact ⟨h, hrefl _⟩
  | tail _ hs ih =>
      obtain ⟨habides, hsame | ⟨t, -, hm⟩ | hd⟩ := ih.1.step hstart (hJ _) hs
      · exact ⟨habides, hsame ▸ ih.2⟩
      · exact ⟨habides, htrans _ _ _ ih.2 (hmove _ _ _ hm)⟩
      · exact ⟨habides, htrans _ _ _ ih.2 (hdrift _ _ hd)⟩

end Crew.Abides

variable {P : σ → σ → Prop}

/-- Every thread makes moves of `P` only. -/
def Crew.Keeps (S : System σ Q R ε I) (P : σ → σ → Prop) (c : Crew σ Q R ε I) : Prop :=
  ∀ t ∈ c.threads, t.2.Guarantees S.send (fun _ ↦ True) P fun _ ↦ True

theorem Crew.Keeps.step
    (hstart : ∀ i, (S.handle i).Guarantees S.send (fun _ ↦ True) P fun _ ↦ True)
    {c c' : Crew σ Q R ε I} (h : c.Keeps S P) (hs : Crew.Step S G c c') :
    c'.Keeps S P ∧ (c'.state = c.state ∨ P c.state c'.state ∨ S.drift c.state c'.state) := by
  have habides : c.Abides S (fun _ ↦ True) fun _ ↦ P := h
  obtain ⟨habides', hmove⟩ := habides.step hstart trivial hs
  exact ⟨habides', hmove.imp_right (Or.imp_left fun ⟨_, _, hm⟩ ↦ hm)⟩

end Keeps

/-! ## Debts -/

/-- Items of the shared state that are taken and given back. -/
structure Debts (σ Q : Type) (R : Q → Type) (I ι : Type) where
  /-- The item is taken. -/
  taken : σ → ι → Prop
  /-- The requests whose threads take items. -/
  takes : I → Prop
  /-- The calls at which such a thread owes nothing. -/
  rests : Q → Prop
  /-- The answers under which it gives back what it has taken. -/
  answers : (q : Q) → R q → Prop

/-- The program is over, or waits for a call at which it owes nothing. -/
def Prog.AtRest (rests : Q → Prop) : Prog σ Q R ε α → Prop
  | .pure _ | .raise _ => True
  | .atomic _ _ => False
  | .await q _ => rests q

/-- From now on `p`, which owes `d`, gives back what it takes; `post` is asked of what it
owes where it ends. -/
def Prog.Repays (B : Debts σ Q R I ι) (post : Except ε α → List ι → Prop) :
    Prog σ Q R ε α → List ι → Prop
  | .pure a, d => post (.ok a) d
  | .raise e, d => post (.error e) d
  | .atomic f k, d => ∀ s, match f s with
      | .ok s' => ∃ d', (∀ x, B.taken s' x → x ∈ d' ∨ (B.taken s x ∧ x ∉ d)) ∧
          (k s).Repays B post d'
      | .error e => post (.error e) d
  | .await q k, d => (B.rests q → d = []) ∧ ∀ a, B.answers q a → (k a).Repays B post d

section Rules

variable {B : Debts σ Q R I ι} {d : List ι}

/-- A read: what it shows to be given back is owed no more. -/
theorem repays_read {k : σ → Prog σ Q R ε α} {post : Except ε α → List ι → Prop}
    (h : ∀ s, ∃ d', (∀ x ∈ d, B.taken s x → x ∈ d') ∧ (k s).Repays B post d') :
    (Prog.atomic .ok k).Repays B post d := by
  intro s
  obtain ⟨d', hd, hk⟩ := h s
  refine ⟨d', fun x hx ↦ ?_, hk⟩
  by_cases hxd : x ∈ d
  · exact .inl (hd x hxd hx)
  · exact .inr ⟨hx, hxd⟩

/-- A call leaves what is owed. -/
theorem repays_call {q : Q} {f : R q → Prog σ Q R ε α} {post : Except ε α → List ι → Prop}
    (hrest : B.rests q → d = []) (hf : ∀ a, B.answers q a → (f a).Repays B post d) :
    (Prog.call q >>= f).Repays B post d := ⟨hrest, hf⟩

/-- A weaker postcondition. -/
theorem Prog.Repays.mono {p : Prog σ Q R ε α} {post post' : Except ε α → List ι → Prop}
    (h : p.Repays B post d) (hpost : ∀ r d, post r d → post' r d) : p.Repays B post' d := by
  induction p generalizing d with
  | pure a => exact hpost _ _ h
  | raise e => exact hpost _ _ h
  | atomic u k ih =>
      intro s
      have hu := h s
      cases hus : u s with
      | ok s' =>
          simp only [hus] at hu ⊢
          obtain ⟨d', hd, hk⟩ := hu
          exact ⟨d', hd, ih s hk⟩
      | error e =>
          simp only [hus] at hu ⊢
          exact hpost _ _ hu
  | await q k ih =>
      obtain ⟨hrest, hk⟩ := h
      exact ⟨hrest, fun a ha ↦ ih a (hk a ha)⟩

/-- A sequence: the second part starts with what the first one owes. -/
theorem repays_bind {p : Prog σ Q R ε α} {f : α → Prog σ Q R ε β}
    {post : Except ε β → List ι → Prop}
    (h : p.Repays B (fun r d ↦ match r with
      | .ok a => (f a).Repays B post d
      | .error e => post (.error e) d) d) : (p >>= f).Repays B post d := by
  induction p generalizing d with
  | pure a => exact h
  | raise e => exact h
  | atomic u k ih =>
      intro s
      have hu := h s
      cases hus : u s with
      | ok s' =>
          simp only [hus] at hu ⊢
          obtain ⟨d', hd, hk⟩ := hu
          exact ⟨d', hd, ih s hk⟩
      | error e => simpa only [hus] using hu
  | await q k ih =>
      obtain ⟨hrest, hk⟩ := h
      exact ⟨hrest, fun a ha ↦ ih a (hk a ha)⟩

/-- An exception handler starts with what is owed where the program raises. -/
theorem repays_catching {p : Prog σ Q R ε α} {f : ε → Prog σ Q R ε α}
    {post : Except ε α → List ι → Prop}
    (h : p.Repays B (fun r d ↦ match r with
      | .ok a => post (.ok a) d
      | .error e => (f e).Repays B post d) d) : (p.catching f).Repays B post d := by
  induction p generalizing d with
  | pure a => exact h
  | raise e => exact h
  | atomic u k ih =>
      intro s
      have hu := h s
      cases hus : u s with
      | ok s' =>
          simp only [hus] at hu
          obtain ⟨d', hd, hk⟩ := hu
          simp only [hus, Except.toOption, Option.getD_some]
          exact ⟨d', hd, ih s hk⟩
      | error e =>
          simp only [hus] at hu
          simp only [hus, Except.toOption, Option.getD_none]
          exact ⟨d, fun x hx ↦ (em (x ∈ d)).imp_right fun hxd ↦ ⟨hx, hxd⟩, hu⟩
  | await q k ih =>
      obtain ⟨hrest, hk⟩ := h
      exact ⟨hrest, fun a ha ↦ ih a (hk a ha)⟩

end Rules

/-! ## Every item that is taken is owed -/

section Covers

variable {S : System σ Q R ε I} {B : Debts σ Q R I ι}

/-- The thread owes `d`: it is one that takes items and repays them, or it takes none. -/
inductive Debts.Owes (S : System σ Q R ε I) (B : Debts σ Q R I ι) :
    Thread σ Q R ε I → List ι → Prop
  | taker {i : I} {p : Prog σ Q R ε Unit} {d : List ι} (hi : B.takes i)
      (hp : p.Repays B (fun _ d ↦ d = []) d) : Owes S B (i, p) d
  | other {i : I} {p : Prog σ Q R ε Unit}
      (hp : p.Guarantees S.send (fun _ ↦ True) (fun s s' ↦ ∀ x, B.taken s' x → B.taken s x)
        fun _ ↦ True) : Owes S B (i, p) []

/-- The thread takes items and is under way. -/
def Debts.Busy (B : Debts σ Q R I ι) (t : Thread σ Q R ε I) : Prop :=
  B.takes t.1 ∧ ¬ t.2.AtRest B.rests

/-- The calls are answered as the debts ask, and no thread that takes items is dropped
under way while an item is taken. -/
def Debts.terms (B : Debts σ Q R I ι) : Crew.Terms σ Q R ε I where
  answers := B.answers
  drops s t := B.Busy t → ∀ x, ¬ B.taken s x

/-- Every item that is taken is owed by a thread. -/
def Debts.Covers (S : System σ Q R ε I) (B : Debts σ Q R I ι) (c : Crew σ Q R ε I) : Prop :=
  ∃ ds, List.Forall₂ (B.Owes S) c.threads ds ∧ ∀ x, B.taken c.state x → ∃ d ∈ ds, x ∈ d

namespace Debts

/-- A thread that is not under way owes nothing. -/
theorem Owes.eq_nil {t : Thread σ Q R ε I} {d : List ι} (h : B.Owes S t d) (ht : ¬ B.Busy t) :
    d = [] := by
  cases h with
  | other hp => rfl
  | @taker i p d hi hp =>
      have hrest : p.AtRest B.rests := by
        by_contra hrest
        exact ht ⟨hi, hrest⟩
      cases p with
      | pure a => exact hp
      | raise e => exact hp
      | atomic f k => exact hrest.elim
      | await q k => exact hp.1 hrest

/-- What is owed after one access. -/
theorem Owes.access {i : I} {p p' : Prog σ Q R ε Unit} {s s' : σ} {d : List ι}
    (h : B.Owes S (i, p) d) (ht : p.tick s = some (s', p')) :
    ∃ d', B.Owes S (i, p') d' ∧ ∀ x, B.taken s' x → x ∈ d' ∨ (B.taken s x ∧ x ∉ d) := by
  cases h with
  | other hp =>
      obtain ⟨hmove, hp'⟩ := hp.turn trivial (.access ht)
      refine ⟨[], .other hp', fun x hx ↦ .inr ⟨?_, List.not_mem_nil⟩⟩
      rcases hmove with rfl | hmove
      · exact hx
      · exact hmove x hx
  | taker hi hp =>
      cases p with
      | pure a => cases ht
      | raise e => cases ht
      | await q k => cases ht
      | atomic f k =>
          have hf := hp s
          simp only [Prog.tick] at ht
          cases hfs : f s with
          | ok s₁ =>
              simp only [hfs] at hf ht
              cases ht
              obtain ⟨d', hd, hk⟩ := hf
              exact ⟨d', .taker hi hk, hd⟩
          | error e =>
              simp only [hfs] at hf ht
              cases ht
              subst hf
              exact ⟨[], .taker hi rfl, fun x hx ↦ .inr ⟨hx, List.not_mem_nil⟩⟩

/-- An answer leaves what is owed. -/
theorem Owes.answer {i : I} {q : Q} {k : R q → Prog σ Q R ε Unit} {d : List ι}
    (h : B.Owes S (i, .await q k) d) (a : R q) (ha : B.answers q a) (s : σ) :
    B.Owes S (i, k a) d := by
  cases h with
  | taker hi hp => exact .taker hi (hp.2 a ha)
  | other hp => exact .other ((hp s trivial).2 a)

/-- Threads that are not under way owe nothing. -/
theorem owed_nil {l : List (Thread σ Q R ε I)} {ds : List (List ι)}
    (h : List.Forall₂ (B.Owes S) l ds) (hl : ∀ t ∈ l, ¬ B.Busy t) : ∀ d ∈ ds, d = [] := by
  induction h with
  | nil => exact nofun
  | cons ht _ ih =>
      intro d hd
      rcases List.mem_cons.mp hd with rfl | hd
      · exact ht.eq_nil (hl _ (.head _))
      · exact ih (fun t hmem ↦ hl t (List.mem_cons_of_mem _ hmem)) d hd

/-- **A step keeps the items that are taken owed.** -/
theorem Covers.step (hstart : ∀ i, B.Owes S (i, S.handle i) [])
    (hsend : ∀ q s x, B.taken (S.send q s) x → B.taken s x)
    (hdrift : ∀ s s' x, S.drift s s' → B.taken s' x → B.taken s x) {c c' : Crew σ Q R ε I}
    (h : B.Covers S c) (hs : Crew.Step S B.terms c c') : B.Covers S c' := by
  obtain ⟨ds, hds, hcover⟩ := h
  cases hs with
  | start i =>
      refine ⟨ds ++ [[]], List.rel_append hds (.cons (hstart i) .nil), fun x hx ↦ ?_⟩
      obtain ⟨d, hd, hxd⟩ := hcover x hx
      exact ⟨d, List.mem_append_left _ hd, hxd⟩
  | access ht =>
      obtain ⟨l', d, r', rfl, hl, hp, hr⟩ := forall₂_split hds
      obtain ⟨d', hp', hmove⟩ := hp.access ht
      refine ⟨l' ++ d' :: r', List.rel_append hl (.cons hp' hr), fun x hx ↦ ?_⟩
      rcases hmove x hx with hxd | ⟨hx, hxd⟩
      · exact ⟨d', by simp, hxd⟩
      · -- another thread owes the item
        obtain ⟨e, he, hxe⟩ := hcover x hx
        rcases List.mem_append.mp he with he | he
        · exact ⟨e, List.mem_append_left _ he, hxe⟩
        · rcases List.mem_cons.mp he with rfl | he
          · exact absurd hxe hxd
          · exact ⟨e, List.mem_append_right _ (List.mem_cons_of_mem _ he), hxe⟩
  | @answer s l r i q k a ha hg =>
      obtain ⟨l', d, r', rfl, hl, hp, hr⟩ := forall₂_split hds
      exact ⟨l' ++ d :: r', List.rel_append hl (.cons (hp.answer a hg s) hr),
        fun x hx ↦ hcover x (hsend q s x hx)⟩
  | @drop s l r t hg =>
      obtain ⟨l', d, r', rfl, hl, hp, hr⟩ := forall₂_split hds
      refine ⟨l' ++ r', List.rel_append hl hr, fun x hx ↦ ?_⟩
      have hidle : ¬ B.Busy t := fun hbusy ↦ hg hbusy x hx
      obtain rfl := hp.eq_nil hidle
      obtain ⟨e, he, hxe⟩ := hcover x hx
      refine ⟨e, ?_, hxe⟩
      rcases List.mem_append.mp he with he | he
      · exact List.mem_append_left _ he
      · rcases List.mem_cons.mp he with rfl | he
        · exact absurd hxe List.not_mem_nil
        · exact List.mem_append_right _ he
  | @restart s l hg =>
      refine ⟨[], .nil, fun x hx ↦ ?_⟩
      obtain ⟨d, hd, hxd⟩ := hcover x hx
      have hnil : d = [] := owed_nil hds (fun t ht hbusy ↦ hg t ht hbusy x hx) d hd
      exact absurd (hnil ▸ hxd) List.not_mem_nil
  | drift hd => exact ⟨ds, hds, fun x hx ↦ hcover x (hdrift _ _ x hd hx)⟩

/-- Any number of steps. -/
theorem Covers.run (hstart : ∀ i, B.Owes S (i, S.handle i) [])
    (hsend : ∀ q s x, B.taken (S.send q s) x → B.taken s x)
    (hdrift : ∀ s s' x, S.drift s s' → B.taken s' x → B.taken s x) {c c' : Crew σ Q R ε I}
    (h : B.Covers S c) (hrun : Crew.Run S B.terms c c') : B.Covers S c' := by
  induction hrun with
  | refl => exact h
  | tail _ hs ih => exact ih.step hstart hsend hdrift hs

/-- **Where no thread that takes items is under way, nothing is taken.** -/
theorem Covers.untaken {c : Crew σ Q R ε I} (h : B.Covers S c)
    (hidle : ∀ t ∈ c.threads, ¬ B.Busy t) (x : ι) : ¬ B.taken c.state x := by
  intro hx
  obtain ⟨ds, hds, hcover⟩ := h
  obtain ⟨d, hd, hxd⟩ := hcover x hx
  have hnil : d = [] := owed_nil hds hidle d hd
  exact absurd (hnil ▸ hxd) List.not_mem_nil

end Debts

end Covers

end HightowerPos.Async
