import HightowerPos.Async.Pool
import HightowerPos.Async.Threads

/-!
# Segments of threads

A handler of a pool is not interrupted within a segment, a thread is at every access.  What a
program guarantees as a thread it guarantees in a pool as well, under any guard.
-/

namespace HightowerPos.Async

open Relation

variable {σ Q I ε : Type} {R : Q → Type}

/-- Whatever answer it gets, each waiting program goes on with moves of `P`. -/
def Config.Abides (send : Q → σ → σ) (P : σ → σ → Prop) (pool : List (Suspended σ Q R ε)) : Prop :=
  ∀ p ∈ pool, ∀ a, (p.resume a).Guarantees send (fun _ ↦ True) P fun _ ↦ True

section

variable {S : System σ Q R ε I} {G : Guard σ Q R I} {send : Q → σ → σ} {P : σ → σ → Prop}
  {c c' : Config σ Q R ε} {l r : List (Suspended σ Q R ε)}

/-- A segment is made of moves. -/
theorem Prog.Guarantees.advance {p : Prog σ Q R ε Unit}
    (h : p.Guarantees send (fun _ ↦ True) P fun _ ↦ True) (s : σ) :
    ReflTransGen P s (p.advance send s).1 ∧
      Config.Abides send P (p.advance send s).2.toList := by
  induction p generalizing s with
  | pure a => exact ⟨.refl, fun p hp ↦ absurd hp List.not_mem_nil⟩
  | raise e => exact ⟨.refl, fun p hp ↦ absurd hp List.not_mem_nil⟩
  | atomic f k ih =>
      have hf := h s trivial
      unfold Prog.advance
      cases hfs : f s with
      | ok s' =>
          rw [hfs] at hf
          obtain ⟨hmoves, hrest⟩ := ih s hf.2 s'
          exact ⟨.head hf.1 hmoves, hrest⟩
      | error e => exact ⟨.refl, fun p hp ↦ absurd hp List.not_mem_nil⟩
  | await q k ih =>
      obtain ⟨hsend, hk⟩ := h s trivial
      refine ⟨.single hsend, ?_⟩
      intro p hp
      obtain rfl := List.mem_singleton.mp hp
      exact hk

theorem Config.Abides.append (hl : Config.Abides send P l) (hr : Config.Abides send P r) :
    Config.Abides send P (l ++ r) := List.forall_mem_append.mpr ⟨hl, hr⟩

/-- **A run of a pool is made of the moves of its programs**, and of those of the outside world. -/
theorem Config.Abides.run
    (hstart : ∀ i, (S.handle i).Guarantees S.send (fun _ ↦ True) P fun _ ↦ True)
    (hresend : ∀ s q, S.resends q → P s (S.send q s))
    (h : Config.Abides S.send P c.pool) (hrun : Run S G c c') :
    Config.Abides S.send P c'.pool ∧
      ReflTransGen (fun s s' ↦ P s s' ∨ S.drift s s') c.state c'.state := by
  have hmoves {s s' : σ} (h : ReflTransGen P s s') :
      ReflTransGen (fun s s' ↦ P s s' ∨ S.drift s s') s s' :=
    ReflTransGen.mono (fun _ _ ↦ .inl) _ _ h
  induction hrun with
  | refl => exact ⟨h, .refl⟩
  | tail _ hs ih =>
      obtain ⟨hpool, hreach⟩ := ih
      cases hs with
      | @start s l i hg =>
          obtain ⟨hseg, hrest⟩ := (hstart i).advance s
          exact ⟨hpool.append hrest, hreach.trans (hmoves hseg)⟩
      | @resume s l r p a ha hg =>
          obtain ⟨hl, hpr⟩ := List.forall_mem_append.mp hpool
          obtain ⟨hp, hr⟩ := List.forall_mem_cons.mp hpr
          obtain ⟨hseg, hrest⟩ := (hp a).advance s
          exact ⟨(Config.Abides.append hl hrest).append hr, hreach.trans (hmoves hseg)⟩
      | @kill s l r p hg =>
          obtain ⟨hl, hpr⟩ := List.forall_mem_append.mp hpool
          exact ⟨Config.Abides.append hl (List.forall_mem_cons.mp hpr).2, hreach⟩
      | resend p hq => exact ⟨hpool, hreach.tail (.inl (hresend _ _ hq))⟩
      | drift hd => exact ⟨hpool, hreach.tail (.inr hd)⟩

end

end HightowerPos.Async
