import HightowerPos.Async.Threads
import HightowerPos.Commit

/-!
# Closing a session while sales are finalized

`close_session` runs in a thread of its own, the finalizations on the event loop.  Both read
the row of the session and write columns computed from what they have read; neither looks
again.  A session that is closed balances when no finalization writes to it in between, or
later.
-/

namespace HightowerPos.Drawer

open Async Relation

/-! ## The threads -/

/-- What is left of a finalization once Sentry has answered. -/
inductive Final
  | sale (txn : POSTransaction) (request : CheckoutRequest) (outcome : Attempts)
  | refund (txn original : POSTransaction) (request : RefundRequest) (outcome : Attempts)

namespace Final

/-- The transaction that is finalized. -/
def txn : Final → POSTransaction
  | sale txn _ _ => txn
  | refund txn _ _ _ => txn

/-- Sentry has accepted it, so that it is attributed to a session. -/
def Accepted (rt : Runtime) : Final → Prop
  | sale _ _ outcome => ∃ result, Sentry.createPosSo rt outcome = .ok result
  | refund _ _ _ outcome => ∃ result, Sentry.createPosRefund rt outcome = .ok result

/-- Its program. -/
def prog (D : Deployment) : Final → App Unit
  | sale txn request outcome => Checkout.finishSend D.runtime D.settings txn request outcome
  | refund txn original request outcome =>
      Refund.finishSend D.runtime D.settings txn original request outcome

/-- The finalization moves the cash of the drawer. -/
def MovesCash (f : Final) : Prop :=
  f.txn.paymentMethod = some .cash ∧ f.txn.totalCents ≠ 0

end Final

/-- A finalization under way. -/
structure Finalizing where
  final : Final
  /-- What is left of it. -/
  rest : App Unit
  /-- The state of its first access, in which it looks for the OPEN session. -/
  since : Option World := none

/-- After a turn in the state `w`. -/
def Finalizing.turned (t : Finalizing) (w : World) (p : App Unit) : Finalizing where
  final := t.final
  rest := p
  since := some (t.since.getD w)

/-- One thread that closes a session, and any number of finalizations. -/
structure Threads where
  state : World
  /-- The close has read the row. -/
  begun : Bool
  /-- What is left of the close. -/
  close : App Unit
  finals : List Finalizing

/-- The threads before their first access. -/
def Threads.start (D : Deployment) (w : World) (cashierId : String) (counts : Denominations)
    (renders : Bool) (finals : List Final) : Threads :=
  ⟨w, false, Till.closeSession cashierId counts renders, finals.map fun f ↦ ⟨f, f.prog D, none⟩⟩

/-- One turn of a thread; `G` says which turns of finalizations are considered. -/
inductive Threads.Step (G : Threads → Finalizing → World → Prop) : Threads → Threads → Prop
  | close {w w' : World} {b : Bool} {p p' : App Unit} {l : List Finalizing}
      (h : p.Turn World.send w w' p') : Step G ⟨w, b, p, l⟩ ⟨w', true, p', l⟩
  | final {w w' : World} {b : Bool} {p q : App Unit} {l r : List Finalizing} {t : Finalizing}
      (h : t.rest.Turn World.send w w' q) (hg : G ⟨w, b, p, l ++ t :: r⟩ t w') :
      Step G ⟨w, b, p, l ++ t :: r⟩ ⟨w', b, p, l ++ t.turned w q :: r⟩

/-- Any number of turns. -/
abbrev Threads.Run (G : Threads → Finalizing → World → Prop) : Threads → Threads → Prop :=
  ReflTransGen (Step G)

/-- The session is OPEN. -/
def OpenIn (x : Id) (w : World) : Prop := ∃ s, w.db.session x = some s ∧ s.status = .open

/-- A finalization that Sentry has accepted, of this cashier, and that has found the session OPEN
when it looked for it, commits while the session is still OPEN; and when it moves the cash, not
between the read and the commit of the close. -/
def Timely (D : Deployment) (x : Id) (cashierId : String) (c : Threads) (t : Finalizing)
    (w' : World) : Prop :=
  t.final.Accepted D.runtime → t.final.txn.cashierId = cashierId → w' ≠ c.state →
    OpenIn x (t.since.getD c.state) →
      OpenIn x c.state ∧ (t.final.MovesCash → c.begun = false ∨ c.close.Ended)

/-! ## What the threads do to the session -/

/-- The session is there, and is the only one that may be open for its cashier. -/
structure Facts (x : Id) (cashierId : String) (w : World) : Prop where
  row : ∃ s, w.db.session x = some s ∧ s.cashierId = cashierId
  only : ∀ {y s}, w.db.session y = some s → s.cashierId = cashierId → s.status = .open → y = x

/-- What a finalization does to the sessions, when its first access was made in `w₁`. -/
inductive FinalMove (D : Deployment) (x : Id) (cashierId : String) (f : Final) (w₁ : World) :
    World → World → Prop
  | other {w w' : World} (h : w'.db.tillSessions = w.db.tillSessions) :
      FinalMove D x cashierId f w₁ w w'
  | tally {w w' : World} {a : Till.Attribution}
      (h : w'.db.tillSessions = w.db.tillSessions.modify a.session.id a.tally)
      (hx : a.session.id = x →
        f.Accepted D.runtime ∧ f.txn.cashierId = cashierId ∧ OpenIn x w₁)
      (hm : a.txn.paymentMethod = f.txn.paymentMethod)
      (ht : a.txn.totalCents = f.txn.totalCents) : FinalMove D x cashierId f w₁ w w'

section Final

variable {D : Deployment} {x : Id} {cashierId : String}

/-- The commit of a finalization that is attributed to what it has read. -/
theorem FinalMove.attributed {f : Final} {held : POSTransaction} {isRefund : Bool}
    {w₁ w : World} {k : Option Till.Attribution → World} (hf : f.Accepted D.runtime)
    (hc : held.cashierId = f.txn.cashierId) (hm : held.paymentMethod = f.txn.paymentMethod)
    (ht : held.totalCents = f.txn.totalCents) (h₁ : Facts x cashierId w₁)
    (hnone : (k none).db.tillSessions = w.db.tillSessions)
    (hsome : ∀ a, (k (some a)).db.tillSessions =
      w.db.tillSessions.modify a.session.id a.tally) :
    FinalMove D x cashierId f w₁ w
      (k ((w₁.db.openSession held.cashierId).map fun s ↦ ⟨s, held, isRefund⟩)) := by
  cases hs : w₁.db.openSession held.cashierId with
  | none => exact .other hnone
  | some s =>
      obtain ⟨hsession, hcashier, hopen⟩ := Db.openSession_spec hs
      refine .tally (hsome ⟨s, held, isRefund⟩) (fun hx ↦ ?_) hm ht
      obtain rfl : s.id = x := hx
      refine ⟨hf, ?_, s, hsession, hopen⟩
      obtain ⟨s', hs', hc'⟩ := h₁.row
      obtain rfl := Option.some.inj (hsession.symm.trans hs')
      rw [← hc, ← hcashier, hc']

/-- What a finalization guarantees once its first access was made in `w₁`. -/
abbrev Finalizes (D : Deployment) (x : Id) (cashierId : String) (f : Final) (w₁ : World)
    (p : App Unit) : Prop :=
  p.Guarantees World.send (Facts x cashierId) (FinalMove D x cashierId f w₁) fun _ ↦ True

/-- What it guarantees from its first access on. -/
def Starts (D : Deployment) (x : Id) (cashierId : String) (f : Final) (p : App Unit) : Prop :=
  ∀ w₁ w' p', Facts x cashierId w₁ → p.Turn World.send w₁ w' p' →
    (w' = w₁ ∨ FinalMove D x cashierId f w₁ w₁ w') ∧ Finalizes D x cashierId f w₁ p'

theorem starts_of_finalizes {f : Final} {p : App Unit}
    (h : ∀ w₁, Finalizes D x cashierId f w₁ p) : Starts D x cashierId f p :=
  fun w₁ _ _ hw ht ↦ (h w₁).turn hw ht

/-- A finalization that begins with a read. -/
theorem starts_read {f : Final} {k : World → App Unit}
    (h : ∀ w₁, Facts x cashierId w₁ → Finalizes D x cashierId f w₁ (k w₁)) :
    Starts D x cashierId f (.atomic .ok k) := by
  intro w₁ w' p' hw ht
  obtain ⟨rfl, rfl⟩ := Prod.mk.inj (Option.some.inj ht.tick)
  exact ⟨.inl rfl, h w₁ hw⟩

theorem finalizes_bindText {f : Final} {w₁ : World} {text : PyStr} {p : String → App Unit}
    (hp : ∀ s, Finalizes D x cashierId f w₁ (p s)) :
    Finalizes D x cashierId f w₁ (App.bindText text >>= p) := by
  unfold App.bindText
  cases text.encode with
  | none => trivial
  | some s => exact hp s

theorem starts_sale {txn : POSTransaction} {request : CheckoutRequest} {outcome : Attempts} :
    Starts D x cashierId (.sale txn request outcome)
      (Checkout.finishSend D.runtime D.settings txn request outcome) := by
  unfold Checkout.finishSend
  cases hresult : Sentry.createPosSo D.runtime outcome with
  | ok result =>
      have hf : (Final.sale txn request outcome).Accepted D.runtime := ⟨result, hresult⟩
      refine starts_read fun w₁ h₁ w₂ _ ↦ ⟨.other rfl, fun w₃ _ ↦ ⟨?_, trivial⟩⟩
      exact .attributed (k := fun a ↦ Checkout.commitComplete _ _ a _ w₃) hf rfl rfl rfl h₁ rfl
        fun _ ↦ rfl
  | error e =>
      refine starts_of_finalizes fun w₁ ↦ ?_
      cases e with
      | sentryClient exc =>
          refine finalizes_bindText fun text w₂ _ ↦ ⟨.other rfl, fun w₃ _ ↦ ?_⟩
          exact ⟨.other rfl, fun w₄ _ ↦ ⟨.other rfl, fun _ ↦ trivial⟩⟩
      | _ => trivial

theorem starts_refund {txn original : POSTransaction} {request : RefundRequest}
    {outcome : Attempts} :
    Starts D x cashierId (.refund txn original request outcome)
      (Refund.finishSend D.runtime D.settings txn original request outcome) := by
  unfold Refund.finishSend
  cases hresult : Sentry.createPosRefund D.runtime outcome with
  | ok result =>
      have hf : (Final.refund txn original request outcome).Accepted D.runtime :=
        ⟨result, hresult⟩
      refine starts_read fun w₁ h₁ w₂ _ ↦ ⟨.other rfl, fun w₃ _ ↦ ⟨?_, trivial⟩⟩
      exact .attributed (k := fun a ↦ Refund.commitComplete _ _ _ a _ w₃) hf rfl rfl rfl h₁ rfl
        fun _ ↦ rfl
  | error e =>
      refine starts_of_finalizes fun w₁ ↦ ?_
      cases e with
      | sentryClient exc =>
          refine finalizes_bindText fun text w₂ _ ↦ ⟨.other rfl, fun w₃ _ ↦ ?_⟩
          exact ⟨.other rfl, fun w₄ _ ↦ ⟨.other rfl, fun _ ↦ trivial⟩⟩
      | _ => trivial

theorem starts_prog (f : Final) : Starts D x cashierId f (f.prog D) := by
  cases f with
  | sale => exact starts_sale
  | refund => exact starts_refund

/-- What a thread guarantees of a finalization. -/
def Finalizing.Keeps (D : Deployment) (x : Id) (cashierId : String) (t : Finalizing) : Prop :=
  match t.since with
  | none => Starts D x cashierId t.final t.rest
  | some w₁ => Finalizes D x cashierId t.final w₁ t.rest

/-- A turn of a finalization. -/
theorem Finalizing.Keeps.turn {t : Finalizing} {w w' : World} {p : App Unit}
    (h : t.Keeps D x cashierId) (hw : Facts x cashierId w) (ht : t.rest.Turn World.send w w' p) :
    (w' = w ∨ FinalMove D x cashierId t.final (t.since.getD w) w w') ∧
      (t.turned w p).Keeps D x cashierId := by
  obtain ⟨f, rest, since⟩ := t
  cases since with
  | none => exact h w w' p hw ht
  | some w₁ => exact Prog.Guarantees.turn h hw ht

/-- The rest of the close once it has committed. -/
def closeRest (x : Id) (renders : Bool) : App Unit := do
  let w ← Prog.read
  if renders then
    match w.db.session x with
    | some session => Till.tryRenderPdf session
    | none => .raise .assertion
  else return ()

/-- The rest of the close once it has read the row and counted the drawer. -/
def closeWrite (session : TillSession) (closingCount : Cents) (counts : Denominations)
    (renders : Bool) : App Unit := do
  App.commit fun w ↦ w.updateSession session.id (Till.closing session closingCount counts w.now)
  closeRest session.id renders

/-- The rest of the close once it has read the row. -/
def closeFrom (counts : Denominations) (renders : Bool) : Option TillSession → App Unit
  | none => .raise (.till .noOpenSession)
  | some session => match Till.denominationsToCents counts with
      | .error e => .raise (.till e)
      | .ok closingCount =>
          if ∀ n ∈ Till.closingIntegers session closingCount, App.FitsInteger n then
            closeWrite session closingCount counts renders
          else .raise .overflow

theorem closeSession_eq (counts : Denominations) (renders : Bool) :
    Till.closeSession cashierId counts renders =
      .atomic .ok fun w ↦ closeFrom counts renders (w.db.openSession cashierId) := by
  refine congrArg (Prog.atomic .ok) (funext fun w ↦ ?_)
  change (match w.db.openSession cashierId with | none => _ | some session => _) = _
  cases w.db.openSession cashierId with
  | none => rfl
  | some session =>
      simp only [closeFrom]
      cases Till.denominationsToCents counts with
      | error e => rfl
      | ok count =>
          simp only [Till.ofTill, Prog.pure_bind, App.bindIntegers]
          split <;> rfl

/-- The rest of the close writes the path of the report. -/
theorem closeRest_guarantees (renders : Bool) :
    (closeRest x renders).Guarantees World.send (Facts x cashierId)
      (fun w w' ↦ w' = w ∨ ∃ path, w' = w.updateSession x (Till.withPdfPath path))
      fun _ ↦ True := by
  unfold closeRest
  rw [Prog.read_bind]
  intro w _
  refine ⟨.inl rfl, ?_⟩
  cases renders with
  | false => trivial
  | true =>
      simp only [if_true]
      cases hs : w.db.session x with
      | none => trivial
      | some session =>
          obtain rfl : session.id = x := Table.key_of_get? hs
          change Prog.Guarantees _ _ _ _ (Till.tryRenderPdf session)
          unfold Till.tryRenderPdf
          rw [Prog.read_bind]
          intro w₁ _
          refine ⟨.inl rfl, ?_⟩
          beta_reduce
          cases w₁.db.posUsers.get? session.cashierId with
          | none => trivial
          | some user =>
              intro w₂ _
              refine ⟨.inl rfl, fun rendered ↦ ?_⟩
              cases rendered with
              | none => trivial
              | some path => exact fun w₃ _ ↦ ⟨.inr ⟨path, rfl⟩, trivial⟩

end Final

/-! ## The books of the session -/

/-- A CLOSED session balances. -/
structure Balanced (s : TillSession) : Prop where
  closed : s.status = .closed
  expected : s.expectedClosingCents =
    some (s.openingFloatCents + s.cashSalesCents - s.cashRefundsCents)
  variance : ∃ count expected, s.closingCountCents = some count ∧
    s.expectedClosingCents = some expected ∧ s.varianceCents = some (count - expected)

/-- The columns that the expected closing is computed from. -/
structure SameCash (s s' : TillSession) : Prop where
  float : s'.openingFloatCents = s.openingFloatCents
  sales : s'.cashSalesCents = s.cashSalesCents
  refunds : s'.cashRefundsCents = s.cashRefundsCents

/-- How far the close is, when the row is `s`. -/
inductive Stage (x : Id) (cashierId : String) (counts : Denominations) (renders : Bool)
    (s : TillSession) : Bool → App Unit → Prop
  | before (hs : s.status = .open) :
      Stage x cashierId counts renders s false (Till.closeSession cashierId counts renders)
  | failed (hs : s.status = .open) {e : PyExc} :
      Stage x cashierId counts renders s true (.raise e)
  | counted (hs : s.status = .open) {s₀ : TillSession} (hid : s₀.id = x) (hcash : SameCash s₀ s)
      {count : Cents} :
      Stage x cashierId counts renders s true (closeWrite s₀ count counts renders)
  | closed (hs : Balanced s) {p : App Unit}
      (hp : p.Guarantees World.send (Facts x cashierId)
        (fun w w' ↦ w' = w ∨ ∃ path, w' = w.updateSession x (Till.withPdfPath path))
        fun _ ↦ True) : Stage x cashierId counts renders s true p

/-- The invariant of the threads. -/
structure Closing (D : Deployment) (x : Id) (cashierId : String) (counts : Denominations)
    (renders : Bool) (c : Threads) : Prop where
  facts : Facts x cashierId c.state
  finals : ∀ t ∈ c.finals, t.Keeps D x cashierId
  stage : ∀ s, c.state.db.session x = some s →
    Stage x cashierId counts renders s c.begun c.close

section Steps

variable {D : Deployment} {x : Id} {cashierId : String} {counts : Denominations} {renders : Bool}

/-- A session that is changed in other columns. -/
theorem Facts.modify {w w' : World} (h : Facts x cashierId w) {y : Id} {v : TillUpdate}
    (hw : w'.db.tillSessions = w.db.tillSessions.modify y v)
    (hc : ∀ s, (v.set s).cashierId = s.cashierId)
    (hs : ∀ s, (v.set s).status = .open → s.status = .open) : Facts x cashierId w' := by
  obtain ⟨s, hrow, hcashier⟩ := h.row
  unfold Db.session at hrow
  constructor
  · unfold Db.session
    rw [hw, Table.get?_modify]
    by_cases hxy : x = y
    · subst hxy
      exact ⟨v.set s, by rw [if_pos rfl, hrow, Option.map_some], (hc s).trans hcashier⟩
    · exact ⟨s, by rw [if_neg hxy, hrow], hcashier⟩
  · intro z s' hs' hcs hos
    unfold Db.session at hs'
    rw [hw] at hs'
    rcases Table.of_get?_modify hs' with ⟨rfl, s₀, hs₀, rfl⟩ | ⟨-, hs₀⟩
    · exact h.only hs₀ ((hc s₀).symm.trans hcs) (hs s₀ hos)
    · exact h.only hs₀ hcs hos

/-- The row after a finalization: it is the same, or it is tallied. -/
theorem FinalMove.row {f : Final} {w₁ w w' : World} (h : FinalMove D x cashierId f w₁ w w')
    (hw : Facts x cashierId w) : Facts x cashierId w' ∧
      (w'.db.session x = w.db.session x ∨
        (f.Accepted D.runtime ∧ f.txn.cashierId = cashierId ∧ OpenIn x w₁) ∧
          ∃ s s', w.db.session x = some s ∧ w'.db.session x = some s' ∧ s'.status = s.status ∧
            (¬ f.MovesCash → SameCash s s')) := by
  cases h with
  | other h =>
      have hsame (y : Id) : w'.db.session y = w.db.session y := by
        unfold Db.session
        rw [h]
      exact ⟨⟨by rw [hsame]; exact hw.row, fun hs ↦ hw.only ((hsame _).symm.trans hs)⟩,
        .inl (hsame x)⟩
  | @tally a h hx hm ht =>
      refine ⟨hw.modify h (fun s ↦ (a.tally_set s).1) fun s hs ↦ (a.tally_set s).2.1 ▸ hs, ?_⟩
      by_cases hid : a.session.id = x
      · obtain ⟨s, hs, -⟩ := hw.row
        refine .inr ⟨hx hid, s, a.tally.set s, hs, ?_, (a.tally_set s).2.1, fun hcard ↦ ?_⟩
        · unfold Db.session at hs ⊢
          rw [h, hid, Table.get?_modify_self, hs, Option.map_some]
        · unfold Final.MovesCash at hcard
          rw [← hm, ← ht] at hcard
          obtain ⟨hsales, hrefunds⟩ := Till.Attribution.tally_set_cash hcard s
          exact ⟨(a.tally_set s).2.2, hsales, hrefunds⟩
      · unfold Db.session
        rw [h]
        exact .inl (Table.get?_modify_ne (Ne.symm hid))

theorem SameCash.trans {s s' s'' : TillSession} (h : SameCash s s') (h' : SameCash s' s'') :
    SameCash s s'' :=
  ⟨h'.float.trans h.float, h'.sales.trans h.sales, h'.refunds.trans h.refunds⟩

/-- A finalization that is timely does not disturb the close. -/
theorem Stage.tallied {b : Bool} {p : App Unit} {s s' : TillSession}
    (h : Stage x cashierId counts renders s b p) (hopen : s.status = .open)
    (hs : s'.status = s.status) (hcash : ¬ (b = false ∨ p.Ended) → SameCash s s') :
    Stage x cashierId counts renders s' b p := by
  cases h with
  | before => exact .before (hs.trans hopen)
  | failed => exact .failed (hs.trans hopen)
  | counted _ hid hsame =>
      refine .counted (hs.trans hopen) hid (hsame.trans (hcash ?_))
      rintro (h | h)
      · cases h
      · exact h
  | closed hbalanced => exact absurd (hopen.symm.trans hbalanced.closed) nofun

/-- The row after the path of the report was written. -/
theorem row_rendered {w : World} {path : String} {s : TillSession}
    (hs : w.db.session x = some s) :
    (w.updateSession x (Till.withPdfPath path)).db.session x =
      some { s with pdfPath := some path } :=
  Table.get?_modify_self.trans (congrArg _ hs)

/-- A turn of the close. -/
theorem Stage.turn {b : Bool} {p p' : App Unit} {w w' : World} {s : TillSession}
    (h : Stage x cashierId counts renders s b p) (hfacts : Facts x cashierId w)
    (hrow : w.db.session x = some s) (ht : p.Turn World.send w w' p') :
    Facts x cashierId w' ∧
      ∃ s', w'.db.session x = some s' ∧ Stage x cashierId counts renders s' true p' ∧
        (s.status = .closed → ∃ path, s' = { s with pdfPath := path }) := by
  cases h with
  | before hopen =>
      rw [closeSession_eq] at ht
      have htick := ht.tick
      simp only [Prog.tick, Option.some.injEq, Prod.mk.injEq] at htick
      obtain ⟨rfl, rfl⟩ := htick
      refine ⟨hfacts, s, hrow, ?_, fun hc ↦ (by cases hopen.symm.trans hc)⟩
      cases hs₀ : w.db.openSession cashierId with
      | none => exact .failed hopen
      | some s₀ =>
          obtain ⟨hsession, hc₀, ho₀⟩ := Db.openSession_spec hs₀
          obtain hid := hfacts.only hsession hc₀ ho₀
          rw [hid, hrow] at hsession
          obtain rfl := Option.some.inj hsession
          simp only [closeFrom]
          cases Till.denominationsToCents counts with
          | error e => exact .failed hopen
          | ok count =>
              simp only
              split
              · exact .counted hopen hid ⟨rfl, rfl, rfl⟩
              · exact .failed hopen
  | failed => cases ht with | access h => cases h
  | @counted hopen s₀ hid hcash count =>
      have htick := Prog.Turn.tick (k := fun _ ↦ closeRest s₀.id renders) ht
      simp only [Prog.tick, Option.some.injEq, Prod.mk.injEq] at htick
      obtain ⟨rfl, rfl⟩ := htick
      refine ⟨hfacts.modify rfl (fun _ ↦ rfl)
        (fun _ (h : TillStatus.closed = .open) ↦ (by cases h)), ?_⟩
      subst hid
      refine ⟨_, Table.get?_modify_self.trans (congrArg _ hrow), .closed ⟨rfl, ?_, ?_⟩
        (closeRest_guarantees renders), fun hc ↦ (by cases hopen.symm.trans hc)⟩
      · change some (Till.expectedClosing s₀) =
          some (s.openingFloatCents + s.cashSalesCents - s.cashRefundsCents)
        rw [hcash.float, hcash.sales, hcash.refunds]
        rfl
      · exact ⟨count, Till.expectedClosing s₀, rfl, rfl, rfl⟩
  | closed hbalanced hp =>
      obtain ⟨hmove, hp'⟩ := hp.turn hfacts ht
      rcases hmove with rfl | rfl | ⟨path, rfl⟩
      · exact ⟨hfacts, s, hrow, .closed hbalanced hp', fun _ ↦ ⟨s.pdfPath, rfl⟩⟩
      · exact ⟨hfacts, s, hrow, .closed hbalanced hp', fun _ ↦ ⟨s.pdfPath, rfl⟩⟩
      · refine ⟨hfacts.modify rfl (fun _ ↦ rfl) fun _ h ↦ h, _, row_rendered hrow, ?_,
          fun _ ↦ ⟨_, rfl⟩⟩
        have hrendered : Balanced { s with pdfPath := some path } :=
          ⟨hbalanced.closed, hbalanced.expected, hbalanced.variance⟩
        exact .closed hrendered hp'

/-- **A turn of a thread keeps the invariant**, and of a CLOSED session it changes the path
of the report only. -/
theorem Closing.step {c c' : Threads} (h : Closing D x cashierId counts renders c)
    (hs : Threads.Step (Timely D x cashierId) c c') :
    Closing D x cashierId counts renders c' ∧
      ∀ s, c.state.db.session x = some s → s.status = .closed →
        ∃ path, c'.state.db.session x = some { s with pdfPath := path } := by
  obtain ⟨s, hrow, -⟩ := h.facts.row
  cases hs with
  | @close w w' b p p' l ht =>
      obtain ⟨hfacts, s', hrow', hstage, hclosed⟩ := (h.stage s hrow).turn h.facts hrow ht
      refine ⟨⟨hfacts, h.finals, fun s₁ hs₁ ↦ ?_⟩, fun s₁ hs₁ hc ↦ ?_⟩
      · obtain rfl := Option.some.inj (hs₁.symm.trans hrow')
        exact hstage
      · obtain rfl := Option.some.inj (hs₁.symm.trans hrow)
        obtain ⟨path, rfl⟩ := hclosed hc
        exact ⟨path, hrow'⟩
  | @final w w' b p q l r t ht hg =>
      obtain ⟨hmove, hq⟩ := (h.finals t (by simp)).turn h.facts ht
      have hfinals : ∀ t' ∈ l ++ t.turned w q :: r, t'.Keeps D x cashierId := by
        intro t' ht'
        rcases List.mem_append.mp ht' with ht' | ht'
        · exact h.finals t' (List.mem_append_left _ ht')
        · rcases List.mem_cons.mp ht' with rfl | ht'
          · exact hq
          · exact h.finals t' (List.mem_append_right _ (List.mem_cons_of_mem _ ht'))
      -- the row is unchanged, or the finalization is timely
      have hsame (hfacts : Facts x cashierId w') (heq : w'.db.session x = w.db.session x) :
          Closing D x cashierId counts renders ⟨w', b, p, l ++ t.turned w q :: r⟩ ∧
            ∀ s, w.db.session x = some s → s.status = .closed →
              ∃ path, w'.db.session x = some { s with pdfPath := path } :=
        ⟨⟨hfacts, hfinals, fun s₁ hs₁ ↦ h.stage s₁ (heq.symm.trans hs₁)⟩,
          fun s₁ hs₁ _ ↦ ⟨s₁.pdfPath, heq.trans hs₁⟩⟩
      by_cases hw : w' = w
      · subst hw
        exact hsame h.facts rfl
      · have hmove' := hmove.resolve_left hw
        obtain ⟨hfacts, heq | ⟨⟨hf, hc, hfound⟩, s₀, s', hs₀, hs', hst, hcash⟩⟩ :=
          hmove'.row h.facts
        · exact hsame hfacts heq
        · obtain rfl := Option.some.inj (hs₀.symm.trans hrow)
          obtain ⟨⟨s₁, hs₁, hopen⟩, htimely⟩ := hg hf hc hw hfound
          obtain rfl := Option.some.inj (hs₁.symm.trans hrow)
          refine ⟨⟨hfacts, hfinals, fun s₂ hs₂ ↦ ?_⟩, fun s₂ hs₂ hclosed ↦ ?_⟩
          · obtain rfl := Option.some.inj (hs₂.symm.trans hs')
            refine (h.stage _ hrow).tallied hopen hst fun hnot ↦ hcash fun hm ↦ ?_
            exact hnot (htimely hm)
          · obtain rfl := Option.some.inj (hs₂.symm.trans hrow)
            exact absurd (hopen.symm.trans hclosed) nofun

/-- Any number of turns. -/
theorem Closing.run {c c' : Threads} (h : Closing D x cashierId counts renders c)
    (hrun : Threads.Run (Timely D x cashierId) c c') :
    Closing D x cashierId counts renders c' ∧
      ∀ s, c.state.db.session x = some s → s.status = .closed →
        ∃ path, c'.state.db.session x = some { s with pdfPath := path } := by
  induction hrun with
  | refl => exact ⟨h, fun s hs _ ↦ ⟨s.pdfPath, hs⟩⟩
  | tail _ hs ih =>
      obtain ⟨hc, hclosed⟩ := ih.1.step hs
      refine ⟨hc, fun s hrow hst ↦ ?_⟩
      obtain ⟨path, hrow'⟩ := ih.2 s hrow hst
      exact hclosed { s with pdfPath := path } hrow' hst

theorem Stage.balanced {b : Bool} {p : App Unit} {s : TillSession}
    (h : Stage x cashierId counts renders s b p) (hclosed : s.status = .closed) : Balanced s := by
  cases h with
  | before hs | failed hs | counted hs => exact absurd (hs.symm.trans hclosed) nofun
  | closed hbalanced => exact hbalanced

end Steps

/-- **A CLOSED session balances, and its row does not change any more**, for one close and
any number of finalizations in any order, when the finalizations that have found it OPEN are
timely; one that looks for it after the close finds no session. -/
theorem closed_session_balances (D : Deployment) {w : World} {s : TillSession}
    (hrow : w.db.session s.id = some s) (hopen : s.status = .open)
    (honly : ∀ y s', w.db.session y = some s' → s'.cashierId = s.cashierId →
      s'.status = .open → y = s.id)
    (counts : Denominations) (renders : Bool) (finals : List Final) {c : Threads}
    (h : Threads.Run (Timely D s.id s.cashierId)
      (.start D w s.cashierId counts renders finals) c)
    {s₁ : TillSession} (hrow₁ : c.state.db.session s.id = some s₁) (hclosed : s₁.status = .closed) :
    Balanced s₁ ∧ ∀ c', Threads.Run (Timely D s.id s.cashierId) c c' →
      ∃ path, c'.state.db.session s.id = some { s₁ with pdfPath := path } := by
  have hstart : Closing D s.id s.cashierId counts renders
      (.start D w s.cashierId counts renders finals) := by
    refine ⟨⟨⟨s, hrow, rfl⟩, fun h ↦ honly _ _ h⟩, fun t ht ↦ ?_, fun s' hs' ↦ ?_⟩
    · obtain ⟨f, -, rfl⟩ := List.mem_map.mp ht
      exact starts_prog f
    · obtain rfl := Option.some.inj (hs'.symm.trans hrow)
      exact .before hopen
  obtain ⟨hc, -⟩ := hstart.run h
  exact ⟨(hc.stage s₁ hrow₁).balanced hclosed, fun c' h' ↦ (hc.run h').2 s₁ hrow₁ hclosed⟩

/-! ## A sale that is finalized while the session is closed -/

/-- A sale of 10.81 that was paid in cash, and that Sentry has just accepted. -/
def accepted : POSTransaction :=
  { POSTransaction.sample .paymentSuccess with paymentMethod := some .cash }

/-- Another one. -/
def acceptedLate : Draft POSTransaction POSTransaction.id where
  build id := { accepted with id := id }

/-- The finalization of such a sale. -/
def finalization (txn : POSTransaction) : Final :=
  .sale txn (Checkout.buildCheckoutRequest txn .cash 0) (.ok (.order "SO-1"))

/-- Alice closes her till meanwhile. -/
def closingTime : Threads :=
  .start .sample ((World.atTill accepted).addTransaction acceptedLate) "alice" [("hundred", 1)]
    false [finalization accepted, finalization (acceptedLate.build 1)]

/-- One sale is finalized first.  The other one is finalized after the close, and belongs to no
session. -/
theorem closed_session_balances_in_time :
    ∃ c c' s₁, Threads.Run (Timely .sample 0 "alice") closingTime c ∧
      Threads.Run (Timely .sample 0 "alice") c c' ∧ c.state.db.session 0 = some s₁ ∧
      s₁.cashSalesCents = 1081 ∧ Balanced s₁ ∧
      (∃ path, c'.state.db.session 0 = some { s₁ with pdfPath := path }) ∧
      (c'.state.db.transaction 1).map (fun t ↦ (t.status, t.tillSessionId)) =
        some (.complete, none) := by
  have hread {c : Threads} {t : Finalizing} : Timely .sample 0 "alice" c t c.state :=
    fun _ _ h ↦ absurd rfl h
  have hrun : Threads.Run (Timely .sample 0 "alice") closingTime _ :=
    .tail (.tail (.tail (.tail (.tail .refl
      (.final (l := []) (.access rfl) hread)) (.final (l := []) (.access rfl) hread))
      (.final (l := []) (.access rfl) fun _ _ _ _ ↦ ⟨⟨_, rfl, rfl⟩, fun _ ↦ .inl rfl⟩))
      (.close (.access rfl))) (.close (.access rfl))
  have hafter {c : Threads} (_ : Threads.Run (Timely .sample 0 "alice") closingTime c) :
      Threads.Run (Timely .sample 0 "alice") c c := .refl
  have hfound := ((hafter hrun).tail (.final (l := [_]) (r := []) (.access rfl) hread)).tail
    (.final (l := [_]) (r := []) (.access rfl) hread)
  -- The session that it looked for was CLOSED, so that nothing is asked of its commit.
  have hlate := hfound.tail (.final (l := [_]) (r := []) (.access rfl) (by
    rintro _ _ _ ⟨s, hs, hopen⟩
    obtain rfl := Option.some.inj hs
    cases hopen))
  obtain ⟨hbalanced, hlasts⟩ := closed_session_balances .sample
    (w := (World.atTill accepted).addTransaction acceptedLate) (s := .sample) rfl rfl
    (fun y s' hs' _ _ ↦ (List.mem_singleton.mp (Table.mem_of_get? hs') ▸
      (Table.key_of_get? hs').symm)) [("hundred", 1)] false
    [finalization accepted, finalization (acceptedLate.build 1)] hrun rfl rfl
  exact ⟨_, _, _, hrun, hlate, rfl, rfl, hbalanced, hlasts _ hlate, rfl⟩

/-- The session is closed between the read and the commit of the finalization. -/
theorem closed_session_changes :
    ∃ c c' s₁ s₂, Threads.Run (fun _ _ _ ↦ True) closingTime c ∧
      Threads.Run (fun _ _ _ ↦ True) c c' ∧ c.state.db.session 0 = some s₁ ∧
      s₁.status = .closed ∧ c'.state.db.session 0 = some s₂ ∧ ¬ Balanced s₂ ∧
      s₂.cashSalesCents = s₁.cashSalesCents + 1081 := by
  have hclosed : Threads.Run (fun _ _ _ ↦ True) closingTime _ :=
    .tail (.tail (.tail .refl (.final (l := []) (.access rfl) trivial))
      (.close (.access rfl))) (.close (.access rfl))
  refine ⟨_, _, _, _, hclosed,
    .tail (.tail .refl (.final (l := []) (.access rfl) trivial))
      (.final (l := []) (.access rfl) trivial),
    rfl, rfl, rfl, fun h ↦ absurd h.expected (by decide +kernel), rfl⟩

end HightowerPos.Drawer
