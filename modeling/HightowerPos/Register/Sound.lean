import HightowerPos.Register.Served

/-!
# What the register keeps track of

A sale of the register is unpaid (`Shop.Unpaid`) or may come to be paid.  The register keeps
track of the latter (`Sound`): of the sales of one cart at most one is not unpaid, and that one
is being charged, or is the one that the checkout store holds.  Here is what keeps this: a
segment of a handler (`Sound.segment`), a request that is sent (`Sound.send`), and a task that
is over (`Queued.settled`).
-/

namespace HightowerPos.Register

open Async

/-! ## Sales that are not paid -/

namespace Shop

/-- Nothing has been paid for the transaction, and no charge of it is under way. -/
def Unpaid (c : Shop) (x : Id) : Prop :=
  ∀ s, c.world.status x = some s → s ≠ .paymentInFlight ∧ s ∉ capturedStatuses ∧
    (s = .awaitingPayment → ∀ e ∈ c.exchanges, e.request.Charges x → e.response ≠ none)

/-- If the transaction is of the present cart, it is unpaid. -/
def Rests (c : Shop) (x : Id) : Prop := c.StartedFrom x c.client.clears → c.Unpaid x

/-- Sentry takes the orders, no cancel takes a payment back, and the register does not let go
of a sale of the present cart that may be paid. -/
def Terms.orderly (rt : Runtime) : Terms where
  answers c q a := match q, a with
    | .sentryCreatePosSo _, a => ¬ Refuses rt a
    | .windcaveCancel x, a => Sale.GoesOn a → ¬ c.Captured x
    | _, _ => True
  receives c task body := match task, body with
    | .cardCharge x, none => c.Rests x
    | .tender _, none | .cancelCash _, _ =>
        ∀ x, c.client.checkout.transactionId = some x → c.Rests x
    | _, _ => True

end Shop

/-! ## The requests of the register -/

theorem HttpRequest.sale_of_charges {r : HttpRequest} {x : Id} (h : r.Charges x) :
    r.sale = some x := by
  cases r with
  | chargeCard | chargeCash => exact congrArg some h
  | start | status | cancel => cases h

theorem HttpRequest.charges_unique {r : HttpRequest} {x y : Id} (hx : r.Charges x)
    (hy : r.Charges y) : x = y :=
  Option.some.inj ((sale_of_charges hx).symm.trans (sale_of_charges hy))

namespace Task

/-- The task waits for the response to the request. -/
def Fits (request : HttpRequest) : Task → Prop
  | .cardStart | .cashStart => request.sale = none
  | .cardCharge x => request = .chargeCard x
  | .tender x => ∃ amount, request = .chargeCash x amount
  | .tenderStatus x | .poll x => request = .status x
  | .cancelCash x | .cancelCard x => request = .cancel x

/-- The task waits for a sale to be started. -/
def starting : Task → Bool
  | .cardStart | .cashStart => true
  | _ => false

theorem paying_of_starting {t : Task} (h : t.starting = true) : t.paying = true := by
  cases t <;> first | rfl | cases h

theorem sale_of_starting {t : Task} {request : HttpRequest} (h : t.starting = true)
    (hfits : t.Fits request) : request.sale = none := by
  cases t <;> first | exact hfits | cases h

theorem paying_of_fits {t : Task} {x : Id} (h : t.Fits (.chargeCard x)) : t.paying = true := by
  cases t with
  | cardStart | cashStart => cases h
  | cardCharge => rfl
  | tender =>
      obtain ⟨_, h⟩ := h
      cases h
  | tenderStatus | cancelCash | cancelCard | poll => cases h

end Task

/-- The exchange waits for the response to a task of some kind. -/
def Exchange.Awaits (e : Exchange) (kind : Task → Bool) : Prop := e.task.any kind = true

theorem Exchange.awaits_of_task {e : Exchange} {kind : Task → Bool} {t : Task}
    (h : e.task = some t) (ht : kind t = true) : e.Awaits kind := by
  rw [Exchange.Awaits, h]
  exact ht

theorem Exchange.Awaits.paying {e : Exchange} (h : e.Awaits Task.starting) :
    e.Awaits Task.paying := by
  obtain ⟨t, htask, hstarting⟩ := (Option.any_eq_true _ _).mp h
  exact awaits_of_task htask (Task.paying_of_starting hstarting)

/-- Two requests that `PayPanel` does not wait for at once. -/
def Solo (e e' : Exchange) : Prop := ¬ (e.Awaits Task.paying ∧ e'.Awaits Task.paying)

theorem Solo.symm {e e' : Exchange} (h : Solo e e') : Solo e' e := fun ⟨h₁, h₂⟩ ↦ h ⟨h₂, h₁⟩

open Shop

/-- What is known of the requests and of the sales that they have started. -/
structure Queued (c : Shop) : Prop where
  carts : ∀ e ∈ c.exchanges, e.cart ≤ c.client.clears
  fits : ∀ e ∈ c.exchanges, ∀ t, e.task = some t → t.Fits e.request
  solo : c.exchanges.Pairwise Solo
  /-- no request is about a row that the register still waits for -/
  untold : ∀ e ∈ c.exchanges, ∀ x, e.row = some x → e.task ≠ none →
    ∀ e' ∈ c.exchanges, e'.request.sale ≠ some x
  /-- a sale is started where nothing of its cart is paid -/
  starts : ∀ e ∈ c.exchanges, e.Awaits Task.starting → ∀ y, c.StartedFrom y e.cart → c.Unpaid y
  once : ∀ n x y, c.StartedFrom x n → c.StartedFrom y n → c.Unpaid x ∨ c.Unpaid y ∨ x = y

/-- What is known of the checkout store. -/
structure Tended (c : Shop) : Prop where
  calm : c.pending Task.paying = true ∨ c.client.checkout.phase = .idle →
    c.client.checkout.transactionId = none
  offered : ∀ x, c.client.checkout.transactionId = some x → Offered c.world x
  answered : ∀ x, c.client.checkout.transactionId = some x → ∀ e ∈ c.exchanges,
    (e.request = .chargeCard x → e.response ≠ none) ∧
    (e.row = some x → e.task = none ∧ e.response ≠ none)
  cash : c.client.checkout.phase = .tenderingCash → ∀ x,
    c.client.checkout.transactionId = some x → ∀ n y, c.StartedFrom x n → c.StartedFrom y n →
    y ≠ x → c.Unpaid y
  /-- what may be paid of the present cart is not let go of -/
  kept : ∀ y, c.StartedFrom y c.client.clears → c.Unpaid y ∨
    (∃ e ∈ c.exchanges, e.task = some (.cardCharge y)) ∨
    c.client.checkout.transactionId = some y ∧
      (c.client.checkout.phase = .result → c.client.checkout.status = some .complete)

/-- What is known of the register and the service. -/
structure Sound (D : Deployment) (c : Shop) : Prop where
  served : Served D c.world c.exchanges
  queued : Queued c
  tended : Tended c

section Order

variable {D : Deployment} {w : World} {client : Client} {es es' : List Exchange} {x : Id} {n : Nat}

theorem started_perm (hp : es.Perm es') :
    Shop.StartedFrom ⟨w, client, es⟩ x n ↔ Shop.StartedFrom ⟨w, client, es'⟩ x n := by
  simp only [StartedFrom, hp.mem_iff]

theorem unpaid_perm (hp : es.Perm es') :
    Shop.Unpaid ⟨w, client, es⟩ x ↔ Shop.Unpaid ⟨w, client, es'⟩ x := by
  simp only [Unpaid, hp.mem_iff]

/-- The order of the requests does not matter. -/
theorem Sound.perm (hp : es.Perm es') (h : Sound D ⟨w, client, es⟩) :
    Sound D ⟨w, client, es'⟩ := by
  obtain ⟨hserved, hqueued, htended⟩ := h
  refine ⟨hserved.perm hp, ?_, ?_⟩
  · obtain ⟨hcarts, hfits, hsolo, huntold, hstarts, honce⟩ := hqueued
    simp only [started_perm hp, unpaid_perm hp, hp.mem_iff] at hcarts hfits huntold hstarts honce
    exact ⟨hcarts, hfits, (hp.pairwise_iff Solo.symm).mp hsolo, huntold, hstarts, honce⟩
  · obtain ⟨hcalm, hoffered, hanswered, hcash, hkept⟩ := htended
    have hpending (kind : Task → Bool) :
        Shop.pending ⟨w, client, es⟩ kind = Shop.pending ⟨w, client, es'⟩ kind := hp.any_eq
    rw [hpending] at hcalm
    simp only [started_perm hp, unpaid_perm hp, hp.mem_iff] at hanswered hcash hkept
    exact ⟨hcalm, hoffered, hanswered, hcash, hkept⟩

end Order

/-! ## Segments -/

section Segments

variable {D : Deployment} {w w' : World} {client : Client} {e e' : Exchange} {o : List Exchange}
  {x y : Id} {n : Nat}

/-- A sale that the segment has started is unpaid. -/
theorem unpaid_of_started (hs : Segment D w w' e e' o x)
    (hsale : ∀ a ∈ e :: o, a.request.sale ≠ some x)
    (hstatus : ∀ s, w'.status x = some s → s ∈ startStatuses) :
    Shop.Unpaid ⟨w', client, e' :: o⟩ x := by
  intro s hx
  have hmem := hstatus s hx
  refine ⟨?_, ?_, fun _ a ha hcharges ↦ ?_⟩
  · rintro rfl
    revert hmem
    decide
  · revert hmem
    cases s <;> decide
  · obtain ⟨b, hb, hreq⟩ := hs.asked ha
    rw [← hreq] at hcharges
    exact absurd (HttpRequest.sale_of_charges hcharges) (hsale b hb)

/-- A sale that is over without a payment is not paid and waits for no payment. -/
theorem not_paid_of_unpaid {s : Status} (h : s ∈ unpaidStatuses) :
    s ≠ .paymentInFlight ∧ s ∉ capturedStatuses ∧ s ≠ .awaitingPayment := by
  revert h
  cases s <;> decide

theorem unpaid_of_not_paid {s : Status} (hoff : s ∈ offeredStatuses)
    (hflight : s ≠ .paymentInFlight) (hcaptured : s ∉ capturedStatuses)
    (hawaiting : s ≠ .awaitingPayment) : s ∈ unpaidStatuses := by
  revert hoff hflight hcaptured hawaiting
  cases s <;> decide

/-- What is unpaid stays so. -/
theorem unpaid_segment (h : Served D w (e :: o)) (hs : Segment D w w' e e' o x)
    (hy : Shop.Unpaid ⟨w, client, e :: o⟩ y) : Shop.Unpaid ⟨w', client, e' :: o⟩ y := by
  have hcharges {a : Exchange} (ha : a ∈ e' :: o) (hc : a.request.Charges y)
      (hresp : a.response = none) : ∃ b ∈ e :: o, b.request.Charges y ∧ b.response = none := by
    rcases List.mem_cons.mp ha with rfl | ha
    · exact ⟨e, List.mem_cons_self, hs.later.request ▸ hc, hs.later.response hresp⟩
    · exact ⟨a, List.mem_cons_of_mem _ ha, hc, hresp⟩
  by_cases hxy : y = x
  · subst hxy
    cases hs.change with
    | started _ hsale _ hstatus => exact unpaid_of_started hs hsale hstatus
    | moved hx hmoved =>
        obtain ⟨s, hoff, hxs⟩ := ((h.known e List.mem_cons_self).sale y hx).offered
        obtain ⟨s', hxs', hm⟩ := hmoved s hxs
        obtain ⟨hflight, hcaptured, hanswered⟩ := hy s hxs
        intro s₁ hs₁
        obtain rfl := Option.some.inj (hxs'.symm.trans hs₁)
        by_cases hawaiting : s = .awaitingPayment
        · subst hawaiting
          have hnot : ¬ e.Charging y := fun ⟨hc, hresp⟩ ↦
            hanswered rfl e List.mem_cons_self hc hresp
          rcases hm.awaiting hnot with rfl | rfl
          · refine ⟨by decide, by decide, fun _ a ha hc hresp ↦ ?_⟩
            obtain ⟨b, hb, hbc, hbresp⟩ := hcharges ha hc hresp
            exact hanswered rfl b hb hbc hbresp
          · exact ⟨by decide, by decide, nofun⟩
        · have hover := unpaid_of_not_paid hoff hflight hcaptured hawaiting
          obtain ⟨hflight', hcaptured', hawaiting'⟩ := not_paid_of_unpaid (hm.unpaid hover)
          exact ⟨hflight', hcaptured', fun h ↦ absurd h hawaiting'⟩
  · intro s hys
    have hsame : w'.status y = w.status y := hs.others y hxy
    obtain ⟨hflight, hcaptured, hanswered⟩ := hy s (hsame.symm.trans hys)
    refine ⟨hflight, hcaptured, fun hawaiting a ha hc hresp ↦ ?_⟩
    obtain ⟨b, hb, hbc, hbresp⟩ := hcharges ha hc hresp
    exact hanswered hawaiting b hb hbc hbresp

/-- A sale was started before, or by the segment. -/
theorem started_segment (hs : Segment D w w' e e' o x)
    (h : Shop.StartedFrom ⟨w', client, e' :: o⟩ y n) :
    Shop.StartedFrom ⟨w, client, e :: o⟩ y n ∨ y = x ∧ w.status x = none := by
  obtain ⟨a, ha, hrow, hcart⟩ := h
  rcases List.mem_cons.mp ha with rfl | ha
  · rcases hs.row with heq | ⟨heq, hnone⟩
    · exact .inl ⟨e, List.mem_cons_self, heq ▸ hrow, hs.later.cart ▸ hcart⟩
    · rw [heq] at hrow
      exact .inr ⟨(Option.some.inj hrow).symm, hnone⟩
  · exact .inl ⟨a, List.mem_cons_of_mem _ ha, hrow, hcart⟩

/-- The same, with what is known of it. -/
theorem started_or_unpaid (h : Served D w (e :: o)) (hs : Segment D w w' e e' o x)
    (hy : Shop.StartedFrom ⟨w', client, e' :: o⟩ y n) :
    Shop.StartedFrom ⟨w, client, e :: o⟩ y n ∨
      Shop.Unpaid ⟨w', client, e' :: o⟩ y ∧ w.status y = none := by
  refine (started_segment hs hy).imp_right ?_
  rintro ⟨rfl, hnone⟩
  refine ⟨?_, hnone⟩
  cases hs.change with
  | moved hx => exact absurd hnone (h.ne_none List.mem_cons_self (.inl hx))
  | started _ hsale _ hstatus => exact unpaid_of_started hs hsale hstatus

theorem offered_segment (hs : Segment D w w' e e' o x) (h : Offered w y) : Offered w' y := by
  by_cases hxy : y = x
  · subst hxy
    cases hs.change with
    | moved _ hmoved => exact hmoved.offered h
    | started hold =>
        obtain ⟨s, hoff, hys⟩ := h
        rw [hold s hys] at hoff
        exact absurd hoff (by decide)
  · rw [Offered, hs.others y hxy]
    exact h

theorem pending_segment (hs : Segment D w w' e e' o x) (kind : Task → Bool) :
    Shop.pending ⟨w', client, e' :: o⟩ kind = Shop.pending ⟨w, client, e :: o⟩ kind := by
  simp only [Shop.pending, List.any_cons, hs.later.task]

/-- **A segment of a handler.** -/
theorem Sound.segment (h : Sound D ⟨w, client, e :: o⟩) (hs : Segment D w w' e e' o x) :
    Sound D ⟨w', client, e' :: o⟩ := by
  obtain ⟨hserved, hqueued, htended⟩ := h
  have hunpaid {y : Id} (hy : Shop.Unpaid ⟨w, client, e :: o⟩ y) :
      Shop.Unpaid ⟨w', client, e' :: o⟩ y := unpaid_segment hserved hs hy
  have hstarted {y : Id} {n : Nat} (hy : Shop.StartedFrom ⟨w', client, e' :: o⟩ y n) :=
    started_or_unpaid hserved hs hy
  have hmem {a : Exchange} (ha : a ∈ o) : a ∈ e :: o := List.mem_cons_of_mem _ ha
  -- every request is an earlier one, but for its stage, its response and its row
  have hold {P : Exchange → Prop} (hP : ∀ a ∈ e :: o, P a)
      (he : P e → P e') : ∀ a ∈ e' :: o, P a :=
    List.forall_mem_cons.mpr ⟨he (hP e List.mem_cons_self), fun a ha ↦ hP a (hmem ha)⟩
  refine ⟨hserved.segment hs, ⟨?_, ?_, ?_, ?_, ?_, ?_⟩, ⟨?_, ?_, ?_, ?_, ?_⟩⟩
  · exact hold hqueued.carts fun he ↦ hs.later.cart ▸ he
  · refine hold hqueued.fits fun he t ht ↦ ?_
    rw [hs.later.request]
    exact he t (hs.later.task ▸ ht)
  · obtain ⟨halone, ho⟩ := List.pairwise_cons.mp hqueued.solo
    refine List.pairwise_cons.mpr ⟨fun a ha hboth ↦ halone a ha ?_, ho⟩
    exact ⟨by rw [Exchange.Awaits, ← hs.later.task]; exact hboth.1, hboth.2⟩
  · intro a ha y hrow htask b hb hsale
    obtain ⟨b', hb', hreq⟩ := hs.asked hb
    rw [← hreq] at hsale
    rcases List.mem_cons.mp ha with rfl | ha
    · rcases hs.row with heq | ⟨heq, hnone⟩
      · rw [hs.later.task] at htask
        exact hqueued.untold e List.mem_cons_self y (heq ▸ hrow) htask b' hb' hsale
      · obtain rfl := Option.some.inj (heq.symm.trans hrow)
        exact hserved.ne_none hb' (.inl hsale) hnone
    · exact hqueued.untold a (hmem ha) y hrow htask b' hb' hsale
  · have hstarts : ∀ a ∈ e' :: o, a.Awaits Task.starting →
        ∀ y, Shop.StartedFrom ⟨w, client, e :: o⟩ y a.cart → Shop.Unpaid ⟨w, client, e :: o⟩ y := by
      refine hold hqueued.starts fun he hawaits y hy ↦ ?_
      rw [Exchange.Awaits, hs.later.task] at hawaits
      exact he hawaits y (hs.later.cart ▸ hy)
    intro a ha hawaits y hy
    rcases hstarted hy with hy | ⟨hy, -⟩
    · exact hunpaid (hstarts a ha hawaits y hy)
    · exact hy
  · intro n y z hy hz
    rcases hstarted hy with hy | ⟨hy, -⟩
    · rcases hstarted hz with hz | ⟨hz, -⟩
      · exact (hqueued.once n y z hy hz).imp hunpaid (Or.imp_left hunpaid)
      · exact .inr (.inl hz)
    · exact .inl hy
  · rw [pending_segment hs]
    exact htended.calm
  · exact fun y hy ↦ offered_segment hs (htended.offered y hy)
  · intro y hy
    refine hold (htended.answered y hy) fun he ↦ ⟨fun hreq hresp ↦ ?_, fun hrow ↦ ?_⟩
    · rw [hs.later.request] at hreq
      exact he.1 hreq (hs.later.response hresp)
    · rcases hs.row with heq | ⟨heq, hnone⟩
      · obtain ⟨htask, hresp⟩ := he.2 (heq ▸ hrow)
        exact ⟨hs.later.task.trans htask, fun h ↦ hresp (hs.later.response h)⟩
      · obtain rfl := Option.some.inj (heq.symm.trans hrow)
        exact absurd hnone (htended.offered _ hy).ne_none
  · intro hphase z hz n y hzn hyn hne
    rcases hstarted hyn with hyn | ⟨hy, -⟩
    · rcases hstarted hzn with hzn | ⟨-, hnone⟩
      · exact hunpaid (htended.cash hphase z hz n y hzn hyn hne)
      · exact absurd hnone (htended.offered z hz).ne_none
    · exact hy
  · intro y hy
    rcases hstarted hy with hy | ⟨hy, -⟩
    · refine (htended.kept y hy).imp hunpaid (Or.imp_left ?_)
      rintro ⟨a, ha, htask⟩
      rcases List.mem_cons.mp ha with rfl | ha
      · exact ⟨e', List.mem_cons_self, hs.later.task.trans htask⟩
      · exact ⟨a, List.mem_cons_of_mem _ ha, htask⟩
    · exact .inl hy

end Segments

/-! ## Requests that are sent -/

/-- The exchange of a request that is sent. -/
def sending (client : Client) (t : Task) (r : HttpRequest) : Exchange where
  task := some t
  cart := client.clears
  request := r

/-- What a request about the sale `x` needs when it is sent. -/
structure Asks (w : World) (es : List Exchange) (t : Task) (r : HttpRequest) (x : Id) : Prop where
  offered : Offered w x
  fetching : t = .tenderStatus x → w.status x = some .complete
  told : ∀ a ∈ es, a.row = some x → a.task = none ∧ a.response ≠ none
  charged : ∀ a ∈ es, a.request = .chargeCard x → a.response ≠ none
  first : r = .chargeCard x → ∀ a ∈ es, a.request.sale ≠ some x

/-- What a request needs when it is sent. -/
structure Sends (c : Shop) (t : Task) (r : HttpRequest) : Prop where
  fits : t.Fits r
  asks : ∀ x, r.sale = some x → Asks c.world c.exchanges t r x
  solo : t.paying = true → ∀ a ∈ c.exchanges, ¬ a.Awaits Task.paying
  calm : t.paying = true → c.client.checkout.transactionId = none
  starts : t.starting = true → ∀ y, c.StartedFrom y c.client.clears → c.Unpaid y
  charges : ∀ x, r.Charges x → (∀ a ∈ c.exchanges, ¬ a.Awaits Task.starting) ∧
    ∀ n y, c.StartedFrom x n → c.StartedFrom y n → y ≠ x → c.Unpaid y
  kept : ∀ x, r.Charges x → t = .cardCharge x ∨
    c.client.checkout.transactionId = some x ∧ c.client.checkout.phase ≠ .result

section Sending

variable {D : Deployment} {w : World} {client : Client} {es : List Exchange} {t : Task}
  {r : HttpRequest} {y : Id} {n : Nat}

theorem started_send : Shop.StartedFrom ⟨w, client, sending client t r :: es⟩ y n ↔
    Shop.StartedFrom ⟨w, client, es⟩ y n := by
  constructor
  · rintro ⟨a, ha, hrow, hcart⟩
    rcases List.mem_cons.mp ha with rfl | ha
    · cases hrow
    · exact ⟨a, ha, hrow, hcart⟩
  · rintro ⟨a, ha, hrow, hcart⟩
    exact ⟨a, List.mem_cons_of_mem _ ha, hrow, hcart⟩

/-- What the request does not charge stays unpaid. -/
theorem unpaid_send (hr : ¬ r.Charges y) (h : Shop.Unpaid ⟨w, client, es⟩ y) :
    Shop.Unpaid ⟨w, client, sending client t r :: es⟩ y := by
  intro s hs
  obtain ⟨hflight, hcaptured, hanswered⟩ := h s hs
  refine ⟨hflight, hcaptured, fun hawaiting ↦ List.forall_mem_cons.mpr ⟨fun hc ↦ ?_, ?_⟩⟩
  · exact absurd hc hr
  · exact hanswered hawaiting

/-- What is known of a request that is sent. -/
theorem known_sending (hs : ∀ x, r.sale = some x → Asks w es t r x) :
    Known D w (sending client t r) where
  sale x hx :=
    { row := rfl
      offered := (hs x hx).offered
      sent := fun _ ↦ rfl
      waits := fun hstage ↦ by cases hstage
      tells := fun _ hb ↦ by cases hb
      fetching := fun _ htask ↦
        ⟨(hs x hx).fetching (Option.some.inj htask), fun _ _ hb ↦ by cases hb⟩ }
  start _ :=
    { sent := fun _ ↦ ⟨rfl, rfl⟩
      served := fun _ hstage ↦ by cases hstage
      tells := fun _ hb ↦ by cases hb }
  row _ hrow := by cases hrow

theorem Served.send (h : Served D w es) (hs : ∀ x, r.sale = some x → Asks w es t r x) :
    Served D w (sending client t r :: es) where
  known := List.forall_mem_cons.mpr ⟨known_sending hs, h.known⟩
  untold := by
    refine List.forall_mem_cons.mpr ⟨fun x hrow ↦ (by cases hrow), fun a ha x hrow hresp ↦ ?_⟩
    refine List.forall_mem_cons.mpr ⟨fun hx ↦ ?_, h.untold a ha x hrow hresp⟩
    exact ((hs x hx).told a ha hrow).2 hresp
  apart := by
    refine List.pairwise_cons.mpr ⟨fun a ha ↦ ?_, h.apart⟩
    refine ⟨fun x hrow ↦ (by cases hrow), fun x hreq _ ↦ ?_, fun x hreq hresp hx ↦ ?_⟩
    · have hreq : r = .chargeCard x := hreq
      have hsale : r.sale = some x := by rw [hreq]; rfl
      exact (hs x hsale).first hreq a ha
    · exact (hs x hx).charged a ha hreq hresp

/-- **A request is sent.** -/
theorem Sound.send (h : Sound D ⟨w, client, es⟩) (hs : Sends ⟨w, client, es⟩ t r) :
    Sound D ⟨w, client, sending client t r :: es⟩ := by
  obtain ⟨hserved, hqueued, htended⟩ := h
  refine ⟨hserved.send hs.asks, ⟨?_, ?_, ?_, ?_, ?_, ?_⟩, ⟨?_, ?_, ?_, ?_, ?_⟩⟩
  · exact List.forall_mem_cons.mpr ⟨le_refl client.clears, hqueued.carts⟩
  · refine List.forall_mem_cons.mpr ⟨fun t' ht ↦ ?_, hqueued.fits⟩
    obtain rfl := Option.some.inj ht
    exact hs.fits
  · refine List.pairwise_cons.mpr ⟨fun a ha hboth ↦ ?_, hqueued.solo⟩
    exact hs.solo hboth.1 a ha hboth.2
  · refine List.forall_mem_cons.mpr ⟨fun x hrow ↦ (by cases hrow), fun a ha x hrow htask ↦ ?_⟩
    refine List.forall_mem_cons.mpr ⟨fun hx ↦ ?_, hqueued.untold a ha x hrow htask⟩
    exact htask ((hs.asks x hx).told a ha hrow).1
  · refine List.forall_mem_cons.mpr ⟨fun hstarting y hy ↦ ?_, fun a ha hstarting y hy ↦ ?_⟩
    · have hnone : r.sale = none := Task.sale_of_starting hstarting hs.fits
      refine unpaid_send (fun hc ↦ ?_) (hs.starts hstarting y (started_send.mp hy))
      cases hnone.symm.trans (HttpRequest.sale_of_charges hc)
    · refine unpaid_send (fun hc ↦ ?_) (hqueued.starts a ha hstarting y (started_send.mp hy))
      exact (hs.charges y hc).1 a ha hstarting
  · intro n x y hx hy
    have hx := started_send.mp hx
    have hy := started_send.mp hy
    by_cases hcx : r.Charges x
    · by_cases hxy : y = x
      · exact .inr (.inr hxy.symm)
      · refine .inr (.inl (unpaid_send (fun hcy ↦ hxy ?_) ((hs.charges x hcx).2 n y hx hy hxy)))
        exact HttpRequest.charges_unique hcy hcx
    · by_cases hcy : r.Charges y
      · by_cases hxy : x = y
        · exact .inr (.inr hxy)
        · exact .inl (unpaid_send hcx ((hs.charges y hcy).2 n x hy hx hxy))
      · exact (hqueued.once n x y hx hy).imp (unpaid_send hcx) (Or.imp_left (unpaid_send hcy))
  · intro hcalm
    by_cases hpaying : t.paying = true
    · exact hs.calm hpaying
    · refine htended.calm (hcalm.imp_left fun hpending ↦ ?_)
      simpa [Shop.pending, sending, hpaying] using hpending
  · exact htended.offered
  · intro x hx
    refine List.forall_mem_cons.mpr ⟨⟨fun hreq ↦ ?_, fun hrow ↦ by cases hrow⟩,
      htended.answered x hx⟩
    have hreq : r = .chargeCard x := hreq
    have hnone := hs.calm (Task.paying_of_fits (hreq ▸ hs.fits))
    cases hx.symm.trans hnone
  · intro hphase x hx n y hxn hyn hne
    have hy := htended.cash hphase x hx n y (started_send.mp hxn) (started_send.mp hyn) hne
    refine unpaid_send (fun hc ↦ ?_) hy
    rcases hs.kept y hc with htask | ⟨hcheckout, -⟩
    · have hnone := hs.calm (htask ▸ rfl)
      cases hx.symm.trans hnone
    · exact hne (Option.some.inj (hcheckout.symm.trans hx))
  · intro y hy
    by_cases hc : r.Charges y
    · rcases hs.kept y hc with htask | ⟨hcheckout, hphase⟩
      · exact .inr (.inl ⟨sending client t r, List.mem_cons_self, congrArg some htask⟩)
      · exact .inr (.inr ⟨hcheckout, fun h ↦ absurd h hphase⟩)
    · refine (htended.kept y (started_send.mp hy)).imp (unpaid_send hc) (Or.imp_left ?_)
      exact fun ⟨a, ha, htask⟩ ↦ ⟨a, List.mem_cons_of_mem _ ha, htask⟩

end Sending

/-! ## Tasks that are over -/

/-- The task of the exchange is over. -/
def Exchange.settled (e : Exchange) : Exchange := { e with task := none }

section Settling

variable {D : Deployment} {w : World} {client client' : Client} {e : Exchange} {o : List Exchange}
  {y : Id} {n : Nat}

theorem started_settled : Shop.StartedFrom ⟨w, client', e.settled :: o⟩ y n ↔
    Shop.StartedFrom ⟨w, client, e :: o⟩ y n := by
  simp only [Shop.StartedFrom, List.mem_cons, exists_eq_or_imp]
  exact Iff.rfl

theorem unpaid_settled : Shop.Unpaid ⟨w, client', e.settled :: o⟩ y ↔
    Shop.Unpaid ⟨w, client, e :: o⟩ y := by
  unfold Shop.Unpaid
  simp only [List.forall_mem_cons]
  exact Iff.rfl

theorem Known.settled (h : Known D w e) : Known D w e.settled where
  sale x hx :=
    have hserving := h.sale x hx
    { row := hserving.row
      offered := hserving.offered
      sent := hserving.sent
      waits := fun hstage ↦
        have hwaits := hserving.waits hstage
        ⟨hwaits.payment, hwaits.sale, hwaits.fits, hwaits.goes, hwaits.ends⟩
      tells := hserving.tells
      fetching := fun _ htask ↦ by cases htask }
  start hnone := ⟨(h.start hnone).sent, (h.start hnone).served, (h.start hnone).tells⟩
  row := h.row

theorem Served.settled (h : Served D w (e :: o)) : Served D w (e.settled :: o) where
  known := by
    obtain ⟨he, ho⟩ := List.forall_mem_cons.mp h.known
    exact List.forall_mem_cons.mpr ⟨he.settled, ho⟩
  untold := by
    have huntold := h.untold
    simp only [List.forall_mem_cons] at huntold ⊢
    exact huntold
  apart := by
    obtain ⟨he, ho⟩ := List.pairwise_cons.mp h.apart
    exact List.pairwise_cons.mpr ⟨fun a ha ↦ ⟨(he a ha).rows, (he a ha).left, (he a ha).right⟩, ho⟩

theorem Queued.settled (h : Queued ⟨w, client, e :: o⟩) (hclears : client'.clears = client.clears) :
    Queued ⟨w, client', e.settled :: o⟩ where
  carts := by
    rw [hclears]
    have hcarts := h.carts
    simp only [List.forall_mem_cons] at hcarts ⊢
    exact hcarts
  fits := by
    obtain ⟨-, ho⟩ := List.forall_mem_cons.mp h.fits
    exact List.forall_mem_cons.mpr ⟨fun t ht ↦ (by cases ht), ho⟩
  solo := by
    obtain ⟨-, ho⟩ := List.pairwise_cons.mp h.solo
    refine List.pairwise_cons.mpr ⟨fun a ha hboth ↦ ?_, ho⟩
    cases hboth.1
  untold := by
    have huntold := h.untold
    simp only [List.forall_mem_cons] at huntold ⊢
    exact ⟨fun x hrow htask ↦ absurd rfl htask, huntold.2⟩
  starts := by
    obtain ⟨-, ho⟩ := List.forall_mem_cons.mp h.starts
    refine List.forall_mem_cons.mpr ⟨fun hstarting ↦ (by cases hstarting), ?_⟩
    intro a ha hstarting y hy
    exact unpaid_settled.mpr (ho a ha hstarting y (started_settled.mp hy))
  once n x y hx hy := by
    have honce := h.once n x y (started_settled.mp hx) (started_settled.mp hy)
    exact honce.imp unpaid_settled.mpr (Or.imp_left unpaid_settled.mpr)

/-! ### The checkout store -/

/-- The store holds no transaction. -/
theorem tended_of_none {c : Shop} (hnone : c.client.checkout.transactionId = none)
    (hkept : ∀ y, c.StartedFrom y c.client.clears → c.Unpaid y ∨
      ∃ e ∈ c.exchanges, e.task = some (.cardCharge y)) : Tended c where
  calm _ := hnone
  offered x hx := by cases hx.symm.trans hnone
  answered x hx := by cases hx.symm.trans hnone
  cash _ x hx := by cases hx.symm.trans hnone
  kept y hy := (hkept y hy).imp_right .inl

theorem pending_of_awaits {c : Shop} {a : Exchange} {kind : Task → Bool} (ha : a ∈ c.exchanges)
    (h : a.Awaits kind) : c.pending kind = true := List.any_eq_true.mpr ⟨a, ha, h⟩

/-- `PayPanel` waits for no other request. -/
theorem Queued.alone (h : Queued ⟨w, client, e :: o⟩) (hpaying : e.Awaits Task.paying) :
    Shop.pending ⟨w, client', e.settled :: o⟩ Task.paying = false := by
  refine List.any_eq_false.mpr (List.forall_mem_cons.mpr ⟨fun h ↦ (by cases h), ?_⟩)
  exact fun a ha hawaits ↦ (List.pairwise_cons.mp h.solo).1 a ha ⟨hpaying, hawaits⟩

/-- Where `PayPanel` waits for a request, nothing of the present cart is paid, but for what that
request charges. -/
theorem Sound.unpaid_of_paying (h : Sound D ⟨w, client, e :: o⟩) (hpaying : e.Awaits Task.paying)
    (hy : Shop.StartedFrom ⟨w, client, e :: o⟩ y client.clears) :
    Shop.Unpaid ⟨w, client, e :: o⟩ y ∨ e.task = some (.cardCharge y) := by
  refine (h.tended.kept y hy).imp_right ?_
  rintro (⟨a, ha, htask⟩ | ⟨htxn, -⟩)
  · rcases List.mem_cons.mp ha with rfl | ha
    · exact htask
    · have halone := (List.pairwise_cons.mp h.queued.solo).1 a ha
      exact absurd ⟨hpaying, by rw [Exchange.Awaits, htask]; rfl⟩ halone
  · have hnone := h.tended.calm (.inl (pending_of_awaits List.mem_cons_self hpaying))
    cases htxn.symm.trans hnone

/-- A payment that has failed, or a sale that is given up. -/
theorem Sound.let_go (h : Sound D ⟨w, client, e :: o⟩) {checkout : CheckoutState}
    (hnone : checkout.transactionId = none)
    (hrests : ∀ y, Shop.StartedFrom ⟨w, client, e :: o⟩ y client.clears →
      e.task = some (.cardCharge y) ∨ client.checkout.transactionId = some y →
      Shop.Unpaid ⟨w, client, e :: o⟩ y) :
    Sound D ⟨w, { client with checkout }, e.settled :: o⟩ := by
  refine ⟨h.served.settled, h.queued.settled rfl, tended_of_none hnone fun y hy ↦ ?_⟩
  have hstarted : Shop.StartedFrom ⟨w, client, e :: o⟩ y client.clears := started_settled.mp hy
  rcases h.tended.kept y hstarted with hunpaid | ⟨a, ha, htask⟩ | ⟨htxn, -⟩
  · exact .inl (unpaid_settled.mpr hunpaid)
  · rcases List.mem_cons.mp ha with rfl | ha
    · exact .inl (unpaid_settled.mpr (hrests y hstarted (.inl htask)))
    · exact .inr ⟨a, List.mem_cons_of_mem _ ha, htask⟩
  · exact .inl (unpaid_settled.mpr (hrests y hstarted (.inr htxn)))

/-- A task that is over without a payment of a card leaves the store as it is, or says that the
payment is finished. -/
theorem Sound.keep (h : Sound D ⟨w, client, e :: o⟩) {checkout : CheckoutState}
    (hcard : ∀ x, e.task ≠ some (.cardCharge x))
    (htxn : checkout.transactionId = client.checkout.transactionId)
    (hphase : checkout.phase = client.checkout.phase ∨ checkout.phase = .result)
    (hkept : ∀ y, Shop.StartedFrom ⟨w, client, e :: o⟩ y client.clears →
      client.checkout.transactionId = some y →
      (client.checkout.phase = .result → client.checkout.status = some .complete) →
      Shop.Unpaid ⟨w, client, e :: o⟩ y ∨
        (checkout.phase = .result → checkout.status = some .complete)) :
    Sound D ⟨w, { client with checkout }, e.settled :: o⟩ := by
  have htended := h.tended
  refine ⟨h.served.settled, h.queued.settled rfl, ⟨fun hcalm ↦ ?_, ?_, ?_, ?_, ?_⟩⟩
  · refine htxn.trans (htended.calm ?_)
    rcases hcalm with hpending | hidle
    · refine .inl ?_
      obtain ⟨a, ha, hawaits⟩ := List.any_eq_true.mp hpending
      rcases List.mem_cons.mp ha with rfl | ha
      · cases hawaits
      · exact pending_of_awaits (List.mem_cons_of_mem _ ha) hawaits
    · refine .inr ?_
      rcases hphase with hphase | hphase
      · exact hphase.symm.trans hidle
      · cases hphase.symm.trans hidle
  · exact fun x hx ↦ htended.offered x (htxn.symm.trans hx)
  · intro x hx
    obtain ⟨he, ho⟩ := List.forall_mem_cons.mp (htended.answered x (htxn.symm.trans hx))
    refine List.forall_mem_cons.mpr ⟨⟨he.1, fun hrow ↦ ⟨rfl, (he.2 hrow).2⟩⟩, ho⟩
  · intro hcash x hx n y hxn hyn hne
    have hcash : client.checkout.phase = .tenderingCash := by
      rcases hphase with hphase | hphase
      · exact hphase.symm.trans hcash
      · cases hphase.symm.trans hcash
    exact unpaid_settled.mpr (htended.cash hcash x (htxn.symm.trans hx) n y
      (started_settled.mp hxn) (started_settled.mp hyn) hne)
  · intro y hy
    have hstarted : Shop.StartedFrom ⟨w, client, e :: o⟩ y client.clears := started_settled.mp hy
    rcases htended.kept y hstarted with hunpaid | ⟨a, ha, htask⟩ | ⟨hy, hresult⟩
    · exact .inl (unpaid_settled.mpr hunpaid)
    · rcases List.mem_cons.mp ha with rfl | ha
      · exact absurd htask (hcard y)
      · exact .inr (.inl ⟨a, List.mem_cons_of_mem _ ha, htask⟩)
    · rcases hkept y hstarted hy hresult with hunpaid | hcomplete
      · exact .inl (unpaid_settled.mpr hunpaid)
      · exact .inr (.inr ⟨htxn.trans hy, hcomplete⟩)

end Settling

end HightowerPos.Register
