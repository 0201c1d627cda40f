import HightowerPos.Register.Shop
import HightowerPos.Sale.Protocol
import HightowerPos.Sale.Stored

/-!
# Serving the register

What the handler of a request makes of the sale that the request is about (`Moves`), and what
is known of a request wherever its handler stands (`Serving`, `Starting`).  A segment of a
handler keeps both, as long as Sentry does not refuse the order of a paid sale and no cancel
takes effect on one.
-/

namespace HightowerPos.Register

open Async

/-! ## Statuses -/

/-- The statuses of a sale that the register was given. -/
def offeredStatuses : List Status :=
  [.awaitingPayment, .paymentInFlight, .paymentSuccess, .complete, .paymentFailed, .cancelled]

/-- The statuses of a sale that is over without a payment. -/
def unpaidStatuses : List Status := [.paymentFailed, .cancelled]

/-- What a segment makes of the status of its sale; a segment of a charge that has not been
answered may charge it. -/
inductive Moves (charging : Prop) : Status → Status → Prop
  | stays {s : Status} : Moves charging s s
  | charged {s : Status} (h : charging)
      (hs : s ∈ [.paymentSuccess, .paymentInFlight, .paymentFailed]) :
      Moves charging .awaitingPayment s
  | polled {s : Status} (hs : s ∈ [.paymentSuccess, .paymentFailed]) :
      Moves charging .paymentInFlight s
  | cancelled {s : Status}
      (hs : s ∈ [.awaitingPayment, .paymentInFlight, .paymentFailed, .cancelled]) :
      Moves charging s .cancelled
  | completed {s : Status} (hs : s ∈ [.paymentSuccess, .complete]) : Moves charging s .complete

namespace Moves

variable {charging : Prop} {s s' : Status}

theorem offered (h : Moves charging s s') (hs : s ∈ offeredStatuses) : s' ∈ offeredStatuses := by
  cases h with
  | stays => exact hs
  | charged _ h | polled h =>
      revert h
      cases s' <;> decide
  | cancelled | completed => decide

theorem paid (h : Moves charging s s') (hs : s = .paymentSuccess ∨ s = .complete) :
    s' = .paymentSuccess ∨ s' = .complete := by
  cases h with
  | stays => exact hs
  | completed => exact .inr rfl
  | charged | polled => simp at hs
  | cancelled h => rcases hs with rfl | rfl <;> simp at h

theorem complete (h : Moves charging .complete s') : s' = .complete := by
  cases h with
  | stays | completed => rfl
  | cancelled h => simp at h

theorem unpaid (h : Moves charging s s') (hs : s ∈ unpaidStatuses) : s' ∈ unpaidStatuses := by
  cases h with
  | stays => exact hs
  | cancelled => decide
  | charged | polled => simp [unpaidStatuses] at hs
  | completed h =>
      revert h hs
      cases s <;> decide

/-- A sale that waits for its payment is not charged by anything else. -/
theorem awaiting (h : Moves charging .awaitingPayment s') (hc : ¬ charging) :
    s' = .awaitingPayment ∨ s' = .cancelled := by
  cases h with
  | stays => exact .inl rfl
  | charged h => exact absurd h hc
  | cancelled => exact .inr rfl
  | completed h => simp at h

end Moves

/-! ## Requests -/

/-- The sale that a request is about. -/
def HttpRequest.sale : HttpRequest → Option Id
  | .start _ _ => none
  | .chargeCard x | .chargeCash x _ | .status x | .cancel x => some x

/-- The request charges the sale. -/
def HttpRequest.Charges (x : Id) : HttpRequest → Prop
  | .chargeCard y | .chargeCash y _ => y = x
  | _ => False

/-- The exchange is a charge of the sale, and has not been answered. -/
def Exchange.Charging (e : Exchange) (x : Id) : Prop := e.request.Charges x ∧ e.response = none

/-- Sentry refuses an order. -/
def Refuses (rt : Runtime) (outcome : Attempts) : Prop :=
  ∃ exc text, Sentry.createPosSo rt outcome = .error (.sentryClient exc) ∧
    (Checkout.errorText exc).encode = some text

/-- What the status of a sale says to a handler that waits for a call about it. -/
def Fits (e : Exchange) (s : Status) : Call → Prop
  | .windcaveCharge _ x => e.request = .chargeCard x ∧ e.response = none ∧ s = .awaitingPayment
  | .sentryCreatePosSo _ => s = .paymentSuccess ∨ s = .complete
  | .sentryLogInboundActivity _ _ _ => False
  | .respond x => e.request = .chargeCard x
  | _ => True

/-- An answer that takes no payment back. -/
def Regular (rt : Runtime) (s : Status) : (q : Call) → Answer q → Prop
  | .sentryCreatePosSo _, a => ¬ Refuses rt a
  | .windcaveCancel _, a => Sale.GoesOn a → s ∉ Shop.capturedStatuses
  | _, _ => True

/-- What is known where a segment of a payment handler begins. -/
def Ready (rt : Runtime) (e : Exchange) (s : Status) : Sale.Trig → Prop
  | .start (.chargeCard x) => e.request = .chargeCard x ∧ e.response = none
  | .start (.chargeCash x _) => e.Charging x
  | .start _ => True
  | .reply _ q a => Fits e s q ∧ Regular rt s q a

section Segment

variable {rt : Runtime} {e : Exchange} {t : Sale.Trig} {w w' : World} {o : Option Call} {x : Id}
  {s : Status}

theorem fits_none : ∀ φ ∈ (none : Option Call), Fits e s φ := by simp

/-- The status after what a card reader answered. -/
theorem outcome_status {txn : POSTransaction} {st : WindcaveStatusResponse}
    {u v : TransactionUpdate} (h : Sale.CardOutcome txn st u o) (hw : w.Updated x (v.andThen u) w')
    (hs : w.status x = some s) :
    ∃ s', w'.status x = some s' ∧ (s' = .paymentSuccess ∨ s' = .paymentFailed) ∧
      ∀ φ ∈ o, Fits e s' φ := by
  have hx : w.status x ≠ none := by simp [hs]
  cases h with
  | signature | declined =>
      exact ⟨.paymentFailed, hw.status (fun _ ↦ rfl) hx, .inr rfl, fits_none⟩
  | approved =>
      refine ⟨.paymentSuccess, hw.status (fun _ ↦ rfl) hx, .inl rfl, ?_⟩
      rintro _ ⟨⟩
      exact .inl rfl

/-- A segment of a payment handler. -/
theorem moves_of_segment (h : Sale.SaleSegment rt t w w' o) (hx : Sale.subject t = some x)
    (hs : w.status x = some s) (hoff : s ∈ offeredStatuses) (hready : Ready rt e s t) :
    ∃ s', w'.status x = some s' ∧ Moves (e.Charging x) s s' ∧ ∀ φ ∈ o, Fits e s' φ := by
  have hne : w.status x ≠ none := by simp [hs]
  have hrow {txn : POSTransaction} (h : w.db.transaction x = some txn) : s = txn.status :=
    Option.some.inj (hs.symm.trans (World.status_of_row h))
  have hstays (ho : ∀ φ ∈ o, Fits e s φ) :
      ∃ s', w.status x = some s' ∧ Moves (e.Charging x) s s' ∧ ∀ φ ∈ o, Fits e s' φ :=
    ⟨s, hs, .stays, ho⟩
  cases h with
  | refused | cardRaised | pollOver | pollRaised | pollAnsweredLate | cancelRaised | sentryRaised
  | logged => exact hstays fits_none
  | pollAsks _ hq =>
      refine hstays ?_
      rintro _ ⟨⟩
      rcases hq with ⟨_, rfl⟩ | rfl <;> trivial
  | pollWaits | cancelSent =>
      refine hstays ?_
      rintro _ ⟨⟩
      trivial
  | cashTaken hr hstatus _ hw =>
      obtain rfl := Option.some.inj hx
      rw [hrow hr, hstatus]
      refine ⟨.paymentSuccess, hw.status (fun _ ↦ rfl) hne, .charged hready (by simp), ?_⟩
      rintro _ ⟨⟩
      exact .inl rfl
  | cardPosted hr hstatus =>
      obtain rfl := Option.some.inj hx
      refine ⟨s, hs, .stays, ?_⟩
      rintro _ ⟨⟩
      exact ⟨hready.1, hready.2, (hrow hr).trans hstatus⟩
  | cardUnavailable hw =>
      obtain rfl := Option.some.inj hx
      obtain ⟨⟨hreq, hresp, rfl⟩, -⟩ := hready
      exact ⟨.paymentFailed, hw.status (fun _ ↦ rfl) hne,
        .charged ⟨by rw [hreq]; rfl, hresp⟩ (by simp), fits_none⟩
  | cardInFlight _ hw =>
      obtain rfl := Option.some.inj hx
      obtain ⟨⟨hreq, hresp, rfl⟩, -⟩ := hready
      refine ⟨.paymentInFlight, hw.status (fun _ ↦ rfl) hne,
        .charged ⟨by rw [hreq]; rfl, hresp⟩ (by simp), ?_⟩
      rintro _ ⟨⟩
      exact hreq
  | cardAnswered _ _ ho hw =>
      obtain rfl := Option.some.inj hx
      obtain ⟨⟨hreq, hresp, rfl⟩, -⟩ := hready
      obtain ⟨s', hs', hmem, hfits⟩ := outcome_status ho hw hs
      refine ⟨s', hs', .charged ⟨by rw [hreq]; rfl, hresp⟩ ?_, hfits⟩
      rcases hmem with rfl | rfl <;> simp
  | pollTimedOut ht hr hstatus hw =>
      obtain rfl := Option.some.inj (ht.subject_eq.symm.trans hx)
      rw [hrow hr, hstatus]
      exact ⟨.paymentFailed, hw.status (fun _ ↦ rfl) hne, .polled (by simp), fits_none⟩
  | pollAnswered _ hr hstatus ho hw =>
      obtain rfl := Option.some.inj hx
      obtain ⟨s', hs', hmem, hfits⟩ := outcome_status ho hw hs
      rw [hrow hr, hstatus]
      refine ⟨s', hs', .polled ?_, hfits⟩
      rcases hmem with rfl | rfl <;> simp
  | cancelled hr hstatus hw =>
      obtain rfl := Option.some.inj hx
      refine ⟨.cancelled, hw.status (fun _ ↦ rfl) hne, .cancelled ?_, fits_none⟩
      rw [hrow hr]
      rcases hstatus with h | ⟨h, -⟩ <;> simp [h]
  | cancelAnswered ha hw =>
      obtain rfl := Option.some.inj hx
      have hcaptured := hready.2 ha
      refine ⟨.cancelled, hw.status (fun _ ↦ rfl) hne, .cancelled ?_, fits_none⟩
      revert hoff hcaptured
      cases s <;> decide
  | completed _ hw =>
      obtain rfl := Option.some.inj hx
      exact ⟨.complete, hw.status (Checkout.completion_status _ _) hne,
        .completed (by rcases hready.1 with rfl | rfl <;> simp), fits_none⟩
  | sentryFailed hres htext => exact absurd ⟨_, _, hres, htext⟩ hready.2

/-- A segment that brings an order home completes its sale. -/
theorem complete_of_segment {req : CheckoutRequest} {a : Attempts} {result : CheckoutResult}
    {φ : Call} (h : Sale.SaleSegment rt (.reply φ (.sentryCreatePosSo req) a) w w' o)
    (ha : Sentry.createPosSo rt a = .ok result) (hs : w.status req.idempotencyKey ≠ none) :
    w'.status req.idempotencyKey = some .complete := by
  cases h with
  | completed _ hw => exact hw.status (Checkout.completion_status _ _) hs
  | sentryFailed hres => simp [ha] at hres
  | sentryRaised hres => exact absurd (.inl ⟨result, ha⟩) hres
  | pollAsks ht | pollTimedOut ht | pollOver ht => cases ht

end Segment

/-! ## The end of a handler -/

/-- A charge says which sale it was of, and a cash charge is over without an error only after
Sentry has taken the order, or has been told of the refusal. -/
def Ends (rt : Runtime) (request : HttpRequest) (last : Option (Σ q, Answer q))
    (r : Except PyExc Body) : Prop :=
  match request with
  | .chargeCard x => ∀ b, r = .ok b → b = .charged x
  | .chargeCash _ _ => ∀ b, r = .ok b → ∃ q a, last = some ⟨q, a⟩ ∧ match q, a with
      | .sentryCreatePosSo _, a => ∃ result, Sentry.createPosSo rt a = .ok result
      | .sentryLogInboundActivity _ _ _, _ => True
      | _, _ => False
  | _ => True

section Ends

variable {D : Deployment} {cashierId : String} {w : World}

/-- The end of a cash charge. -/
theorem wp_finishSend_last {txn : POSTransaction} {req : CheckoutRequest} {a : Attempts}
    (x : Id) (amount : Cents) :
    (Checkout.finishSend D.runtime D.settings txn req a).wp .last
      (fun g r _ ↦ Ends D.runtime (.chargeCash x amount) g (r.map fun _ ↦ .tendered))
      (some ⟨.sentryCreatePosSo req, a⟩) w := by
  unfold Checkout.finishSend
  cases hres : Sentry.createPosSo D.runtime a with
  | ok result =>
      simp only [wp_bind, Till.wp_attributeTransaction, FabricOutbox.wp_enqueue, App.wp_commit]
      exact ⟨trivial, fun _ _ ↦ ⟨_, _, rfl, result, hres⟩⟩
  | error e =>
      cases e with
      | sentryClient exc =>
          rw [wp_bind]
          refine App.wp_bindText (fun text _ ↦ ?_) fun _ ↦ nofun
          simp only [wp_bind, FabricOutbox.wp_enqueue, App.wp_commit]
          exact ⟨trivial, fun _ a _ _ ↦ ⟨_, a, rfl, trivial⟩⟩
      | _ => exact nofun

/-- The handlers end so. -/
theorem ends_serve (request : HttpRequest) :
    (serve D cashierId request).wp .last (fun g r _ ↦ Ends D.runtime request g r) none w := by
  cases request with
  | chargeCard x =>
      refine wp_last_answer (fun _ _ b h ↦ ?_) fun _ _ _ ↦ nofun
      exact (Except.ok.inj h).symm
  | chargeCash x amount =>
      unfold serve Deployment.handle Checkout.chargeCash
      rw [wp_bind, wp_bind]
      refine Checkout.wp_loadForPayment (fun txn _ _ _ ↦ ?_) fun _ ↦ nofun
      by_cases h : amount < txn.totalCents
      · simp only [h, if_true]
        exact nofun
      · simp only [h, if_false, wp_bind, App.wp_saveTransaction, Checkout.sendToSentry, wp_read]
        refine ⟨trivial, fun _ a ↦ ?_⟩
        simp only [wp_pure]
        refine wp_mono ?_ (wp_finishSend_last x amount)
        rintro g (_ | _) _ h <;> exact h
  | _ => exact wp_last_of_forall fun _ _ _ ↦ trivial

end Ends

/-! ## Payments and cancels -/

/-- A handler waits for an answer about its sale. -/
structure Waits (D : Deployment) (w : World) (e : Exchange) (x : Id) (q : Call)
    (k : Answer q → App Body) : Prop where
  payment : ∀ y, e.request ≠ .status y
  sale : Sale.saleOf q = some x
  fits : ∀ s, w.status x = some s → Fits e s q
  goes : ∀ w a, (k a).forget.Follows (D.system .any) (Sale.protocol D.runtime) (.reply q q a) w w
  ends : ∀ w a, (k a).wp .last (fun g r _ ↦ Ends D.runtime e.request g r) (some ⟨q, a⟩) w

/-- What a response says of the sale. -/
def Tells (w : World) (b : Body) : HttpRequest → Prop
  | .chargeCard x => b = .charged x
  | .chargeCash x _ => w.status x = some .complete
  | .status x => ∃ s, b = .status s (s ∈ Checkout.terminalStatuses) ∧
      (s ∈ Checkout.terminalStatuses → s = .complete ∨ ∃ s' ∈ unpaidStatuses, w.status x = some s')
  | _ => True

/-- What is known of a request about a sale. -/
structure Serving (D : Deployment) (w : World) (e : Exchange) (x : Id) : Prop where
  row : e.row = none
  offered : ∃ s ∈ offeredStatuses, w.status x = some s
  sent : e.stage = .sent → e.response = none
  waits : ∀ {q k}, e.stage = .served (.waits q k) → Waits D w e x q k
  tells : ∀ b, e.response = some (some b) → Tells w b e.request
  fetching : e.request = .status x → e.task = some (.tenderStatus x) →
    w.status x = some .complete ∧ ∀ s t, e.response = some (some (.status s t)) → s = .complete

/-- What has become of the status of a sale. -/
def Moved (charging : Prop) (x : Id) (w w' : World) : Prop :=
  ∀ s, w.status x = some s → ∃ s', w'.status x = some s' ∧ Moves charging s s'

/-- What a handler has made of its sale; the other rows are as they were. -/
structure Touched (e : Exchange) (x : Id) (w w' : World) : Prop where
  moved : Moved (e.Charging x) x w w'
  others : ∀ y, y ≠ x → w'.status y = w.status y

section Payments

variable {D : Deployment} {w w' : World} {e : Exchange} {x : Id} {charging : Prop}

theorem Moved.of_eq (h : w'.status x = w.status x) : Moved charging x w w' :=
  fun s hs ↦ ⟨s, h.trans hs, .stays⟩

theorem Moved.complete (h : Moved charging x w w') (hx : w.status x = some .complete) :
    w'.status x = some .complete := by
  obtain ⟨s', hs', hm⟩ := h _ hx
  rw [hs', hm.complete]

theorem Moved.offered (h : Moved charging x w w')
    (hx : ∃ s ∈ offeredStatuses, w.status x = some s) :
    ∃ s ∈ offeredStatuses, w'.status x = some s := by
  obtain ⟨s, hs, hx⟩ := hx
  obtain ⟨s', hs', hm⟩ := h _ hx
  exact ⟨s', hm.offered hs, hs'⟩

theorem Moved.unpaid (h : Moved charging x w w')
    (hx : ∃ s ∈ unpaidStatuses, w.status x = some s) :
    ∃ s ∈ unpaidStatuses, w'.status x = some s := by
  obtain ⟨s, hs, hx⟩ := hx
  obtain ⟨s', hs', hm⟩ := h _ hx
  exact ⟨s', hm.unpaid hs, hs'⟩

/-- What a response has said stays true. -/
theorem Moved.tells (h : Moved charging x w w') {b : Body} {request : HttpRequest}
    (hx : request.sale = some x) (hb : Tells w b request) : Tells w' b request := by
  cases request with
  | start => exact hb
  | chargeCard => exact hb
  | cancel => exact hb
  | chargeCash =>
      obtain rfl := Option.some.inj hx
      exact h.complete hb
  | status =>
      obtain rfl := Option.some.inj hx
      obtain ⟨s, hs, hterminal⟩ := hb
      exact ⟨s, hs, fun ht ↦ (hterminal ht).imp_right h.unpaid⟩

/-- The handler of another request has moved the sale. -/
theorem Serving.frame (h : Serving D w e x) (hx : e.request.sale = some x)
    (hw : Moved charging x w w')
    (hcard : e.request = .chargeCard x → e.response = none → w'.status x = w.status x) :
    Serving D w' e x where
  row := h.row
  offered := hw.offered h.offered
  sent := h.sent
  waits hstage := by
    have hk := h.waits hstage
    refine { hk with fits := ?_ }
    intro s' hs'
    obtain ⟨s, -, hs⟩ := h.offered
    obtain ⟨s'', hs'', hm⟩ := hw _ hs
    obtain rfl : s'' = s' := Option.some.inj (hs''.symm.trans hs')
    have hfits := hk.fits s hs
    have hsale := hk.sale
    revert hfits hsale
    generalize ‹Call› = q
    cases q with
    | windcaveCharge _ y =>
        rintro ⟨hreq, hresp, hawaiting⟩ hy
        obtain rfl := Option.some.inj hy
        refine ⟨hreq, hresp, Option.some.inj ?_⟩
        rw [← hawaiting, ← hs, ← hs', hcard hreq hresp]
    | sentryCreatePosSo => exact fun hfits _ ↦ hm.paid hfits
    | _ => exact fun hfits _ ↦ hfits
  tells b hb := hw.tells hx (h.tells b hb)
  fetching hreq htask := ⟨hw.complete (h.fetching hreq htask).1, (h.fetching hreq htask).2⟩

theorem Fits.stopped {s : Status} {q : Call} {k : Answer q → App Body} (h : Fits e s q) :
    Fits (e.stopped (.waits q k)) s q := by
  cases q with
  | windcaveCharge =>
      obtain ⟨hreq, hresp, hs⟩ := h
      refine ⟨hreq, ?_, hs⟩
      rw [Exchange.stopped, hresp]
      rfl
  | _ => exact h

/-- Where the handler of a payment stops. -/
theorem segment_of_stretch {p : App Body} {t : Sale.Trig}
    {stop : Stop World Call Answer PyExc Body}
    (hp : p.forget.Follows (D.system .any) (Sale.protocol D.runtime) t w w)
    (hs : p.stretch World.send w = (w', stop)) :
    match stop with
    | .over _ => Sale.SaleSegment D.runtime t w w' none
    | .waits q k => Sale.SaleSegment D.runtime t w w' (some q) ∧ ∀ w a,
        (k a).forget.Follows (D.system .any) (Sale.protocol D.runtime) (.reply q q a) w w := by
  have hseg := hp.stretch
  rw [show (D.system .any).send = World.send from rfl, hs] at hseg
  cases stop with
  | «over» r => exact hseg
  | waits q k =>
      obtain ⟨φ, hφ, hseg, hk⟩ := hseg
      obtain rfl : φ = q := hφ
      exact ⟨hseg, fun w a ↦ hk w a trivial⟩

/-- The segment of a handler, without what it waits for. -/
theorem exists_segment {p : App Body} {t : Sale.Trig} {stop : Stop World Call Answer PyExc Body}
    (hp : p.forget.Follows (D.system .any) (Sale.protocol D.runtime) t w w)
    (hs : p.stretch World.send w = (w', stop)) : ∃ o, Sale.SaleSegment D.runtime t w w' o := by
  have hseg := segment_of_stretch hp hs
  cases stop with
  | «over» r => exact ⟨none, hseg⟩
  | waits q k => exact ⟨some q, hseg.1⟩

/-- What sets a segment going has a last answer. -/
def LastOf (t : Sale.Trig) : Option (Σ q, Answer q) :=
  match t with
  | .start _ => none
  | .reply _ q a => some ⟨q, a⟩

/-- What the response of a payment says when it goes out. -/
theorem tells_of_over {t : Sale.Trig} {b : Body} (hpay : ∀ y, e.request ≠ .status y)
    (hx : e.request.sale = some x) (ht : Sale.subject t = some x)
    (hseg : Sale.SaleSegment D.runtime t w w' none) (hne : w.status x ≠ none)
    (hready : ∀ s, w.status x = some s → Ready D.runtime e s t)
    (hends : Ends D.runtime e.request (LastOf t) (.ok b)) : Tells w' b e.request := by
  revert hx hends hpay
  cases hreq : e.request with
  | start => exact fun _ hx _ ↦ nomatch hx
  | cancel => exact fun _ _ _ ↦ trivial
  | status y => exact fun hpay _ _ ↦ absurd rfl (hpay y)
  | chargeCard y => exact fun _ _ hends ↦ hends b rfl
  | chargeCash y amount =>
      intro _ hx hends
      obtain rfl : y = x := Option.some.inj hx
      obtain ⟨q, a, hlast, hq⟩ := hends b rfl
      cases t with
      | start i => cases hlast
      | reply φ q' a' =>
          cases hlast
          cases q with
          | sentryCreatePosSo req =>
              obtain ⟨result, hres⟩ := hq
              obtain rfl : req.idempotencyKey = y := Option.some.inj ht
              exact complete_of_segment hseg hres hne
          | sentryLogInboundActivity =>
              obtain ⟨s, hs⟩ := Option.ne_none_iff_exists'.mp hne
              exact (hready s hs).1.elim
          | _ => exact hq.elim

/-- A segment of a payment handler moves its sale only. -/
theorem Serving.touched {p : App Body} {t : Sale.Trig} {stop : Stop World Call Answer PyExc Body}
    (h : Serving D w e x)
    (hp : p.forget.Follows (D.system .any) (Sale.protocol D.runtime) t w w)
    (ht : Sale.subject t = some x) (hready : ∀ s, w.status x = some s → Ready D.runtime e s t)
    (hs : p.stretch World.send w = (w', stop)) : Touched e x w w' := by
  obtain ⟨s, hoff, hxs⟩ := h.offered
  obtain ⟨o, hseg⟩ := exists_segment hp hs
  obtain ⟨s', hs', hm, -⟩ := moves_of_segment hseg ht hxs hoff (hready s hxs)
  refine ⟨fun s₁ hs₁ ↦ ?_, fun y hy ↦ ?_⟩
  · obtain rfl : s = s₁ := Option.some.inj (hxs.symm.trans hs₁)
    exact ⟨s', hs', hm⟩
  · have hframe := (hseg.frame (x := y) (by rw [ht]; simpa using hy.symm)).1
    rw [World.status, World.status, hframe]

/-- What is known of a payment request is known where its handler stops. -/
theorem Serving.stopped {p : App Body} {t : Sale.Trig} {stop : Stop World Call Answer PyExc Body}
    (h : Serving D w e x) (hx : e.request.sale = some x) (hpay : ∀ y, e.request ≠ .status y)
    (hp : p.forget.Follows (D.system .any) (Sale.protocol D.runtime) t w w)
    (ht : Sale.subject t = some x) (hready : ∀ s, w.status x = some s → Ready D.runtime e s t)
    (hends : p.wp .last (fun g r _ ↦ Ends D.runtime e.request g r) (LastOf t) w)
    (hs : p.stretch World.send w = (w', stop)) : Serving D w' (e.stopped stop) x := by
  have hmoved := (h.touched hp ht hready hs).moved
  obtain ⟨s, hoff, hxs⟩ := h.offered
  have hseg := segment_of_stretch hp hs
  have hlast := stretch_last World.send hends
  rw [hs] at hlast
  have hkept (b : Body) (hb : e.response = some (some b)) : Tells w' b e.request :=
    hmoved.tells hx (h.tells b hb)
  refine
    { row := h.row
      offered := hmoved.offered h.offered
      sent := fun hstage ↦ by cases hstage
      waits := ?_
      tells := ?_
      fetching := fun hreq ↦ absurd hreq (hpay x) }
  · rintro q k ⟨⟩
    refine ⟨hpay, (hseg.1.saleOf_eq _ rfl).trans ht, fun s₁ hs₁ ↦ ?_, hseg.2, hlast⟩
    obtain ⟨s', hs', -, hfits⟩ := moves_of_segment hseg.1 ht hxs hoff (hready s hxs)
    obtain rfl : s' = s₁ := Option.some.inj (hs'.symm.trans hs₁)
    exact (hfits _ rfl).stopped
  · intro b hb
    cases hresp : e.response with
    | some old =>
        rw [Exchange.stopped, hresp] at hb
        exact hkept b (hresp.trans hb)
    | none =>
        rw [Exchange.stopped, hresp] at hb
        cases stop with
        | «over» r =>
            cases r with
            | error _ => cases hb
            | ok b' =>
                cases hb
                exact tells_of_over (e := e) hpay hx ht hseg (by simp [hxs]) hready hlast
        | waits q k =>
            obtain ⟨s', hs', -, hfits⟩ := moves_of_segment hseg.1 ht hxs hoff (hready s hxs)
            have hq := hfits _ rfl
            cases q with
            | respond y =>
                cases hb
                change Tells w' _ e.request
                rw [show e.request = .chargeCard y from hq]
                rfl
            | _ => cases hb

/-- What `get_status` does. -/
theorem stretch_getStatus (x : Id) (w : World) :
    (getStatus x).stretch World.send w = (w, .over (match w.db.transaction x with
      | none => .error (.checkout .transactionNotFound)
      | some txn => .ok (.status txn.status (txn.status ∈ Checkout.terminalStatuses)))) := by
  rw [getStatus, App.stretch_getTransaction]
  cases w.db.transaction x with
  | none => rfl
  | some txn => rfl

/-- A status request says what the status is. -/
theorem Serving.status {stop : Stop World Call Answer PyExc Body} (h : Serving D w e x)
    (hreq : e.request = .status x) (hstage : e.stage = .sent)
    (hs : (getStatus x).stretch World.send w = (w', stop)) :
    w' = w ∧ Serving D w' (e.stopped stop) x := by
  obtain ⟨s, hoff, hxs⟩ := h.offered
  have hresp := h.sent hstage
  rw [stretch_getStatus] at hs
  cases hrow : w.db.transaction x with
  | none => simp [World.status, hrow] at hxs
  | some txn =>
      obtain rfl : txn.status = s := Option.some.inj ((World.status_of_row hrow).symm.trans hxs)
      rw [hrow] at hs
      cases hs
      have hsaid : (e.stopped (.over (.ok (.status txn.status
          (txn.status ∈ Checkout.terminalStatuses))))).response =
            some (some (.status txn.status (txn.status ∈ Checkout.terminalStatuses))) := by
        rw [Exchange.stopped, hresp]
        rfl
      refine ⟨rfl, h.row, ⟨_, hoff, hxs⟩, fun hstage ↦ ?_, ?_, fun b hb ↦ ?_, fun _ htask ↦ ?_⟩
      · cases hstage
      · intro q k hstage
        cases hstage
      · rw [hsaid, Option.some.injEq, Option.some.injEq] at hb
        subst hb
        change Tells w _ e.request
        rw [hreq]
        refine ⟨txn.status, rfl, fun hterminal ↦ ?_⟩
        have hover : txn.status = .complete ∨ txn.status ∈ unpaidStatuses := by
          revert hoff hterminal
          cases txn.status <;> decide
        exact hover.imp_right fun hun ↦ ⟨_, hun, hxs⟩
      · obtain ⟨hcomplete, -⟩ := h.fetching hreq htask
        refine ⟨hcomplete, fun s t hb ↦ ?_⟩
        rw [hsaid] at hb
        cases hb
        exact Option.some.inj (hxs.symm.trans hcomplete)

/-- The handler of a payment request starts. -/
theorem Serving.start {cashierId : String} {stop : Stop World Call Answer PyExc Body}
    (h : Serving D w e x) (hx : e.request.sale = some x) (hpay : ∀ y, e.request ≠ .status y)
    (i : Request) (hi : Sale.IsPayment i) (hsubject : Sale.subject (.start i) = some x)
    (hserve : (serve D cashierId e.request).forget = D.handle i)
    (hready : ∀ s, Ready D.runtime e s (.start i))
    (hs : (serve D cashierId e.request).stretch World.send w = (w', stop)) :
    Touched e x w w' ∧ Serving D w' (e.stopped stop) x := by
  have hfollows : (serve D cashierId e.request).forget.Follows (D.system .any)
      (Sale.protocol D.runtime) (.start i) w w := by
    rw [hserve]
    exact Sale.payment_follows D .any hi w
  exact ⟨h.touched hfollows hsubject (fun s _ ↦ hready s) hs,
    h.stopped hx hpay hfollows hsubject (fun s _ ↦ hready s) (ends_serve _) hs⟩

/-- **A request about a sale arrives.** -/
theorem Serving.arrive {cashierId : String} {stop : Stop World Call Answer PyExc Body}
    (h : Serving D w e x) (hx : e.request.sale = some x) (hstage : e.stage = .sent)
    (hs : (serve D cashierId e.request).stretch World.send w = (w', stop)) :
    Touched e x w w' ∧ Serving D w' (e.stopped stop) x := by
  have hresp := h.sent hstage
  cases hreq : e.request with
  | start => simp [hreq, HttpRequest.sale] at hx
  | status y =>
      rw [hreq] at hx hs
      obtain rfl : y = x := Option.some.inj hx
      obtain ⟨rfl, hserving⟩ := h.status hreq hstage hs
      exact ⟨⟨.of_eq rfl, fun _ _ ↦ rfl⟩, hserving⟩
  | chargeCard y =>
      refine h.start hx (by simp [hreq]) (.chargeCard y) trivial (by rwa [hreq] at hx) ?_
        (fun _ ↦ ⟨hreq, hresp⟩) hs
      rw [hreq]
      exact Prog.forget_answer _ _
  | chargeCash y amount =>
      have hy : y = x := by
        rw [hreq] at hx
        exact Option.some.inj hx
      refine h.start hx (by simp [hreq]) (.chargeCash y amount) trivial (congrArg some hy) ?_
        (fun _ ↦ ⟨by rw [hreq]; rfl, hresp⟩) hs
      rw [hreq]
      exact Prog.forget_answer _ _
  | cancel y =>
      refine h.start hx (by simp [hreq]) (.cancelCheckout y) trivial (by rwa [hreq] at hx) ?_
        (fun _ ↦ trivial) hs
      rw [hreq]
      exact Prog.forget_answer _ _

/-- **A call about a sale is answered.** -/
theorem Serving.resume {stop : Stop World Call Answer PyExc Body} {q : Call}
    {k : Answer q → App Body} {a : Answer q} (h : Serving D w e x) (hx : e.request.sale = some x)
    (hstage : e.stage = .served (.waits q k))
    (ha : ∀ s, w.status x = some s → Regular D.runtime s q a)
    (hs : (k a).stretch World.send w = (w', stop)) :
    Touched e x w w' ∧ Serving D w' (e.stopped stop) x := by
  have hk := h.waits hstage
  have hready (s : Status) (hs : w.status x = some s) : Ready D.runtime e s (.reply q q a) :=
    ⟨hk.fits s hs, ha s hs⟩
  exact ⟨h.touched (hk.goes w a) hk.sale hready hs,
    h.stopped hx hk.payment (hk.goes w a) hk.sale hready (hk.ends w a) hs⟩

end Payments

/-! ## Starts -/

/-- What `start` answers when Sentry has validated the cart. -/
def finishing (D : Deployment) (txn : POSTransaction) (a : Attempts) : App Body :=
  Checkout.finishStart D.runtime txn a >>= fun txn ↦ .pure (.started txn.id txn.totalCents)

/-- What is known of a request that starts a sale. -/
structure Starting (D : Deployment) (w : World) (e : Exchange) : Prop where
  sent : e.stage = .sent → e.response = none ∧ e.row = none
  served : ∀ stop, e.stage = .served stop → (∃ r, stop = .over r) ∨ ∃ txn lines,
    stop = .waits (.sentryValidateCart lines) (finishing D txn) ∧ e.row = some txn.id ∧
      w.status txn.id = some .pendingValidation ∧ e.response = none
  tells : ∀ b, e.response = some (some b) → ∃ x total, b = .started x total ∧ e.row = some x ∧
    ∃ s ∈ offeredStatuses, w.status x = some s

section Starts

variable {D : Deployment} {w w' : World} {e : Exchange} {cashierId : String}

/-- Where a start stops first: it is refused, or it has stored its row and waits for Sentry. -/
theorem stretch_start {lines : List Checkout.CartLineIn}
    {customer : Option Checkout.CustomerAttachIn} {stop : Stop World Call Answer PyExc Body}
    (hs : (serve D cashierId (.start lines customer)).stretch World.send w = (w', stop)) :
    (w' = w ∧ ∃ exc, stop = .over (.error exc)) ∨ ∃ cart,
      w' = w.addTransaction (Checkout.newSale D.settings cart cashierId (customer.getD {}) w.now) ∧
      stop = .waits (.sentryValidateCart (lines.map Checkout.cartLine)) (finishing D
        ((Checkout.newSale D.settings cart cashierId (customer.getD {}) w.now).build
          w.db.posTransactions.fresh)) := by
  rw [serve, Prog.stretch_bind] at hs
  by_cases hmissing : Sale.unpriced w.db lines = []
  · rcases Sale.stretch_startCheckout D.runtime D.settings lines cashierId customer hmissing with
      ⟨-, exc, hstart⟩ | ⟨cart, -, hstart⟩
    · rw [hstart] at hs
      cases hs
      exact .inl ⟨rfl, exc, rfl⟩
    · rw [hstart] at hs
      cases hs
      exact .inr ⟨cart, rfl, rfl⟩
  · rw [Sale.stretch_startCheckout_unpriced D.runtime D.settings lines cashierId customer
      hmissing] at hs
    cases hs
    exact .inl ⟨rfl, _, rfl⟩

/-- What the end of a start does. -/
theorem stretch_finishing {txn : POSTransaction} {a : Attempts}
    {stop : Stop World Call Answer PyExc Body}
    (hs : (finishing D txn a).stretch World.send w = (w', stop)) :
    ∃ r, stop = .over r ∧
      ((∃ exc, r = .error exc) ∧
          (w' = w ∨ ∃ error, w' = w.updateTransaction txn.id (Checkout.validationFailed error)) ∨
        w' = w.updateTransaction txn.id Checkout.validated ∧
          ∃ total, r = .ok (.started txn.id total)) := by
  unfold finishing Checkout.finishStart at hs
  rw [Prog.stretch_bind] at hs
  cases hres : Sentry.validateCart D.runtime a with
  | error exc =>
      rw [hres] at hs
      cases exc with
      | sentryClient exc =>
          simp only [Prog.stretch_bind, App.bindText] at hs
          cases htext : (PyStr.ofString "sentry_unavailable: " ++ exc.message).encode with
          | none =>
              rw [htext] at hs
              cases hs
              exact ⟨_, rfl, .inl ⟨⟨_, rfl⟩, .inl rfl⟩⟩
          | some text =>
              rw [htext] at hs
              cases hs
              exact ⟨_, rfl, .inl ⟨⟨_, rfl⟩, .inr ⟨text, rfl⟩⟩⟩
      | _ =>
          cases hs
          exact ⟨_, rfl, .inl ⟨⟨_, rfl⟩, .inl rfl⟩⟩
  | ok result =>
      rw [hres] at hs
      dsimp only at hs
      by_cases hvalid : result.valid = true
      · rw [if_pos hvalid] at hs
        cases hs
        exact ⟨_, rfl, .inr ⟨rfl, _, rfl⟩⟩
      · rw [if_neg hvalid] at hs
        cases hs
        exact ⟨_, rfl, .inl ⟨⟨_, rfl⟩, .inr ⟨_, rfl⟩⟩⟩

end Starts

end HightowerPos.Register
