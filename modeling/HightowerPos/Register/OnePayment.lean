import HightowerPos.Register.Sound
import HightowerPos.Register.Totals

/-!
# One cart, one payment

What the tasks and the actions of the register keep (`Sound.receive`, `Sound.act`), and with the
segments of the handlers every step (`Sound.step`): as long as Sentry refuses no order of a paid
sale, no cancel takes a payment back, and no response is lost, and no cancel settled, while the
sale of the present cart may be paid (`Shop.Terms.orderly`).  The run at the end of the file
loses the response to a cash charge.
-/

namespace HightowerPos.Register

open Async

open Shop

section Receiving

variable {D : Deployment} {w : World} {client : Client} {e : Exchange} {o : List Exchange}
  {x : Id} {n : Nat}

/-! ## Tasks -/

/-- A row belongs to the request that has stored it. -/
theorem cart_of_started (h : Served D w (e :: o)) (hrow : e.row = some x)
    (hx : Shop.StartedFrom ⟨w, client, e.settled :: o⟩ x n) : n = e.cart := by
  obtain ⟨a, ha, harow, hcart⟩ := hx
  rcases List.mem_cons.mp ha with rfl | ha
  · exact hcart.symm
  · exact absurd harow ((List.pairwise_cons.mp h.apart).1 a ha |>.rows x hrow)

/-- The task waits for its response no more. -/
theorem Sound.settled (h : Sound D ⟨w, client, e :: o⟩)
    (hcard : ∀ x, e.task ≠ some (.cardCharge x)) : Sound D ⟨w, client, e.settled :: o⟩ :=
  h.keep hcard rfl (.inl rfl) fun _ _ _ hresult ↦ .inr hresult

/-- What is known of a sale whose start is answered. -/
structure Answered (D : Deployment) (w : World) (e : Exchange) (o : List Exchange) (x : Id) :
    Prop where
  row : e.row = some x
  offered : Offered w x
  response : e.response ≠ none
  unasked : ∀ a ∈ e.settled :: o, a.request.sale ≠ some x
  told : ∀ a ∈ e.settled :: o, a.row = some x → a.task = none ∧ a.response ≠ none

/-- `start` is answered with a new sale. -/
theorem Sound.started (h : Sound D ⟨w, client, e :: o⟩) {task : Task} (htask : e.task = some task)
    (hstarting : task.starting = true) {b : Body} (hb : e.response = some (some b)) :
    ∃ x total, b = .started x total ∧ Answered D w e o x := by
  have hfits := h.queued.fits e List.mem_cons_self task htask
  have hsale := Task.sale_of_starting hstarting hfits
  obtain ⟨x, total, rfl, hrow, hoffered⟩ :=
    ((h.served.known e List.mem_cons_self).start hsale).tells b hb
  refine ⟨x, total, rfl, hrow, hoffered, by rw [hb]; nofun, ?_, ?_⟩
  · have huntold := h.queued.untold e List.mem_cons_self x hrow (by rw [htask]; nofun)
    obtain ⟨he, ho⟩ := List.forall_mem_cons.mp huntold
    exact List.forall_mem_cons.mpr ⟨he, ho⟩
  · refine List.forall_mem_cons.mpr ⟨fun _ ↦ ⟨rfl, fun hresp ↦ ?_⟩, fun a ha harow ↦ ?_⟩
    · cases hb.symm.trans hresp
    · exact absurd harow ((List.pairwise_cons.mp h.served.apart).1 a ha |>.rows x hrow)

/-- `handleCard` charges the sale that was started. -/
theorem Sound.card_started (h : Sound D ⟨w, client, e :: o⟩) (htask : e.task = some .cardStart)
    (hanswered : Answered D w e o x) :
    Sound D ⟨w, client, sending client (.cardCharge x) (.chargeCard x) :: e.settled :: o⟩ := by
  have hstarting : e.Awaits Task.starting := Exchange.awaits_of_task htask rfl
  have hpaying := hstarting.paying
  have hpending : Shop.pending ⟨w, client, e.settled :: o⟩ Task.paying = false :=
    h.queued.alone hpaying
  have halone : ∀ a ∈ e.settled :: o, ¬ a.Awaits Task.paying := List.any_eq_false.mp hpending
  refine (h.settled fun y ↦ by rw [htask]; nofun).send ?_
  refine ⟨rfl, fun y hy ↦ ?_, fun _ ↦ halone, fun _ ↦ ?_, fun h ↦ (by cases h), fun y hy ↦ ?_, ?_⟩
  · obtain rfl := Option.some.inj hy
    refine ⟨hanswered.offered, fun h ↦ (by cases h), hanswered.told, fun a ha hreq ↦ ?_,
      fun _ ↦ hanswered.unasked⟩
    exact absurd (by rw [hreq]; rfl) (hanswered.unasked a ha)
  · exact h.tended.calm (.inl (pending_of_awaits List.mem_cons_self hpaying))
  · obtain rfl : x = y := hy
    refine ⟨fun a ha hawaits ↦ halone a ha hawaits.paying, fun n z hxn hzn _ ↦ ?_⟩
    obtain rfl := cart_of_started h.served hanswered.row hxn
    exact unpaid_settled.mpr
      (h.queued.starts e List.mem_cons_self hstarting z (started_settled.mp hzn))
  · exact fun y hy ↦ .inl (congrArg Task.cardCharge hy)

/-- `handleCash` asks for the money. -/
theorem Sound.cash_started (h : Sound D ⟨w, client, e :: o⟩) (htask : e.task = some .cashStart)
    (hanswered : Answered D w e o x) (total : Cents) :
    Sound D ⟨w, { client with checkout := .startedCash x total }, e.settled :: o⟩ := by
  have hstarting : e.Awaits Task.starting := Exchange.awaits_of_task htask rfl
  have hpaying := hstarting.paying
  refine ⟨h.served.settled, h.queued.settled rfl, ⟨fun hcalm ↦ ?_, ?_, ?_, ?_, ?_⟩⟩
  · rcases hcalm with hpending | hidle
    · cases hpending.symm.trans (h.queued.alone hpaying)
    · cases hidle
  · intro y hy
    obtain rfl := Option.some.inj hy
    exact hanswered.offered
  · intro y hy a ha
    obtain rfl := Option.some.inj hy
    refine ⟨fun hreq ↦ ?_, hanswered.told a ha⟩
    exact absurd (by rw [hreq]; rfl) (hanswered.unasked a ha)
  · intro _ y hy n z hyn hzn _
    obtain rfl := Option.some.inj hy
    obtain rfl := cart_of_started h.served hanswered.row hyn
    exact unpaid_settled.mpr
      (h.queued.starts e List.mem_cons_self hstarting z (started_settled.mp hzn))
  · intro y hy
    rcases h.unpaid_of_paying hpaying (started_settled.mp hy) with hunpaid | hcard
    · exact .inl (unpaid_settled.mpr hunpaid)
    · cases htask.symm.trans hcard

/-- What is known of a sale that a request is about which has been answered. -/
theorem Sound.told (h : Sound D ⟨w, client, e :: o⟩) (hsale : e.request.sale = some x)
    (hresp : e.response ≠ none) :
    ∀ a ∈ e.settled :: o, (a.request = .chargeCard x → a.response ≠ none) ∧
      (a.row = some x → a.task = none ∧ a.response ≠ none) := by
  have hmem : e ∈ e :: o := List.mem_cons_self
  refine List.forall_mem_cons.mpr ⟨⟨fun _ ↦ hresp, fun _ ↦ ⟨rfl, hresp⟩⟩, fun a ha ↦ ?_⟩
  have hamem : a ∈ e :: o := List.mem_cons_of_mem _ ha
  refine ⟨fun hreq hnone ↦ ?_, fun hrow ↦ ⟨?_, fun hnone ↦ ?_⟩⟩
  · exact ((List.pairwise_cons.mp h.served.apart).1 a ha).right x hreq hnone hsale
  · by_contra htask
    exact h.queued.untold a hamem x hrow htask e hmem hsale
  · exact h.served.untold a hamem x hrow hnone e hmem hsale

/-- `handleCard` waits for the payment. -/
theorem Sound.card_charged (h : Sound D ⟨w, client, e :: o⟩)
    (htask : e.task = some (.cardCharge x)) (hresp : e.response ≠ none) :
    Sound D ⟨w, { client with checkout := client.checkout.startedAt x }, e.settled :: o⟩ := by
  have hpaying : e.Awaits Task.paying := Exchange.awaits_of_task htask rfl
  have hreq : e.request = .chargeCard x := h.queued.fits e List.mem_cons_self _ htask
  have hsale : e.request.sale = some x := by rw [hreq]; rfl
  refine ⟨h.served.settled, h.queued.settled rfl, ⟨fun hcalm ↦ ?_, ?_, ?_, fun h ↦ ?_, ?_⟩⟩
  · rcases hcalm with hpending | hidle
    · cases hpending.symm.trans (h.queued.alone hpaying)
    · cases hidle
  · intro y hy
    obtain rfl := Option.some.inj hy
    exact ((h.served.known e List.mem_cons_self).sale x hsale).offered
  · intro y hy
    obtain rfl := Option.some.inj hy
    exact h.told hsale hresp
  · cases h
  · intro y hy
    rcases h.unpaid_of_paying hpaying (started_settled.mp hy) with hunpaid | hcard
    · exact .inl (unpaid_settled.mpr hunpaid)
    · obtain rfl := Task.cardCharge.inj (Option.some.inj (htask.symm.trans hcard))
      exact .inr (.inr ⟨rfl, fun hphase ↦ (by cases hphase)⟩)

/-- A payment that is given up before the register knows of it. -/
theorem Sound.failed (h : Sound D ⟨w, client, e :: o⟩) {task : Task} (htask : e.task = some task)
    (hpaying : task.paying = true)
    (hrests : ∀ x, task = .cardCharge x → Shop.Rests ⟨w, client, e :: o⟩ x) :
    Sound D ⟨w, { client with checkout := client.checkout.failed }, e.settled :: o⟩ := by
  refine h.let_go rfl fun y hy hor ↦ ?_
  rcases h.unpaid_of_paying (Exchange.awaits_of_task htask hpaying) hy with hunpaid | hcard
  · exact hunpaid
  · exact hrests y (Option.some.inj (htask.symm.trans hcard)) hy

/-- The register says that the payment is finished. -/
theorem Sound.finished (h : Sound D ⟨w, client, e :: o⟩) {s : Status}
    (hcard : ∀ x, e.task ≠ some (.cardCharge x))
    (hs : s = .complete ∨ ∀ x, client.checkout.transactionId = some x →
      Shop.Rests ⟨w, client, e :: o⟩ x) :
    Sound D ⟨w, { client with checkout := client.checkout.finished s }, e.settled :: o⟩ := by
  refine h.keep hcard rfl (.inr rfl) fun y hy htxn _ ↦ ?_
  rcases hs with rfl | hrests
  · exact .inr fun _ ↦ rfl
  · exact .inl (hrests y htxn hy)

/-- `handleTender` asks for the status. -/
theorem Sound.tendered (h : Sound D ⟨w, client, e :: o⟩) (htask : e.task = some (.tender x))
    {b : Body} (hb : e.response = some (some b)) :
    Sound D ⟨w, client, sending client (.tenderStatus x) (.status x) :: e.settled :: o⟩ := by
  obtain ⟨amount, hreq⟩ : ∃ amount, e.request = .chargeCash x amount :=
    h.queued.fits e List.mem_cons_self _ htask
  have hsale : e.request.sale = some x := by rw [hreq]; rfl
  have hserving := (h.served.known e List.mem_cons_self).sale x hsale
  have htells := hserving.tells b hb
  rw [hreq] at htells
  have htold := h.told hsale (by rw [hb]; nofun)
  refine (h.settled fun y ↦ by rw [htask]; nofun).send ⟨rfl, fun y hy ↦ ?_, ?_, ?_, ?_, ?_, ?_⟩
  · obtain rfl := Option.some.inj hy
    refine ⟨hserving.offered, fun _ ↦ htells, fun a ha ↦ (htold a ha).2,
      fun a ha ↦ (htold a ha).1, ?_⟩
    exact fun h ↦ by cases h
  · exact fun h ↦ by cases h
  · exact fun h ↦ by cases h
  · exact fun h ↦ by cases h
  · exact fun y hy ↦ by cases hy
  · exact fun y hy ↦ by cases hy

/-- The sale that the register watches is over. -/
theorem Sound.polled (h : Sound D ⟨w, client, e :: o⟩) (htask : e.task = some (.poll x))
    {s : Status} {isTerminal : Bool} (hb : e.response = some (some (.status s isTerminal)))
    (htxn : client.checkout.transactionId = some x) (hterminal : isTerminal = true) :
    s = .complete ∨ ∀ y, client.checkout.transactionId = some y →
      Shop.Rests ⟨w, client, e :: o⟩ y := by
  have hreq : e.request = .status x := h.queued.fits e List.mem_cons_self _ htask
  have hserving := (h.served.known e List.mem_cons_self).sale x (by rw [hreq]; rfl)
  have htells := hserving.tells _ hb
  rw [hreq] at htells
  obtain ⟨s', hs', hover⟩ := htells
  cases hs'
  refine (hover (of_decide_eq_true hterminal)).imp_right ?_
  rintro ⟨s', hs', hstatus⟩ y hy _ s₁ hs₁
  obtain rfl := Option.some.inj (htxn.symm.trans hy)
  obtain rfl := Option.some.inj (hstatus.symm.trans hs₁)
  obtain ⟨hflight, hcaptured, hawaiting⟩ := not_paid_of_unpaid hs'
  exact ⟨hflight, hcaptured, fun h ↦ absurd h hawaiting⟩

/-- The status that `handleTender` gets. -/
theorem Sound.fetched (h : Sound D ⟨w, client, e :: o⟩) (htask : e.task = some (.tenderStatus x))
    {s : Status} {isTerminal : Bool} (hb : e.response = some (some (.status s isTerminal))) :
    s = .complete := by
  have hreq : e.request = .status x := h.queued.fits e List.mem_cons_self _ htask
  have hserving := (h.served.known e List.mem_cons_self).sale x (by rw [hreq]; rfl)
  exact (hserving.fetching hreq htask).2 s isTerminal hb

/-- **A task gets its response, or gives it up.** -/
theorem Sound.receive (h : Sound D ⟨w, client, e :: o⟩) {task : Task} {body : Option Body}
    (htask : e.task = some task) (hbody : ∀ b, body = some b → e.response = some (some b))
    (ht : (Shop.Terms.orderly D.runtime).receives ⟨w, client, e :: o⟩ task body) :
    Sound D ⟨w, (client.receive task body).1, Shop.request (client.receive task body).1
      (client.receive task body).2 ++ e.settled :: o⟩ := by
  have hsettled (hcard : ∀ x, task ≠ .cardCharge x) : Sound D ⟨w, client, e.settled :: o⟩ :=
    h.settled fun x hx ↦ hcard x (Option.some.inj (htask.symm.trans hx))
  have hcard (hcard : ∀ x, task ≠ .cardCharge x) (x : Id) : e.task ≠ some (.cardCharge x) :=
    fun hx ↦ hcard x (Option.some.inj (htask.symm.trans hx))
  cases task with
  | cardStart =>
      cases body with
      | none => exact h.failed htask rfl nofun
      | some b =>
          obtain ⟨x, total, rfl, hanswered⟩ := h.started htask rfl (hbody b rfl)
          exact h.card_started htask hanswered
  | cashStart =>
      cases body with
      | none => exact h.failed htask rfl nofun
      | some b =>
          obtain ⟨x, total, rfl, hanswered⟩ := h.started htask rfl (hbody b rfl)
          exact h.cash_started htask hanswered total
  | cardCharge x =>
      cases body with
      | none =>
          refine h.failed htask rfl fun y hy ↦ ?_
          obtain rfl := Task.cardCharge.inj hy
          exact ht
      | some b =>
          have hreq : e.request = .chargeCard x := h.queued.fits e List.mem_cons_self _ htask
          have htells := ((h.served.known e List.mem_cons_self).sale x (by rw [hreq]; rfl)).tells b
            (hbody b rfl)
          rw [hreq] at htells
          obtain rfl : b = .charged x := htells
          exact h.card_charged htask (by rw [hbody _ rfl]; nofun)
  | tender x =>
      cases body with
      | none => exact h.finished (hcard nofun) (.inr ht)
      | some b => exact h.tendered htask (hbody b rfl)
  | tenderStatus x =>
      cases body with
      | none => exact h.finished (hcard nofun) (.inl rfl)
      | some b =>
          cases b with
          | status s isTerminal =>
              exact h.finished (hcard nofun) (.inl (h.fetched htask (hbody _ rfl)))
          | _ => exact hsettled nofun
  | cancelCash x => exact h.let_go rfl fun y hy hor ↦ (hor.resolve_left (hcard nofun y) |> ht y) hy
  | cancelCard x => exact hsettled nofun
  | poll x =>
      cases body with
      | none => exact hsettled nofun
      | some b =>
          cases b with
          | status s isTerminal =>
              by_cases hseen : client.checkout.transactionId = some x ∧ isTerminal = true
              · have hover := h.polled htask (hbody _ rfl) hseen.1 hseen.2
                simp only [Client.receive, if_pos hseen]
                exact h.finished (hcard nofun) hover
              · simp only [Client.receive, if_neg hseen]
                exact hsettled nofun
          | _ => exact hsettled nofun

end Receiving

/-! ## Actions -/

section Acting

variable {D : Deployment} {w : World} {client : Client} {es : List Exchange} {x : Id}

/-- A sale is started where nothing of the present cart is paid. -/
theorem Sound.unpaid_of_canPay (h : Sound D ⟨w, client, es⟩)
    (hpay : client.canPay (Shop.pending ⟨w, client, es⟩ Task.paying) = true) {y : Id}
    (hy : Shop.StartedFrom ⟨w, client, es⟩ y client.clears) : Shop.Unpaid ⟨w, client, es⟩ y := by
  simp only [Client.canPay, Bool.and_eq_true, decide_eq_true_eq] at hpay
  obtain ⟨⟨-, hpending⟩, hidle⟩ := hpay
  rcases h.tended.kept y hy with hunpaid | ⟨a, ha, htask⟩ | ⟨htxn, -⟩
  · exact hunpaid
  · rw [pending_of_awaits ha (Exchange.awaits_of_task htask rfl)] at hpending
    cases hpending
  · cases htxn.symm.trans (h.tended.calm (.inr hidle))

/-- `PayPanel` starts a sale. -/
theorem Sound.start (h : Sound D ⟨w, client, es⟩) {t : Task} {r : HttpRequest}
    (hpay : client.canPay (Shop.pending ⟨w, client, es⟩ Task.paying) = true)
    (ht : t.Fits r) (hr : r.sale = none) : Sound D ⟨w, client, sending client t r :: es⟩ := by
  have hcharges (x : Id) (hx : r.Charges x) : False := by
    cases hr.symm.trans (HttpRequest.sale_of_charges hx)
  refine h.send ⟨ht, fun x hx ↦ ?_, fun _ a ha hawaits ↦ ?_, fun _ ↦ ?_, fun _ y hy ↦ ?_,
    fun x hx ↦ (hcharges x hx).elim, fun x hx ↦ (hcharges x hx).elim⟩
  · cases hr.symm.trans hx
  · have hpending := pending_of_awaits ha hawaits
    simp [Client.canPay, hpending] at hpay
  · simp only [Client.canPay, Bool.and_eq_true, decide_eq_true_eq] at hpay
    exact h.tended.calm (.inr hpay.2)
  · exact h.unpaid_of_canPay hpay hy

/-- A request about the transaction of the store. -/
theorem Sound.asks (h : Sound D ⟨w, client, es⟩) {t : Task} {r : HttpRequest}
    (hx : client.checkout.transactionId = some x) (hfetching : t ≠ .tenderStatus x)
    (hr : r ≠ .chargeCard x) : Asks w es t r x where
  offered := h.tended.offered x hx
  fetching ht := absurd ht hfetching
  told a ha := (h.tended.answered x hx a ha).2
  charged a ha := (h.tended.answered x hx a ha).1
  first hreq := absurd hreq hr

/-- A request that charges nothing. -/
theorem Sound.ask (h : Sound D ⟨w, client, es⟩) {t : Task} {r : HttpRequest}
    (hx : client.checkout.transactionId = some x) (hfits : t.Fits r) (hr : r.sale = some x)
    (hfetching : t ≠ .tenderStatus x) (hpaying : t.paying = false)
    (hcharges : ∀ y, ¬ r.Charges y) : Sound D ⟨w, client, sending client t r :: es⟩ := by
  have hnot (h : t.paying = true) : False := by cases h.symm.trans hpaying
  refine h.send ⟨hfits, fun y hy ↦ ?_, fun h ↦ (hnot h).elim, fun h ↦ (hnot h).elim,
    fun h ↦ (hnot (Task.paying_of_starting h)).elim, fun y hy ↦ absurd hy (hcharges y),
    fun y hy ↦ absurd hy (hcharges y)⟩
  obtain rfl := Option.some.inj (hr.symm.trans hy)
  refine h.asks hx hfetching ?_
  rintro rfl
  exact hcharges x rfl

/-- The cash is tendered. -/
theorem Sound.tender (h : Sound D ⟨w, client, es⟩) (hphase : client.checkout.phase = .tenderingCash)
    (hx : client.checkout.transactionId = some x) (amount : Cents) :
    Sound D ⟨w, client, sending client (.tender x) (.chargeCash x amount) :: es⟩ := by
  refine h.send ⟨⟨amount, rfl⟩, fun y hy ↦ ?_, fun h ↦ (by cases h), fun h ↦ (by cases h),
    fun h ↦ (by cases h), fun y hy ↦ ?_, fun y hy ↦ .inr ?_⟩
  · obtain rfl := Option.some.inj hy
    exact h.asks hx (by simp) (by simp)
  · obtain rfl : x = y := hy
    refine ⟨fun a ha hawaits ↦ ?_, h.tended.cash hphase x hx⟩
    have hnone := h.tended.calm (.inl (pending_of_awaits ha hawaits.paying))
    cases hx.symm.trans hnone
  · obtain rfl : x = y := hy
    exact ⟨hx, fun hresult ↦ (by cases hphase.symm.trans hresult)⟩

/-- The result is closed. -/
theorem Sound.done (h : Sound D ⟨w, client, es⟩) (hphase : client.checkout.phase = .result) :
    Sound D ⟨w, client.handleDone, es⟩ := by
  obtain ⟨hserved, hqueued, htended⟩ := h
  unfold Client.handleDone
  split
  · refine ⟨hserved, ⟨fun a ha ↦ ?_, hqueued.fits, hqueued.solo, hqueued.untold, hqueued.starts,
      hqueued.once⟩, tended_of_none rfl fun y hy ↦ ?_⟩
    · exact Nat.le_succ_of_le (hqueued.carts a ha)
    · -- no sale of the new cart has been started
      obtain ⟨a, ha, -, hcart⟩ := hy
      have hcart : a.cart = client.clears + 1 := hcart
      have hle : a.cart ≤ client.clears := hqueued.carts a ha
      omega
  · next hfailed =>
      refine ⟨hserved, ⟨hqueued.carts, hqueued.fits, hqueued.solo, hqueued.untold, hqueued.starts,
        hqueued.once⟩, tended_of_none rfl fun y hy ↦ ?_⟩
      rcases htended.kept y hy with hunpaid | hcard | ⟨-, hcomplete⟩
      · exact .inl hunpaid
      · exact .inr hcard
      · have hsuccess := hcomplete hphase
        exact absurd (decide_eq_true hsuccess) hfailed

/-- **The cashier acts.** -/
theorem Sound.act (h : Sound D ⟨w, client, es⟩) (a : Action) {client' : Client}
    {out : Option (Task × HttpRequest)}
    (hact : client.act (Shop.pending ⟨w, client, es⟩) a = some (client', out)) :
    Sound D ⟨w, client', Shop.request client' out ++ es⟩ := by
  cases a with
  | edit lines attached =>
      cases hact
      obtain ⟨hserved, hqueued, htended⟩ := h
      refine ⟨hserved, ?_, ?_⟩
      · exact ⟨hqueued.carts, hqueued.fits, hqueued.solo, hqueued.untold, hqueued.starts,
          hqueued.once⟩
      · exact ⟨htended.calm, htended.offered, htended.answered, htended.cash, htended.kept⟩
  | payCard | payCash =>
      obtain ⟨hpay, hact⟩ := Option.ite_none_right_eq_some.mp hact
      cases hact
      exact h.start hpay rfl rfl
  | tender amount =>
      simp only [Client.act] at hact
      split at hact
      · next x hphase hx =>
          obtain ⟨-, hact⟩ := Option.ite_none_right_eq_some.mp hact
          cases hact
          exact h.tender hphase hx amount
      · cases hact
  | cancelCash | cancelCard =>
      simp only [Client.act] at hact
      split at hact
      · next x hphase hx =>
          cases hact
          exact h.ask hx rfl rfl (by simp) rfl fun _ hy ↦ hy
      · cases hact
  | poll =>
      simp only [Client.act] at hact
      split at hact
      · next x hphase hx =>
          split at hact
          · cases hact
          · cases hact
            exact h.ask hx rfl rfl (by simp) rfl fun _ hy ↦ hy
      · cases hact
  | done =>
      obtain ⟨hphase, hact⟩ := Option.ite_none_right_eq_some.mp hact
      cases hact
      exact h.done hphase

end Acting

/-! ## Steps -/

/-- Captured payments and the sales of a cart stay. -/
structure Shop.Keeps (c c' : Shop) : Prop where
  captured : ∀ x, c.Captured x → c'.Captured x
  started : ∀ x n, c.StartedFrom x n → c'.StartedFrom x n

theorem Shop.Keeps.trans {c c' c'' : Shop} (h : c.Keeps c') (h' : c'.Keeps c'') : c.Keeps c'' where
  captured x hx := h'.captured x (h.captured x hx)
  started x n hx := h'.started x n (h.started x n hx)

/-- A captured payment stays captured. -/
theorem Moves.captured {charging : Prop} {s s' : Status} (h : Moves charging s s')
    (hs : s ∈ capturedStatuses) : s' ∈ capturedStatuses := by
  cases h with
  | stays => exact hs
  | charged | polled => exact absurd hs (by decide)
  | cancelled h =>
      revert h hs
      cases s <;> decide
  | completed => decide

section Steps

variable {D : Deployment} {cashierId : String} {w w' : World} {client : Client}
  {e e' : Exchange} {l r o : List Exchange} {x : Id} {c c' : Shop}

theorem keeps_segment {es es' : List Exchange} (hs : Segment D w w' e e' o x)
    (hrow : e.row = none ∨ e'.row = e.row) (he : es.Perm (e :: o)) (he' : es'.Perm (e' :: o)) :
    Shop.Keeps ⟨w, client, es⟩ ⟨w', client, es'⟩ where
  captured y := by
    rintro ⟨s, hcaptured, hy⟩
    by_cases hxy : y = x
    · subst hxy
      cases hs.change with
      | moved _ hmoved =>
          obtain ⟨s', hy', hm⟩ := hmoved s hy
          exact ⟨s', hm.captured hcaptured, hy'⟩
      | started hold =>
          rw [hold s hy] at hcaptured
          exact absurd hcaptured (by decide)
    · exact ⟨s, hcaptured, (hs.others y hxy).trans hy⟩
  started y n := by
    rw [started_perm he, started_perm he']
    rintro ⟨a, ha, harow, hcart⟩
    rcases List.mem_cons.mp ha with rfl | ha
    · refine ⟨e', List.mem_cons_self, ?_, hs.later.cart.trans hcart⟩
      rcases hrow with hnone | hsame
      · cases hnone.symm.trans harow
      · exact hsame.trans harow
    · exact ⟨a, List.mem_cons_of_mem _ ha, harow, hcart⟩

/-- A segment of the handler of one of the requests. -/
theorem Sound.segment_at (h : Sound D ⟨w, client, l ++ e :: r⟩)
    (hs : Segment D w w' e e' (l ++ r) x) (hrow : e.row = none ∨ e'.row = e.row) :
    Sound D ⟨w', client, l ++ e' :: r⟩ ∧
      Shop.Keeps ⟨w, client, l ++ e :: r⟩ ⟨w', client, l ++ e' :: r⟩ :=
  ⟨((h.perm List.perm_middle).segment hs).perm List.perm_middle.symm,
    keeps_segment hs hrow List.perm_middle List.perm_middle⟩

/-- **A request arrives.** -/
theorem Sound.arrive (h : Sound D ⟨w, client, l ++ e :: r⟩) (hstage : e.stage = .sent)
    {stop : Stop World Call Answer PyExc Body}
    (hs : (serve D cashierId e.request).stretch World.send w = (w', stop)) :
    Sound D ⟨w', client, l ++ { e.stopped stop with row := storedRow e.request w w' } :: r⟩ ∧
      Shop.Keeps ⟨w, client, l ++ e :: r⟩
        ⟨w', client, l ++ { e.stopped stop with row := storedRow e.request w w' } :: r⟩ := by
  have hserved := (h.perm List.perm_middle).served
  obtain ⟨x, hseg⟩ := hserved.arrive hstage hs
  refine h.segment_at hseg (.inl ?_)
  have hknown := hserved.known e List.mem_cons_self
  cases hsale : e.request.sale with
  | some y => exact (hknown.sale y hsale).row
  | none => exact ((hknown.start hsale).sent hstage).2

/-- **A call of a handler is answered.** -/
theorem Sound.resume (h : Sound D ⟨w, client, l ++ e :: r⟩) {q : Call} {k : Answer q → App Body}
    (hstage : e.stage = .served (.waits q k)) {a : Answer q}
    (ht : (Shop.Terms.orderly D.runtime).answers ⟨w, client, l ++ e :: r⟩ q a)
    {stop : Stop World Call Answer PyExc Body} (hs : (k a).stretch World.send w = (w', stop)) :
    Sound D ⟨w', client, l ++ e.stopped stop :: r⟩ ∧
      Shop.Keeps ⟨w, client, l ++ e :: r⟩ ⟨w', client, l ++ e.stopped stop :: r⟩ := by
  have hserved := (h.perm List.perm_middle).served
  have hregular (x : Id) (hx : e.request.sale = some x) (s : Status)
      (hstatus : w.status x = some s) : Regular D.runtime s q a := by
    have hsale := (((hserved.known e List.mem_cons_self).sale x hx).waits hstage).sale
    cases q with
    | sentryCreatePosSo => exact ht
    | windcaveCancel y =>
        obtain rfl := Option.some.inj hsale
        exact fun hgoes hcaptured ↦ ht hgoes ⟨s, hcaptured, hstatus⟩
    | _ => trivial
  obtain ⟨x, hseg⟩ := hserved.resume hstage hregular hs
  exact h.segment_at hseg (.inr rfl)

/-- The statuses are the same. -/
theorem Sound.of_status (h : Sound D ⟨w, client, l⟩) (hs : ∀ y, w'.status y = w.status y) :
    Sound D ⟨w', client, l⟩ ∧ Shop.Keeps ⟨w, client, l⟩ ⟨w', client, l⟩ := by
  obtain ⟨hserved, hqueued, htended⟩ := h
  have hunpaid (y : Id) :
      Shop.Unpaid ⟨w', client, l⟩ y ↔ Shop.Unpaid ⟨w, client, l⟩ y := by
    simp only [Shop.Unpaid, hs]
  have hoffered (y : Id) : Offered w' y ↔ Offered w y := by
    simp only [Offered, hs]
  have hmoved (y : Id) : Moved False y w w' := .of_eq (hs y)
  refine ⟨⟨⟨fun a ha ↦ ?_, hserved.untold, hserved.apart⟩,
    ⟨hqueued.carts, hqueued.fits, hqueued.solo, hqueued.untold, ?_, ?_⟩,
    ⟨htended.calm, ?_, htended.answered, ?_, ?_⟩⟩, ⟨fun x hx ↦ ?_, fun _ _ hx ↦ hx⟩⟩
  · have hknown := hserved.known a ha
    refine ⟨fun y hy ↦ ?_, fun hnone ↦ ?_, fun y hy ↦ ?_⟩
    · exact (hknown.sale y hy).frame hy (hmoved y) fun _ _ ↦ hs y
    · exact (hknown.start hnone).frame (fun y _ _ ↦ hs y) fun y _ ↦ (hoffered y).mpr
    · rw [hs]
      exact hknown.row y hy
  · exact fun a ha hstarting y hy ↦ (hunpaid y).mpr (hqueued.starts a ha hstarting y hy)
  · intro n x y hx hy
    exact (hqueued.once n x y hx hy).imp (hunpaid x).mpr (Or.imp_left (hunpaid y).mpr)
  · exact fun y hy ↦ (hoffered y).mpr (htended.offered y hy)
  · exact fun hphase x hx n y hxn hyn hne ↦
      (hunpaid y).mpr (htended.cash hphase x hx n y hxn hyn hne)
  · exact fun y hy ↦ (htended.kept y hy).imp_left (hunpaid y).mpr
  · obtain ⟨s, hcaptured, hx⟩ := hx
    exact ⟨s, hcaptured, (hs x).trans hx⟩

theorem receives_perm {es es' : List Exchange} (hp : es.Perm es') {task : Task}
    {body : Option Body} {rt : Runtime}
    (h : (Shop.Terms.orderly rt).receives ⟨w, client, es⟩ task body) :
    (Shop.Terms.orderly rt).receives ⟨w, client, es'⟩ task body := by
  have hrests {x : Id} (hx : Shop.Rests ⟨w, client, es⟩ x) : Shop.Rests ⟨w, client, es'⟩ x :=
    fun hy ↦ (unpaid_perm hp).mp (hx ((started_perm hp).mpr hy))
  cases task with
  | cardCharge x =>
      cases body with
      | none => exact hrests h
      | some b => trivial
  | tender x =>
      cases body with
      | none => exact fun y hy ↦ hrests (h y hy)
      | some b => trivial
  | cancelCash x => exact fun y hy ↦ hrests (h y hy)
  | _ => trivial

/-- The requests stay in the list, with their rows. -/
theorem keeps_of_mem {client' : Client} {es es' : List Exchange}
    (h : ∀ a ∈ es, ∃ a' ∈ es', a'.row = a.row ∧ a'.cart = a.cart) :
    Shop.Keeps ⟨w, client, es⟩ ⟨w, client', es'⟩ where
  captured _ hx := hx
  started x n := by
    rintro ⟨a, ha, hrow, hcart⟩
    obtain ⟨a', ha', hrow', hcart'⟩ := h a ha
    exact ⟨a', ha', hrow'.trans hrow, hcart'.trans hcart⟩

/-- The register has got a response, or has given it up. -/
theorem Sound.receive_at (h : Sound D ⟨w, client, l ++ e :: r⟩) {task : Task} {body : Option Body}
    (htask : e.task = some task) (hbody : ∀ b, body = some b → e.response = some (some b))
    (ht : (Shop.Terms.orderly D.runtime).receives ⟨w, client, l ++ e :: r⟩ task body) :
    Sound D (Shop.receive ⟨w, client, l ++ e :: r⟩ l r e task body) ∧
      Shop.Keeps ⟨w, client, l ++ e :: r⟩
        (Shop.receive ⟨w, client, l ++ e :: r⟩ l r e task body) := by
  have hsound := (h.perm List.perm_middle).receive htask hbody (receives_perm List.perm_middle ht)
  refine ⟨hsound.perm ?_, keeps_of_mem fun a ha ↦ ?_⟩
  · exact List.perm_append_comm.trans (List.perm_middle.symm.append_right _)
  · rcases List.mem_append.mp ha with ha | ha
    · exact ⟨a, by simp [ha], rfl, rfl⟩
    · rcases List.mem_cons.mp ha with rfl | ha
      · exact ⟨{ a with task := none }, by simp, rfl, rfl⟩
      · exact ⟨a, by simp [ha], rfl, rfl⟩

/-- **Every step** keeps what is known, the captured payments and the sales of a cart. -/
theorem Sound.step (h : Sound D c)
    (hs : Shop.Step D cashierId (.orderly D.runtime) c c') : Sound D c' ∧ c.Keeps c' := by
  cases hs with
  | act a ha =>
      obtain ⟨w, client, es⟩ := c
      obtain ⟨⟨client', out⟩, hact, rfl⟩ := Option.map_eq_some_iff.mp ha
      refine ⟨(h.act a hact).perm List.perm_append_comm, keeps_of_mem fun b hb ↦ ?_⟩
      exact ⟨b, List.mem_append_left _ hb, rfl, rfl⟩
  | arrive hstage hs => exact h.arrive hstage hs
  | resume hstage a ht hs => exact h.resume hstage ht hs
  | deliver htask hb ht => exact h.receive_at htask (fun b hsome ↦ hsome ▸ hb) ht
  | lose htask ht => exact h.receive_at htask (fun b hsome ↦ by cases hsome) ht
  | drift hd =>
      refine h.of_status fun y ↦ ?_
      unfold World.status
      rw [World.Drift.db hd]

end Steps

/-! ## Runs -/

section Runs

variable {D : Deployment} {cashierId : String} {c₀ c₁ c₂ c c' : Shop} {T : Shop.Terms}

/-- Nothing is under way. -/
def Shop.Idle (c : Shop) : Prop := c.exchanges = [] ∧ c.client.checkout = .reset

theorem Sound.idle (h : c.Idle) : Sound D c := by
  obtain ⟨w, client, es⟩ := c
  obtain ⟨rfl, hcheckout⟩ := h
  have hno {P : Exchange → Prop} : ∀ a ∈ ([] : List Exchange), P a :=
    fun _ ha ↦ absurd ha List.not_mem_nil
  have hstarted {y : Id} {n : Nat} : ¬ Shop.StartedFrom ⟨w, client, []⟩ y n :=
    fun ⟨_, ha, _⟩ ↦ List.not_mem_nil ha
  refine ⟨⟨hno, hno, .nil⟩, ⟨hno, hno, .nil, hno, hno, fun n x y hx ↦ absurd hx hstarted⟩, ?_⟩
  exact tended_of_none (congrArg CheckoutState.transactionId hcheckout)
    fun y hy ↦ absurd hy hstarted

theorem Sound.run (h : Sound D c) (hrun : Shop.Run D cashierId (.orderly D.runtime) c c') :
    Sound D c' ∧ c.Keeps c' := by
  induction hrun with
  | refl => exact ⟨h, fun _ hx ↦ hx, fun _ _ hx ↦ hx⟩
  | tail _ hs ih =>
      obtain ⟨hsound, hkeeps⟩ := ih.1.step hs
      exact ⟨hsound, ih.2.trans hkeeps⟩

/-- A step, by the place of the request in the list. -/
inductive Move
  | act (a : Action)
  | arrive (i : Nat)
  | resume (i : Nat)
  | deliver (i : Nat)
  | lose (i : Nat)

/-- The request in a place, with those before and after it. -/
def Shop.at? (c : Shop) (i : Nat) : Option (List Exchange × Exchange × List Exchange) :=
  match c.exchanges.drop i with
  | [] => none
  | e :: r => some (c.exchanges.take i, e, r)

/-- Make a step, where the calls are answered by `answer` and `lets` says which tasks may get
which responses. -/
def Shop.play (D : Deployment) (cashierId : String) (answer : (q : Call) → Option (Answer q))
    (lets : Task → Option Body → Bool) (c : Shop) : Move → Option Shop
  | .act a => c.act a
  | .arrive i => do
      let (l, e, r) ← c.at? i
      match e.stage with
      | .sent =>
          let (w, stop) := (serve D cashierId e.request).stretch World.send c.world
          return ⟨w, c.client,
            l ++ { e.stopped stop with row := storedRow e.request c.world w } :: r⟩
      | .served _ => none
  | .resume i => do
      let (l, e, r) ← c.at? i
      match e.stage with
      | .served (.waits q k) =>
          let a ← answer q
          let (w, stop) := (k a).stretch World.send c.world
          return ⟨w, c.client, l ++ e.stopped stop :: r⟩
      | _ => none
  | .deliver i => do
      let (l, e, r) ← c.at? i
      let task ← e.task
      let body ← e.response
      if lets task body then return c.receive l r e task body else none
  | .lose i => do
      let (l, e, r) ← c.at? i
      let task ← e.task
      if lets task none then return c.receive l r e task none else none

end Runs

/-- A register with an item of ten dollars in the cart. -/
def Shop.sample : Shop where
  world := World.selling 1000
  client := { lines := [.item 1000] }

/-- Sentry finds the carts valid. -/
def validating : (q : Call) → Option (Answer q)
  | .sentryValidateCart _ => some (.ok (.object [(.ofString "valid", .bool true)]))
  | _ => none

/-- The steps from the register with the full cart. -/
def Shop.after (lets : Task → Option Body → Bool) (moves : List Move) : Option Shop :=
  moves.foldlM (Shop.play .sample "alice" validating lets) .sample

end HightowerPos.Register
