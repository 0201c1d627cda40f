import HightowerPos.Register.Serving

/-!
# The requests of the register side by side

What is known of every request (`Known`), and that no two of them get in each other's way
(`Apart`).  A segment of one handler changes the status of one sale (`Segment`), and keeps all
of this (`Served.segment`).
-/

namespace HightowerPos.Register

open Async

/-- The register was given the sale. -/
abbrev Offered (w : World) (x : Id) : Prop := ∃ s ∈ offeredStatuses, w.status x = some s

theorem Offered.ne_none {w : World} {x : Id} (h : Offered w x) : w.status x ≠ none := by
  obtain ⟨s, -, hs⟩ := h
  rw [hs]
  nofun

/-! ## Requests -/

/-- What is known of a request. -/
structure Known (D : Deployment) (w : World) (e : Exchange) : Prop where
  sale : ∀ x, e.request.sale = some x → Serving D w e x
  start : e.request.sale = none → Starting D w e
  row : ∀ x, e.row = some x → w.status x ≠ none

/-- The requests have not stored the same row, and neither is about a sale that the other one
charges to a card and has not answered for. -/
structure Apart (e e' : Exchange) : Prop where
  rows : ∀ x, e.row = some x → e'.row ≠ some x
  left : ∀ x, e.request = .chargeCard x → e.response = none → e'.request.sale ≠ some x
  right : ∀ x, e'.request = .chargeCard x → e'.response = none → e.request.sale ≠ some x

theorem Apart.symm {e e' : Exchange} (h : Apart e e') : Apart e' e where
  rows x he' he := h.rows x he he'
  left := h.right
  right := h.left

/-- What is known of the requests of the register. -/
structure Served (D : Deployment) (w : World) (es : List Exchange) : Prop where
  known : ∀ e ∈ es, Known D w e
  /-- no request is about a row that the register has not been told of -/
  untold : ∀ e ∈ es, ∀ x, e.row = some x → e.response = none →
    ∀ e' ∈ es, e'.request.sale ≠ some x
  apart : es.Pairwise Apart

/-- The request at a later time. -/
structure Later (e e' : Exchange) : Prop where
  task : e'.task = e.task
  cart : e'.cart = e.cart
  request : e'.request = e.request
  response : e'.response = none → e.response = none

section Requests

variable {D : Deployment} {w w' : World} {e e' : Exchange} {o es es' : List Exchange} {x : Id}
  {charging : Prop}

/-- A request whose row another handler has not touched before its response. -/
theorem Starting.frame (h : Starting D w e)
    (hrow : ∀ y, e.row = some y → e.response = none → w'.status y = w.status y)
    (hoffered : ∀ y, e.row = some y → Offered w y → Offered w' y) : Starting D w' e where
  sent := h.sent
  served stop hstage := by
    refine (h.served stop hstage).imp_right ?_
    rintro ⟨txn, lines, hstop, htxn, hs, hresp⟩
    exact ⟨txn, lines, hstop, htxn, (hrow _ htxn hresp).trans hs, hresp⟩
  tells b hb := by
    obtain ⟨y, total, rfl, hy, hs⟩ := h.tells b hb
    exact ⟨y, total, rfl, hy, hoffered y hy hs⟩

/-- What is known of a request while another handler moves the sale `x`. -/
theorem Known.frame (h : Known D w e) (hothers : ∀ y, y ≠ x → w'.status y = w.status y)
    (hmoved : e.request.sale = some x ∨ e.row = some x → Moved charging x w w')
    (hanswered : e.request = .chargeCard x ∨ e.row = some x → e.response ≠ none) :
    Known D w' e where
  sale y hy := by
    by_cases hxy : y = x
    · subst hxy
      exact (h.sale y hy).frame hy (hmoved (.inl hy))
        fun hreq hresp ↦ absurd hresp (hanswered (.inl hreq))
    · have heq := hothers y hxy
      have hmoved : Moved charging y w w' := .of_eq heq
      exact (h.sale y hy).frame hy hmoved fun _ _ ↦ heq
  start hstart := by
    refine (h.start hstart).frame (fun y hy hresp ↦ ?_) fun y hy hs ↦ ?_
    · refine hothers y ?_
      rintro rfl
      exact hanswered (.inr hy) hresp
    · by_cases hxy : y = x
      · subst hxy
        exact (hmoved (.inr hy)).offered hs
      · rw [Offered, hothers y hxy]
        exact hs
  row y hy := by
    by_cases hxy : y = x
    · subst hxy
      obtain ⟨s, hs⟩ := Option.ne_none_iff_exists'.mp (h.row y hy)
      obtain ⟨s', hs', -⟩ := hmoved (.inr hy) s hs
      rw [hs']
      nofun
    · rw [hothers y hxy]
      exact h.row y hy

theorem Served.perm (h : Served D w es) (hp : es.Perm es') : Served D w es' where
  known e he := h.known e (hp.mem_iff.mpr he)
  untold e he x hx hresp e' he' := h.untold e (hp.mem_iff.mpr he) x hx hresp e' (hp.mem_iff.mpr he')
  apart := (hp.pairwise_iff Apart.symm).mp h.apart

/-- A sale that a request is about is there. -/
theorem Served.ne_none (h : Served D w es) (he : e ∈ es)
    (hx : e.request.sale = some x ∨ e.row = some x) : w.status x ≠ none := by
  rcases hx with hx | hx
  · exact Offered.ne_none ((h.known e he).sale x hx).offered
  · exact (h.known e he).row x hx

end Requests

/-! ## Segments -/

/-- The statuses of a sale that the register has not been told of. -/
def startStatuses : List Status := [.pendingValidation, .validationFailed, .awaitingPayment]

/-- What a segment makes of the status of the row `x`: it moves the sale that its request is
about, or starts one that no request is about. -/
inductive Change (e : Exchange) (o : List Exchange) (x : Id) (w w' : World) : Prop
  | moved (hx : e.request.sale = some x) (h : Moved (e.Charging x) x w w')
  | started (hold : ∀ s, w.status x = some s → s = .pendingValidation)
      (hsale : ∀ a ∈ e :: o, a.request.sale ≠ some x) (hrow : ∀ a ∈ o, a.row ≠ some x)
      (hs : ∀ s, w'.status x = some s → s ∈ startStatuses)

/-- What a segment of the handler of `e` does, where the other requests are `o`. -/
structure Segment (D : Deployment) (w w' : World) (e e' : Exchange) (o : List Exchange)
    (x : Id) : Prop where
  later : Later e e'
  known : Known D w' e'
  others : ∀ y, y ≠ x → w'.status y = w.status y
  change : Change e o x w w'
  row : e'.row = e.row ∨ e'.row = some x ∧ w.status x = none

section Segments

variable {D : Deployment} {w w' : World} {e e' : Exchange} {o : List Exchange} {x : Id}

/-- The requests are about the same sales. -/
theorem Segment.asked (hs : Segment D w w' e e' o x) {a : Exchange} (ha : a ∈ e' :: o) :
    ∃ b ∈ e :: o, b.request = a.request := by
  rcases List.mem_cons.mp ha with rfl | ha
  · exact ⟨e, List.mem_cons_self, hs.later.request.symm⟩
  · exact ⟨a, List.mem_cons_of_mem _ ha, rfl⟩

/-- **A segment of one handler** keeps what is known of all the requests. -/
theorem Served.segment (h : Served D w (e :: o)) (hs : Segment D w w' e e' o x) :
    Served D w' (e' :: o) := by
  obtain ⟨hapart, ho⟩ := List.pairwise_cons.mp h.apart
  have hmem {a : Exchange} (ha : a ∈ o) : a ∈ e :: o := List.mem_cons_of_mem _ ha
  have hothers (a : Exchange) (ha : a ∈ o) : Known D w' a := by
    have hmoved (hx : a.request.sale = some x ∨ a.row = some x) : Moved (e.Charging x) x w w' := by
      cases hs.change with
      | moved _ hm => exact hm
      | started _ hsale hrow => exact (hx.elim (hsale a (hmem ha)) (hrow a ha)).elim
    refine (h.known a (hmem ha)).frame hs.others hmoved fun hx hresp ↦ ?_
    cases hs.change with
    | moved hsale =>
        rcases hx with hx | hx
        · exact (hapart a ha).right x hx hresp hsale
        · exact h.untold a (hmem ha) x hx hresp e List.mem_cons_self hsale
    | started _ hsale hrow =>
        rcases hx with hx | hx
        · exact hsale a (hmem ha) (by rw [hx]; rfl)
        · exact hrow a ha hx
  refine ⟨?_, ?_, List.pairwise_cons.mpr ⟨fun a ha ↦ ⟨?_, ?_, ?_⟩, ho⟩⟩
  · exact List.forall_mem_cons.mpr ⟨hs.known, hothers⟩
  · intro a ha y hy hresp b hb hsale
    obtain ⟨b', hb', hreq⟩ := hs.asked hb
    rw [← hreq] at hsale
    rcases List.mem_cons.mp ha with rfl | ha
    · rcases hs.row with hrow | ⟨hrow, hnone⟩
      · rw [hrow] at hy
        exact h.untold e List.mem_cons_self y hy (hs.later.response hresp) b' hb' hsale
      · rw [hrow] at hy
        obtain rfl := Option.some.inj hy
        exact h.ne_none hb' (.inl hsale) hnone
    · exact h.untold a (hmem ha) y hy hresp b' hb' hsale
  · intro y hy hrow
    rcases hs.row with heq | ⟨heq, hnone⟩
    · rw [heq] at hy
      exact (hapart a ha).rows y hy hrow
    · rw [heq] at hy
      obtain rfl := Option.some.inj hy
      exact h.ne_none (hmem ha) (.inr hrow) hnone
  · intro y hreq hresp
    rw [hs.later.request] at hreq
    exact (hapart a ha).left y hreq (hs.later.response hresp)
  · intro y hreq hresp
    rw [hs.later.request]
    exact (hapart a ha).right y hreq hresp

/-! ## Handlers -/

theorem Exchange.later_stopped (e : Exchange) (stop : Stop World Call Answer PyExc Body)
    (row : Option Id) : Later e { e.stopped stop with row := row } where
  task := rfl
  cart := rfl
  request := rfl
  response h := by
    cases hresp : e.response with
    | none => rfl
    | some r =>
        change e.response.or _ = none at h
        rw [hresp] at h
        cases h

/-- The handler of a request about a sale. -/
theorem segment_of_touched {stop : Stop World Call Answer PyExc Body}
    (hx : e.request.sale = some x) (ht : Touched e x w w')
    (hserving : Serving D w' (e.stopped stop) x) :
    Segment D w w' e (e.stopped stop) o x where
  later := e.later_stopped stop e.row
  known :=
    { sale := by
        intro y hy
        obtain rfl := Option.some.inj (hx.symm.trans hy)
        exact hserving
      start := fun hnone ↦ nomatch hx.symm.trans hnone
      row := fun _ hy ↦ nomatch hserving.row.symm.trans hy }
  others := ht.others
  change := .moved hx ht.moved
  row := .inl rfl

/-- A row under a fresh id. -/
theorem status_addTransaction {d : Draft POSTransaction POSTransaction.id} {y : Id} :
    (w.addTransaction d).status y =
      if y = w.db.posTransactions.fresh then
        some (d.build w.db.posTransactions.fresh).status
      else w.status y := by
  have hrow : (w.addTransaction d).db.transaction y = if y = w.db.posTransactions.fresh then
      some (d.build w.db.posTransactions.fresh) else w.db.transaction y := Table.get?_add
  rw [World.status, hrow]
  split <;> rfl

theorem status_fresh : w.status w.db.posTransactions.fresh = none := by
  have hrow : w.db.transaction w.db.posTransactions.fresh = none := Table.get?_fresh _
  rw [World.status, hrow, Option.map_none]

/-- A start that is over. -/
theorem starting_over {r : Except PyExc Body} {row : Option Id} (hresp : e.response = none)
    (hr : ∀ b, r = .ok b → ∃ x total, b = .started x total ∧ row = some x ∧ Offered w x) :
    Starting D w { e.stopped (.over r) with row := row } where
  sent hstage := nomatch hstage
  served := by
    rintro _ ⟨⟩
    exact .inl ⟨r, rfl⟩
  tells b hb := by
    change e.response.or (some r.toOption) = some (some b) at hb
    rw [hresp] at hb
    cases r with
    | error exc => cases hb
    | ok b' =>
        cases hb
        exact hr b rfl

/-- A start that has been refused. -/
theorem segment_refused {exc : PyExc} (hsale : e.request.sale = none) (hrow : e.row = none)
    (hresp : e.response = none) (h : Served D w (e :: o)) :
    Segment D w w e (e.stopped (.over (.error exc))) o w.db.posTransactions.fresh where
  later := e.later_stopped _ e.row
  known :=
    { sale := fun _ hy ↦ nomatch hsale.symm.trans hy
      start := fun _ ↦ starting_over hresp nofun
      row := fun _ hy ↦ nomatch hrow.symm.trans hy }
  others _ _ := rfl
  change := .started (fun _ hs ↦ nomatch status_fresh.symm.trans hs)
    (fun _ ha hx ↦ h.ne_none ha (.inl hx) status_fresh)
    (fun _ ha hx ↦ h.ne_none (List.mem_cons_of_mem _ ha) (.inr hx) status_fresh)
    fun _ hs ↦ nomatch status_fresh.symm.trans hs
  row := .inl rfl

/-- A start that has stored its row, and waits for Sentry. -/
theorem segment_stored {settings : Settings} {cart : List RichLine} {cashierId : String}
    {customer : Checkout.CustomerAttachIn} {lines : List Checkout.CartLineIn} {d}
    (hd : d = Checkout.newSale settings cart cashierId customer w.now)
    (hsale : e.request.sale = none) (hresp : e.response = none) (h : Served D w (e :: o)) :
    Segment D w (w.addTransaction d) e
      { e.stopped (.waits (.sentryValidateCart (lines.map Checkout.cartLine))
          (finishing D (d.build w.db.posTransactions.fresh))) with
        row := some w.db.posTransactions.fresh } o w.db.posTransactions.fresh := by
  have hkey : (d.build w.db.posTransactions.fresh).id = w.db.posTransactions.fresh := d.keyed _
  have hstatus : (w.addTransaction d).status w.db.posTransactions.fresh =
      some .pendingValidation := by
    rw [status_addTransaction, if_pos rfl, hd]
    rfl
  have hwaits : (e.stopped (.waits (.sentryValidateCart (lines.map Checkout.cartLine))
      (finishing D (d.build w.db.posTransactions.fresh)))).response = none := by
    rw [Exchange.stopped, hresp]
    rfl
  refine
    { later := e.later_stopped _ _
      known := ⟨fun _ hy ↦ (by cases hsale.symm.trans hy),
        fun _ ↦ ⟨fun hs ↦ (by cases hs), ?_, ?_⟩, ?_⟩
      others := fun y hy ↦ by rw [status_addTransaction, if_neg hy]
      change := .started (fun _ hs ↦ (by cases status_fresh.symm.trans hs))
        (fun _ ha hx ↦ h.ne_none ha (.inl hx) status_fresh)
        (fun _ ha hx ↦ h.ne_none (List.mem_cons_of_mem _ ha) (.inr hx) status_fresh) ?_
      row := .inr ⟨rfl, status_fresh⟩ }
  · rintro _ ⟨⟩
    exact .inr ⟨_, _, rfl, congrArg some hkey.symm, by rw [hkey, hstatus], hwaits⟩
  · intro b hb
    rw [hwaits] at hb
    cases hb
  · rintro y ⟨⟩
    rw [hstatus]
    exact Option.some_ne_none _
  · intro s hs
    rw [hstatus] at hs
    cases hs
    decide

/-- The end of a start. -/
theorem segment_finished {txn : POSTransaction} {r : Except PyExc Body} {s : Status}
    (hsale : e.request.sale = none) (hrow : e.row = some txn.id) (hresp : e.response = none)
    (h : Served D w (e :: o)) (hpending : w.status txn.id = some .pendingValidation)
    (hothers : ∀ y, y ≠ txn.id → w'.status y = w.status y)
    (hstatus : w'.status txn.id = some s) (hs : s ∈ startStatuses)
    (hr : ∀ b, r = .ok b → s = .awaitingPayment ∧ ∃ total, b = .started txn.id total) :
    Segment D w w' e (e.stopped (.over r)) o txn.id where
  later := e.later_stopped _ e.row
  known :=
    { sale := fun _ hy ↦ nomatch hsale.symm.trans hy
      start := fun _ ↦ starting_over hresp fun b hb ↦ by
        obtain ⟨rfl, total, rfl⟩ := hr b hb
        exact ⟨txn.id, total, rfl, hrow, _, by decide, hstatus⟩
      row := fun y hy ↦ by
        obtain rfl := Option.some.inj (hrow.symm.trans hy)
        rw [hstatus]
        nofun }
  others := hothers
  change := by
    refine .started (fun s' hs' ↦ Option.some.inj (hs'.symm.trans hpending))
      (fun a ha ↦ h.untold e List.mem_cons_self _ hrow hresp a ha)
      (fun a ha ↦ ?_) fun s' hs' ↦ ?_
    · exact ((List.pairwise_cons.mp h.apart).1 a ha).rows _ hrow
    · obtain rfl := Option.some.inj (hstatus.symm.trans hs')
      exact hs
  row := .inl rfl

/-- **A request arrives.** -/
theorem Served.arrive {cashierId : String} {stop : Stop World Call Answer PyExc Body}
    (h : Served D w (e :: o)) (hstage : e.stage = .sent)
    (hs : (serve D cashierId e.request).stretch World.send w = (w', stop)) :
    ∃ x, Segment D w w' e { e.stopped stop with row := storedRow e.request w w' } o x := by
  have hknown := h.known e List.mem_cons_self
  cases hsale : e.request.sale with
  | some x =>
      obtain ⟨ht, hserving⟩ := (hknown.sale x hsale).arrive hsale hstage hs
      have hrow : storedRow e.request w w' = e.row := by
        rw [(hknown.sale x hsale).row]
        revert hsale
        cases e.request <;> simp [storedRow, HttpRequest.sale]
      rw [hrow]
      exact ⟨x, segment_of_touched hsale ht hserving⟩
  | none =>
      obtain ⟨hresp, hrow⟩ := (hknown.start hsale).sent hstage
      obtain ⟨lines, customer, hreq⟩ : ∃ lines customer, e.request = .start lines customer := by
        revert hsale
        cases e.request <;> simp [HttpRequest.sale]
      rw [hreq] at hs
      refine ⟨w.db.posTransactions.fresh, ?_⟩
      rcases stretch_start hs with ⟨rfl, exc, rfl⟩ | ⟨cart, rfl, rfl⟩
      · have hnone : storedRow e.request w' w' = e.row := by
          have hfresh : w'.db.transaction w'.db.posTransactions.fresh = none := Table.get?_fresh _
          rw [hreq, hrow, storedRow, hfresh]
          rfl
        rw [hnone]
        exact segment_refused hsale hrow hresp h
      · have hsome : storedRow e.request w (w.addTransaction (Checkout.newSale D.settings cart
            cashierId (customer.getD {}) w.now)) = some w.db.posTransactions.fresh := by
          rw [hreq]
          have hadd := Table.get?_add (t := w.db.posTransactions)
            (k := w.db.posTransactions.fresh)
            (d := Checkout.newSale D.settings cart cashierId (customer.getD {}) w.now)
          change Option.map _ ((w.db.posTransactions.add _).get? _) = _
          rw [hadd, if_pos rfl]
          rfl
        rw [hsome]
        exact segment_stored rfl hsale hresp h

/-- **A call of a handler is answered.** -/
theorem Served.resume {stop : Stop World Call Answer PyExc Body} {q : Call}
    {k : Answer q → App Body} {a : Answer q} (h : Served D w (e :: o))
    (hstage : e.stage = .served (.waits q k))
    (ha : ∀ x, e.request.sale = some x → ∀ s, w.status x = some s → Regular D.runtime s q a)
    (hs : (k a).stretch World.send w = (w', stop)) :
    ∃ x, Segment D w w' e (e.stopped stop) o x := by
  have hknown := h.known e List.mem_cons_self
  cases hsale : e.request.sale with
  | some x =>
      obtain ⟨ht, hserving⟩ := (hknown.sale x hsale).resume hsale hstage (ha x hsale) hs
      exact ⟨x, segment_of_touched hsale ht hserving⟩
  | none =>
      rcases (hknown.start hsale).served _ hstage with
        ⟨r, hr⟩ | ⟨txn, lines, hwaits, hrow, hpending, hresp⟩
      · cases hr
      · cases hwaits
        refine ⟨txn.id, ?_⟩
        have hupdated (u : TransactionUpdate) := w.updated_updateTransaction txn.id u
        have hne : w.status txn.id ≠ none := by simp [hpending]
        obtain ⟨r, rfl, ⟨⟨exc, rfl⟩, rfl | ⟨error, rfl⟩⟩ | ⟨rfl, total, rfl⟩⟩ :=
          stretch_finishing hs
        · exact segment_finished hsale hrow hresp h hpending (fun _ _ ↦ rfl) hpending (by decide)
            nofun
        · exact segment_finished hsale hrow hresp h hpending (fun y hy ↦ (hupdated _).status_ne hy)
            ((hupdated _).status (fun _ ↦ rfl) hne) (by decide) nofun
        · refine segment_finished hsale hrow hresp h hpending (fun y hy ↦ (hupdated _).status_ne hy)
            ((hupdated _).status (fun _ ↦ rfl) hne) (by decide) fun b hb ↦ ⟨rfl, total, ?_⟩
          exact (Except.ok.inj hb).symm

end Segments

end HightowerPos.Register
