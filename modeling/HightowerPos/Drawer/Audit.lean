import HightowerPos.Drawer.Report
import HightowerPos.Services.TillSessions

/-!
# Reading the sessions page by page

The sessions are listed with `LIMIT` and `OFFSET`, and tills are opened and closed between one page
and the next.  A session stays where it is in the table, and its cashier and the time of its opening
stay what they are; once it is closed it stays closed.  So no closed session is missed.
-/

namespace HightowerPos.Drawer

open Async Paging Relation

/-! ## What stays -/

/-- The row at a later time. -/
structure Follows (s s' : TillSession) : Prop where
  id : s'.id = s.id
  cashier : s'.cashierId = s.cashierId
  openedAt : s'.openedAt = s.openedAt
  closed : s.status = .closed → s'.status = .closed

/-- Rows stay in their places, and others come after them. -/
inductive Continues : List TillSession → List TillSession → Prop
  | added (rows : List TillSession) : Continues [] rows
  | kept {s s' : TillSession} {rows rows' : List TillSession} (hs : Follows s s')
      (h : Continues rows rows') : Continues (s :: rows) (s' :: rows')

section Rows

variable {s s' s'' : TillSession} {rows rows' rows'' : List TillSession} {w w' : World}

theorem Follows.refl (s : TillSession) : Follows s s := ⟨rfl, rfl, rfl, fun h ↦ h⟩

theorem Follows.trans (h : Follows s s') (h' : Follows s' s'') : Follows s s'' where
  id := h'.id.trans h.id
  cashier := h'.cashier.trans h.cashier
  openedAt := h'.openedAt.trans h.openedAt
  closed hclosed := h'.closed (h.closed hclosed)

theorem Continues.append (rows added : List TillSession) : Continues rows (rows ++ added) := by
  induction rows with
  | nil => exact .added added
  | cons s rows ih => exact .kept (.refl s) ih

theorem Continues.refl (rows : List TillSession) : Continues rows rows := by
  have h := Continues.append rows []
  rwa [List.append_nil] at h

theorem Continues.trans (h : Continues rows rows') (h' : Continues rows' rows'') :
    Continues rows rows'' := by
  induction h generalizing rows'' with
  | added rows => exact .added rows''
  | kept hs h ih =>
      cases h' with
      | kept hs' h' => exact .kept (hs.trans hs') (ih h')

/-- A statement changes one row. -/
theorem continues_modify {t : Table TillSession TillSession.id} {x : Id} {u : TillUpdate}
    (hu : ∀ s, Follows s (u.set s)) : Continues t.rows (t.modify x u).rows := by
  change Continues t.rows (t.rows.map fun s ↦ if s.id = x then u.set s else s)
  induction t.rows with
  | nil => exact .added []
  | cons s rows ih =>
      refine .kept ?_ ih
      change Follows s (if s.id = x then u.set s else s)
      split
      · exact hu s
      · exact .refl s

theorem follows_tally (a : Till.Attribution) (s : TillSession) : Follows s (a.tally.set s) := by
  unfold Till.Attribution.tally
  dsimp only
  split
  · split <;> exact ⟨rfl, rfl, rfl, fun h ↦ h⟩
  · exact ⟨rfl, rfl, rfl, fun h ↦ h⟩

/-- Whatever a handler does to the sessions. -/
theorem SessionMove.continues {K : TillSession → Prop} {i : Request} (h : SessionMove K i w w') :
    Continues w.db.tillSessions.rows w'.db.tillSessions.rows := by
  cases h with
  | same htable =>
      rw [htable]
      exact .refl _
  | tallied htable =>
      rw [htable]
      exact continues_modify (follows_tally _)
  | opened _ _ htable =>
      rw [htable]
      exact .append _ _
  | closed _ _ _ htable =>
      rw [htable]
      exact continues_modify fun s ↦ ⟨rfl, rfl, rfl, fun _ ↦ rfl⟩
  | rendered htable =>
      rw [htable]
      exact continues_modify fun s ↦ ⟨rfl, rfl, rfl, fun h ↦ h⟩

end Rows

/-! ## What is listed -/

/-- What stays of a row that is listed. -/
def place (s : TillSession) : Time × Id × String := (s.openedAt, s.id, s.cashierId)

section Listing

variable {p : TillSession → Bool} {rows rows' : List TillSession} {f : Route.SessionFilter}

/-- What has been listed is listed again, with what has come in between. -/
theorem Continues.sublist (h : Continues rows rows')
    (hp : ∀ s s', Follows s s' → p s = true → p s' = true) :
    ((rows.filter p).map place).Sublist ((rows'.filter p).map place) := by
  induction h with
  | added rows => exact List.nil_sublist _
  | @kept s s' rows rows' hs h ih =>
      have hplace : place s' = place s := by
        rw [place, hs.openedAt, hs.id, hs.cashier]
        rfl
      by_cases hlisted : p s = true
      · rw [List.filter_cons_of_pos hlisted, List.filter_cons_of_pos (hp s s' hs hlisted),
          List.map_cons, List.map_cons, hplace]
        exact ih.cons_cons _
      · rw [List.filter_cons_of_neg hlisted]
        exact ih.trans (((List.sublist_cons_self s' rows').filter p).map place)

/-- A closed session goes on to meet the conditions that it meets, unless they ask for an open
one. -/
theorem matchesFilter_follows (hstatus : ∀ text ∈ f.status, text = "" ∨ text = "CLOSED")
    {s s' : TillSession} (h : Follows s s') (hf : Till.matchesFilter f s = true) :
    Till.matchesFilter f s' = true := by
  unfold Till.matchesFilter at hf ⊢
  rw [h.cashier, h.openedAt]
  simp only [Bool.and_eq_true] at hf ⊢
  refine ⟨⟨⟨hf.1.1.1, ?_⟩, hf.1.2⟩, hf.2⟩
  have htext := hf.1.1.2
  cases hst : f.status with
  | none => rfl
  | some text =>
      rw [hst] at htext
      rcases hstatus text hst with rfl | rfl
      · rfl
      · have hclosed : s.status = .closed := by
          cases hs : s.status with
          | «open» =>
              rw [hs] at htext
              exact absurd htext (by decide)
          | closed => rfl
        rw [h.closed hclosed]
        rfl

theorem map_matchingSessions (db : Db) (f : Route.SessionFilter) :
    (Till.matchingSessions db f).map place =
      ((db.tillSessions.select (Till.matchesFilter f)).map place).insertionSort
        fun a b ↦ b.1 ≤ a.1 :=
  List.map_insertionSort _ _ place _ fun _ _ _ _ ↦ Iff.rfl

end Listing

/-! ## Page by page -/

section Pages

variable {D : Deployment} {uuid : Id → String} {f : Route.SessionFilter}
  {c c' : Crew World Call Answer PyExc Request} {x : Id} {s : TillSession}

/-- What `list_sessions` answers with this offset. -/
def Shows (uuid : Id → String) (f : Route.SessionFilter) (offset : ℕ) (w : World)
    (rows : List TillSessionSummary) : Prop :=
  (Till.listSessions uuid { f with offset := offset }).exec World.send (fun _ ↦ none) w =
    (w, some (.ok rows))

/-- The pages that are fetched one after the other, while requests go on, until one is not full. -/
inductive Browsed (D : Deployment) (uuid : Id → String) (f : Route.SessionFilter) :
    ℕ → Crew World Call Answer PyExc Request → List (List TillSessionSummary) → Prop
  | last {offset : ℕ} {c : Crew World Call Answer PyExc Request} {rows : List TillSessionSummary}
      (hrows : Shows uuid f offset c.state rows) (hfull : rows.length < f.limit) :
      Browsed D uuid f offset c [rows]
  | next {offset : ℕ} {c c' : Crew World Call Answer PyExc Request}
      {rows : List TillSessionSummary} {pages : List (List TillSessionSummary)}
      (hrows : Shows uuid f offset c.state rows)
      (hrun : Crew.Run (D.system .any) .free c c')
      (h : Browsed D uuid f (offset + f.limit) c' pages) :
      Browsed D uuid f offset c (rows :: pages)

/-- What stays of a row of a page. -/
def summaryPlace (row : TillSessionSummary) : Time × Id × String :=
  (row.openedAt, row.sessionId, row.cashierId)

/-- All the pages of a state. -/
def listing (uuid : Id → String) (f : Route.SessionFilter) (w : World) :
    List TillSessionSummary :=
  (Till.matchingSessions w.db f).map (Till.sessionSummary uuid)

theorem Shows.eq_page {w : World} {offset : ℕ} {rows : List TillSessionSummary}
    (h : Shows uuid f offset w rows) : rows = page (listing uuid f w) f.limit offset := by
  have hrows : (page (Till.matchingSessions w.db f) f.limit offset).map
      (Till.sessionSummary uuid) = rows := by
    have hanswer := congrArg Prod.snd h
    cases hanswer
    rfl
  rw [← hrows, map_page]
  rfl

theorem shows_page (uuid : Id → String) (f : Route.SessionFilter) (offset : ℕ) (w : World) :
    Shows uuid f offset w (page (listing uuid f w) f.limit offset) := by
  rw [listing, ← map_page]
  rfl

theorem Browsed.pages {offset : ℕ} {pages : List (List TillSessionSummary)}
    (h : Browsed D uuid f offset c pages) :
    Pages (fun c ↦ listing uuid f c.state) (Crew.Run (D.system .any) .free) f.limit offset c
      pages := by
  induction h with
  | last hrows hfull =>
      rw [hrows.eq_page] at hfull ⊢
      exact .last hfull
  | next hrows hrun _ ih =>
      rw [hrows.eq_page]
      exact .next hrun ih

theorem map_listing (uuid : Id → String) (f : Route.SessionFilter) (w : World) :
    (listing uuid f w).map summaryPlace = (Till.matchingSessions w.db f).map place := by
  rw [listing, List.map_map]
  rfl

/-- From one page to the next, sessions only get into the listing. -/
theorem listing_grows (uuid : Id → String)
    (hstatus : ∀ text ∈ f.status, text = "" ∨ text = "CLOSED")
    (habides : c.Abides (D.system .any) (fun _ ↦ True) (SessionMove fun _ ↦ True))
    (hrun : Crew.Run (D.system .any) .free c c') :
    c'.Abides (D.system .any) (fun _ ↦ True) (SessionMove fun _ ↦ True) ∧
      ((listing uuid f c.state).map summaryPlace).Sublist
        ((listing uuid f c'.state).map summaryPlace) := by
  obtain ⟨habides', hcontinues⟩ := Crew.Abides.moves
    (K := fun w w' ↦ Continues w.db.tillSessions.rows w'.db.tillSessions.rows)
    (fun w ↦ .refl _) (fun _ _ _ ↦ Continues.trans) (fun _ _ _ hm ↦ hm.continues)
    (fun w w' hd ↦ by
      rw [World.Drift.db hd]
      exact .refl _)
    (sits_handle D fun _ _ _ _ _ ↦ trivial) (fun _ ↦ trivial) habides hrun
  refine ⟨habides', ?_⟩
  rw [map_listing, map_listing, map_matchingSessions, map_matchingSessions]
  exact sublist_insertionSort (hcontinues.sublist fun _ _ ↦ matchesFilter_follows hstatus)

theorem nodup_listing (uuid : Id → String) (f : Route.SessionFilter) (w : World) :
    ((listing uuid f w).map summaryPlace).Nodup := by
  rw [map_listing, map_matchingSessions]
  apply (List.perm_insertionSort _ _).nodup_iff.mpr
  have hids := w.db.tillSessions.nodup.sublist
    ((List.filter_sublist (p := Till.matchesFilter f)).map TillSession.id)
  apply List.Nodup.of_map fun k ↦ k.2.1
  rw [List.map_map]
  exact hids

/-- **No closed session is missed.**  Whatever requests are served between one page and the next,
a session that meets the conditions when the first page is fetched is on one of the pages. -/
theorem pages_cover {w : World} {pages : List (List TillSessionSummary)}
    (hstatus : ∀ text ∈ f.status, text = "" ∨ text = "CLOSED")
    (hrun : Crew.Run (D.system .any) .free ⟨w, []⟩ c) (hpages : Browsed D uuid f 0 c pages)
    (hs : c.state.db.session x = some s) (hf : Till.matchesFilter f s = true) :
    ∃ rows ∈ pages, ∃ row ∈ rows, row.sessionId = x ∧ row.cashierId = s.cashierId ∧
      row.openedAt = s.openedAt := by
  obtain ⟨habides, -⟩ := listing_grows uuid hstatus (.nil w) hrun
  have hmem : s ∈ Till.matchingSessions c.state.db f := by
    apply (List.perm_insertionSort _ _).mem_iff.mpr
    exact List.mem_filter.mpr ⟨Table.mem_of_get? hs, hf⟩
  have hplace : place s ∈ (listing uuid f c.state).map summaryPlace := by
    rw [map_listing]
    exact List.mem_map_of_mem hmem
  obtain ⟨rows, hrows, hrow⟩ := hpages.pages.covers summaryPlace
    (fun c ↦ nodup_listing uuid f c.state)
    (fun _ _ ↦ listing_grows uuid hstatus) habides hplace (Nat.zero_le _)
  obtain ⟨row, hmem, heq⟩ := List.mem_map.mp hrow
  obtain ⟨hopened, hid, hcashier⟩ : row.openedAt = s.openedAt ∧ row.sessionId = s.id ∧
      row.cashierId = s.cashierId := by
    rw [summaryPlace, place, Prod.mk.injEq, Prod.mk.injEq] at heq
    exact heq
  exact ⟨rows, hrows, row, hmem, hid.trans (Table.key_of_get? hs), hcashier, hopened⟩

end Pages

/-! ## The transactions of a session -/

section Transactions

variable {D : Deployment} {uuid : Id → String} {f : Route.SessionFilter} {w : World}

/-- The rows that are listed for a session. -/
def stampedRows (db : Db) (x : Id) : List TillSessionTransactionRow :=
  ((db.posTransactions.select fun t ↦ t.tillSessionId = some x).insertionSort fun a b ↦
    a.createdAt ≤ b.createdAt).map Till.transactionRow

/-- The rows with a property, and what the table has. -/
theorem perm_stampedRows (db : Db) (x : Id) (p : TillSessionTransactionRow → Prop)
    [DecidablePred p] :
    ((stampedRows db x).filter p).Perm ((db.posTransactions.select fun t ↦
      t.tillSessionId = some x ∧ p (Till.transactionRow t)).map Till.transactionRow) := by
  have hperm : (stampedRows db x).Perm
      ((db.posTransactions.select fun t ↦ t.tillSessionId = some x).map Till.transactionRow) :=
    (List.perm_insertionSort _ _).map _
  have hselect : (db.posTransactions.select fun t ↦ t.tillSessionId = some x ∧
      p (Till.transactionRow t)) = (db.posTransactions.select fun t ↦
        t.tillSessionId = some x).filter fun t ↦ p (Till.transactionRow t) := by
    rw [Table.select, Table.select, List.filter_filter]
    apply List.filter_congr
    intro t _
    rw [Bool.decide_and, Bool.and_comm]
  refine (hperm.filter _).trans ?_
  rw [hselect, List.filter_map]
  exact .refl _

theorem exec_listSessionTransactions {x : Id} {s : TillSession} (hs : w.db.session x = some s) :
    (Till.listSessionTransactions x).exec World.send (fun _ ↦ none) w =
      (w, some (.ok ⟨s.id, stampedRows w.db s.id⟩)) := by
  simp only [Till.listSessionTransactions, Prog.read, bind, Prog.bind, Prog.exec, hs]
  rfl

/-- The cash rows of a type. -/
def cashRows (type : TxnType) (rows : List TillSessionTransactionRow) :
    List TillSessionTransactionRow :=
  rows.filter fun row ↦ row.paymentMethod = some .cash ∧ row.txnType = type

/-- The transactions of the session account for its numbers. -/
structure AccountedBy (row : TillSessionSummary) (rows : List TillSessionTransactionRow) :
    Prop where
  complete : ∀ t ∈ rows, t.status = .complete ∧ t.cashierId = row.cashierId
  sorted : rows.Pairwise fun t t' ↦ t.createdAt ≤ t'.createdAt
  transactionCount : row.transactionCount = rows.length
  cashTransactionCount : row.cashTransactionCount =
    (rows.filter fun t ↦ t.paymentMethod = some .cash).length
  cashSalesCents : row.cashSalesCents = ((cashRows .sale rows).map (·.totalCents)).sum
  cashRefundsCents : row.cashRefundsCents = ((cashRows .refund rows).map (·.totalCents)).sum
  closed : row.status = .closed → row.expectedClosingCents =
    some (row.openingFloatCents + row.cashSalesCents - row.cashRefundsCents)

theorem Books.accountedBy {db : Db} (h : Books db) {s : TillSession}
    (hs : db.session s.id = some s) (uuid : Id → String) :
    AccountedBy (Till.sessionSummary uuid s) (stampedRows db s.id) := by
  have hrows := Table.mem_of_get? hs
  have hall (rows : List TillSessionTransactionRow) : rows.filter (fun _ ↦ True) = rows := by
    simp
  have hsum (type : TxnType) (l : List POSTransaction)
      (hl : l = db.posTransactions.select fun t ↦ t.tillSessionId = some s.id ∧
        t.paymentMethod = some .cash ∧ t.txnType = type) :
      ((cashRows type (stampedRows db s.id)).map (·.totalCents)).sum =
        (l.map (·.totalCents)).sum := by
    have hperm := (perm_stampedRows db s.id fun row ↦
      row.paymentMethod = some .cash ∧ row.txnType = type).map (·.totalCents)
    rw [cashRows, hperm.sum_eq, List.map_map, hl]
    rfl
  constructor
  · intro row hrow
    obtain ⟨t, ht, rfl⟩ := List.mem_map.mp hrow
    have hsel := (List.perm_insertionSort _ _).mem_iff.mp ht
    obtain ⟨hmem, hstamp⟩ := List.mem_filter.mp hsel
    obtain ⟨hcomplete, s', hs', hcashier⟩ :=
      h.stamped (Table.get?_of_mem hmem) (of_decide_eq_true hstamp)
    obtain rfl := Option.some.inj (hs.symm.trans hs')
    exact ⟨hcomplete, hcashier.symm⟩
  · rw [stampedRows, List.pairwise_map]
    exact List.pairwise_insertionSort _ _
  · have hlength := (perm_stampedRows db s.id fun _ ↦ True).length_eq
    rw [hall, List.length_map] at hlength
    rw [hlength]
    simp only [and_true]
    exact h.ledger.transactionCount s hrows
  · have hlength := (perm_stampedRows db s.id fun t ↦ t.paymentMethod = some .cash).length_eq
    rw [List.length_map] at hlength
    rw [hlength]
    exact h.ledger.cashTransactionCount s hrows
  · rw [hsum .sale _ rfl]
    exact h.ledger.cashSalesCents s hrows
  · rw [hsum .refund _ rfl]
    exact (h.counted .cashRefunds hs).trans (Table.tally_filter ..)
  · intro hclosed
    exact h.closed hs hclosed

/-- **A page of sessions is accounted for.**  In every state of a serial run, what is listed for
each session of a page are its completed transactions, and they add up to the numbers of the
page. -/
theorem page_accounted (ht : w.db.posTransactions = .empty) (hempty : w.db.tillSessions = .empty)
    {c : Config World Call Answer PyExc} (hrun : D.SerialRun (.idle w) c) {offset : ℕ}
    {rows : List TillSessionSummary} (hrows : Shows uuid f offset c.state rows) :
    ∀ row ∈ rows, ∃ txns, (Till.listSessionTransactions row.sessionId).exec World.send
      (fun _ ↦ none) c.state = (c.state, some (.ok ⟨row.sessionId, txns⟩)) ∧
      AccountedBy row txns := by
  intro row hrow
  have hbooks : Books c.state.db := by
    have hnew : Books w.db := .empty ht hempty
    exact (postings_keep (postings_of_moves (D.moves_of_run hrun .refl).1 hnew) hnew).1
  rw [hrows.eq_page, page] at hrow
  obtain ⟨s, hs, rfl⟩ := List.mem_map.mp (List.mem_of_mem_drop (List.mem_of_mem_take hrow))
  have hsel := (List.perm_insertionSort _ _).mem_iff.mp hs
  have hrow : c.state.db.session s.id = some s := Table.get?_of_mem (List.mem_filter.mp hsel).1
  exact ⟨_, exec_listSessionTransactions hrow, hbooks.accountedBy hrow uuid⟩

end Transactions

/-! ## Three shifts -/

/-- Alice and Bob have closed their tills when the first page is fetched, and Carol closes hers
before the second one: Bob's session is shown twice, and Alice's is not missed. -/
theorem pages_cover_shift :
    ∃ c s pages, c.state.db.session 0 = some s ∧
      Browsed Deployment.sample (fun _ ↦ "0") { limit := 1 } 0 c pages ∧
      pages.map (·.map (·.sessionId)) = [[1], [1], [0], []] ∧
      ∃ rows ∈ pages, ∃ row ∈ rows, row.sessionId = 0 ∧ row.cashierId = s.cashierId ∧
        row.openedAt = s.openedAt := by
  have halice : Crew.Run (Deployment.sample.system .any) .free ⟨newRegister, []⟩ _ :=
    .tail (.tail (.tail (.tail (.tail (.tail .refl (.start (.openTill "alice" [("hundred", 1)])))
      (.access (l := []) (r := []) rfl)) (.access (l := []) (r := []) rfl))
      (.start (.closeTill "alice" [("fifty", 1)]))) (.access (l := [_]) (r := []) rfl))
      (.access (l := [_]) (r := []) rfl)
  have hlater := halice.tail (.drift (.tick (t := 1000000) (by decide)))
  have hbob := (((((hlater.tail (.start (.openTill "bob" [("fifty", 1)]))).tail
    (.access (l := [_, _]) (r := []) rfl)).tail (.access (l := [_, _]) (r := []) rfl)).tail
    (.start (.closeTill "bob" [("fifty", 1)]))).tail (.access (l := [_, _, _]) (r := []) rfl)).tail
    (.access (l := [_, _, _]) (r := []) rfl)
  -- the pages of one row each, before and after Carol's shift
  obtain ⟨c, c', hrun, hcarol, hs, hfirst, hthen⟩ :
      ∃ c c' : Crew World Call Answer PyExc Request,
        Crew.Run (Deployment.sample.system .any) .free ⟨newRegister, []⟩ c ∧
        Crew.Run (Deployment.sample.system .any) .free c c' ∧
        c.state.db.session 0 = some fiftyShort ∧
        (listing (fun _ ↦ "0") { limit := 1 } c.state).map (·.sessionId) = [1, 0] ∧
        (listing (fun _ ↦ "0") { limit := 1 } c'.state).map (·.sessionId) = [2, 1, 0] :=
    ⟨_, _, hbob, (((((((Relation.ReflTransGen.refl).tail
      (.drift (.tick (t := 2000000) (by decide)))).tail
      (.start (.openTill "carol" [("fifty", 1)]))).tail
      (.access (l := [_, _, _, _]) (r := []) rfl)).tail
      (.access (l := [_, _, _, _]) (r := []) rfl)).tail
      (.start (.closeTill "carol" [("fifty", 1)]))).tail
      (.access (l := [_, _, _, _, _]) (r := []) rfl)).tail
      (.access (l := [_, _, _, _, _]) (r := []) rfl), rfl, by decide +kernel, by decide +kernel⟩
  have hempty : (page (listing (fun _ ↦ "0") { limit := 1 } c'.state) 1 3).length < 1 := by
    have hlength := congrArg List.length hthen
    rw [List.length_map] at hlength
    rw [page, List.length_take, List.length_drop, hlength]
    exact Nat.one_pos
  have hpages : Browsed Deployment.sample (fun _ ↦ "0") { limit := 1 } 0 c _ :=
    .next (shows_page _ _ 0 c.state) hcarol <| .next (shows_page _ _ 1 c'.state) .refl <|
      .next (shows_page _ _ 2 c'.state) .refl <| .last (shows_page _ _ 3 c'.state) hempty
  refine ⟨c, fiftyShort, _, hs, hpages, ?_, pages_cover (by simp) hrun hpages hs rfl⟩
  simp only [List.map_cons, List.map_nil, map_page, hfirst, hthen]
  rfl

/-- The session of the day, and its two sales. -/
theorem page_accounted_day :
    ∃ c rows, rows.length = 1 ∧ Deployment.sample.SerialRun (.idle newRegister) c ∧
      Shows (fun _ ↦ "0") {} 0 c.state rows ∧ ∀ row ∈ rows, ∃ txns,
        (Till.listSessionTransactions row.sessionId).exec World.send (fun _ ↦ none) c.state =
          (c.state, some (.ok ⟨row.sessionId, txns⟩)) ∧ AccountedBy row txns := by
  have hrun : Deployment.sample.SerialRun (.idle newRegister)
      ((Config.idle newRegister).playAll (Deployment.sample.system .any) day) :=
    Deployment.sample.run_of_playsAll (by decide +kernel)
  have hshows := shows_page (fun _ ↦ "0") {} 0
    ((Config.idle newRegister).playAll (Deployment.sample.system .any) day).state
  exact ⟨_, _, by decide +kernel, hrun, hshows, page_accounted rfl rfl hrun hshows⟩

end HightowerPos.Drawer
