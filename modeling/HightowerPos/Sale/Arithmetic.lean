import HightowerPos.Async.Crew
import HightowerPos.Footprint

/-!
# Sales, refunds and their amounts

Whatever runs beside them, a sale is stored with amounts that add up, a refund with those of its
sale negated, and no handler changes them afterwards.  The threads are interrupted at every
access: that the refund is of the row as it is now, and not only of a row that was read, holds
because rows keep their origin (`Stays`).
-/

namespace HightowerPos

open Async

/-! ## What an access does to the rows -/

/-- Rows stay, with what they were given for good. -/
def World.Stays (w w' : World) : Prop :=
  ∀ x t, w.db.transaction x = some t → ∃ t', w'.db.transaction x = some t' ∧ t'.origin = t.origin

namespace World

theorem Stays.refl (w : World) : w.Stays w := fun _ t ht ↦ ⟨t, ht, rfl⟩

theorem Stays.trans (w w' w'' : World) (h : w.Stays w') (h' : w'.Stays w'') : w.Stays w'' := by
  intro x t ht
  obtain ⟨t', ht', horigin⟩ := h x t ht
  obtain ⟨t'', ht'', horigin'⟩ := h' x t' ht'
  exact ⟨t'', ht'', horigin'.trans horigin⟩

/-- The rows are those that there were. -/
def SameRows (w w' : World) : Prop :=
  ∀ x, (w'.db.transaction x).map POSTransaction.origin =
    (w.db.transaction x).map POSTransaction.origin

variable {w w' : World}

theorem SameRows.trans {w'' : World} (h : w.SameRows w') (h' : w'.SameRows w'') :
    w.SameRows w'' := fun x ↦ (h' x).trans (h x)

theorem sameRows_of_same (h : w'.db.posTransactions = w.db.posTransactions) : w.SameRows w' := by
  intro x
  unfold Db.transaction
  rw [h]

theorem SameRows.stays (h : w.SameRows w') : w.Stays w' := by
  intro x t ht
  have hx := h x
  rw [ht] at hx
  exact Option.map_eq_some_iff.mp hx

theorem SameRows.new (h : w.SameRows w') {x : Id} (hnone : w.db.transaction x = none) :
    w'.db.transaction x = none := by
  have hx := h x
  rw [hnone] at hx
  exact Option.map_eq_none_iff.mp hx

theorem Updated.sameRows {x : Id} {u : TransactionUpdate} (h : w.Updated x u w')
    (hu : ∀ t, (u.set t).origin = t.origin) : w.SameRows w' := by
  intro y
  by_cases hy : y = x
  · subst hy
    rw [h.row, Option.map_map]
    exact Option.map_congr fun t _ ↦ hu t
  · rw [h.others y hy]

/-- Where a row is added the others stay. -/
theorem stays_of_add {d : Draft POSTransaction POSTransaction.id}
    (h : w'.db.posTransactions = w.db.posTransactions.add d) : w.Stays w' := by
  intro x t ht
  refine ⟨t, ?_, rfl⟩
  unfold Db.transaction at ht ⊢
  rw [h]
  exact Table.get?_add_of_some ht

end World

namespace Sale

open Checkout

/-- An access, for the rows: they are those that there were, or one is stored. -/
inductive Stores (settings : Settings) (S : Scope) (w w' : World) : Prop
  | none (h : w.SameRows w')
  | sale {prices : List (String × Cents)} {lines : List CartLineIn} {cart : List RichLine}
      {cashierId : String} {customer : CustomerAttachIn} (hlines : S.cart lines)
      (hfound : S.Prices prices)
      (hcart : List.Forall₂ (LineOf settings fun sku ↦ prices.lookup sku) lines cart)
      (hrows : w'.db.posTransactions =
        w.db.posTransactions.add (newSale settings cart cashierId customer w.now))
  | refund {w₀ : World} {original : POSTransaction} {cashierId : String}
      (hsale : S.sale original.id) (hreads : S.reads w₀)
      (hrow : w₀.db.transaction original.id = some original) (htype : original.txnType = .sale)
      (hrows : w'.db.posTransactions =
        w.db.posTransactions.add (Refund.newRefund original cashierId w.now))

section Accesses

variable {settings : Settings} {S : Scope} {w w' : World}

theorem stores_of_access (h : Access settings S w w') : Stores settings S w w' := by
  cases h with
  | read => exact .none fun _ ↦ rfl
  | sent q => cases q <;> exact .none (World.sameRows_of_same rfl)
  | saleStored hlines hfound hcart => exact .sale hlines hfound hcart rfl
  | refundStored hsale hreads hrow htype => exact .refund hsale hreads hrow htype rfl
  | updated hu => exact .none ((w.updated_updateTransaction _ _).sameRows hu)
  | notSent hu =>
      exact .none (((w.updated_updateTransaction _ _).addOutboxEntry _).sameRows hu)
  | @saleCompleted txn held soId a =>
      refine .none (World.Updated.sameRows (x := txn.id) (u := completion soId a) ?_ ?_)
      · exact (Till.updated_commitTally (World.updated_updateTransaction _ _ _) _).addOutboxEntry _
      · cases a <;> exact fun _ ↦ rfl
  | @refundCompleted refund original held soId a =>
      have hfirst : w.SameRows (w.updateTransaction refund.id (Refund.completion soId a)) :=
        (w.updated_updateTransaction _ _).sameRows (by cases a <;> exact fun _ ↦ rfl)
      refine .none (hfirst.trans ?_)
      exact ((Till.updated_commitTally (World.updated_updateTransaction _ _ _) a).addOutboxEntry
        _).sameRows (u := Refund.linked refund.id) fun _ ↦ rfl
  | @refundRetried x y u hu =>
      refine .none (((w.updated_updateTransaction x u).sameRows hu).trans ?_)
      exact (World.updated_updateTransaction _ y _).sameRows fun _ ↦ rfl
  | tillOpened | tillUpdated | requeued => exact .none (World.sameRows_of_same rfl)
  | resolved => exact .none (World.sameRows_of_same rfl)
  | @claimed _ ids =>
      obtain ⟨table, hclaimed⟩ := FabricOutbox.claimAll_eq ids w
      rw [hclaimed]
      exact .none (World.sameRows_of_same rfl)

theorem Stores.stays (h : Stores settings S w w') : w.Stays w' := by
  cases h with
  | none h => exact h.stays
  | sale _ _ _ hrows => exact World.stays_of_add hrows
  | refund _ _ _ _ hrows => exact World.stays_of_add hrows

end Accesses

/-! ## Refunds -/

/-- A line of a refund, and that of its sale. -/
structure ReverseLine (l m : RichLine) : Prop where
  sku : m.sku = l.sku
  name : m.name = l.name
  warehouseId : m.warehouseId = l.warehouseId
  binId : m.binId = l.binId
  isTaxable : m.isTaxable = l.isTaxable
  unitPrice : m.unitPriceCents = l.unitPriceCents
  quantity : l.quantity + m.quantity = 0
  tax : l.taxCents + m.taxCents = 0
  lineTotal : l.lineTotalCents + m.lineTotalCents = 0

/-- The refund has the lines of the sale, and all that is counted adds up to zero. -/
structure Reverses (sale refund : POSTransaction) : Prop where
  txnType : refund.txnType = .refund
  parent : refund.parentTransactionId = some sale.id
  cart : List.Forall₂ ReverseLine sale.cart refund.cart
  subtotal : sale.subtotalCents + refund.subtotalCents = 0
  tax : sale.taxCents + refund.taxCents = 0
  total : sale.totalCents + refund.totalCents = 0

/-- What a row is given for good. -/
theorem Adds.of_origin {t t' : POSTransaction} (h : Adds t) (horigin : t'.origin = t.origin) :
    Adds t' := by
  have hcart := POSTransaction.eq_of_origin horigin (·.cart)
  have hsubtotal := POSTransaction.eq_of_origin horigin (·.subtotalCents)
  have htax := POSTransaction.eq_of_origin horigin (·.taxCents)
  have htotal := POSTransaction.eq_of_origin horigin (·.totalCents)
  obtain ⟨hlines, hs, ht, htot, hsum⟩ := h
  exact ⟨hcart ▸ hlines, by rw [hsubtotal, hcart, hs], by rw [htax, hcart, ht],
    by rw [htotal, hsubtotal, htax, htot], by rw [htotal, hcart, hsum]⟩

theorem reverseLine_refundLine (l : RichLine) : ReverseLine l (Refund.refundLine l) where
  sku := rfl
  name := rfl
  warehouseId := rfl
  binId := rfl
  isTaxable := rfl
  unitPrice := rfl
  quantity := add_neg_cancel l.quantity
  tax := add_neg_cancel l.taxCents
  lineTotal := add_neg_cancel l.lineTotalCents

/-- The row that `start_refund` stores, for a sale whose row is `t` now. -/
theorem reverses_newRefund {original t : POSTransaction} (horigin : t.origin = original.origin)
    (cashierId : String) (now : Time) (x : Id) :
    Reverses t ((Refund.newRefund original cashierId now).build x) := by
  have hid := POSTransaction.eq_of_origin horigin (·.id)
  have hcart := POSTransaction.eq_of_origin horigin (·.cart)
  have hsubtotal := POSTransaction.eq_of_origin horigin (·.subtotalCents)
  have htax := POSTransaction.eq_of_origin horigin (·.taxCents)
  have htotal := POSTransaction.eq_of_origin horigin (·.totalCents)
  refine ⟨rfl, congrArg some hid.symm, ?_, ?_, ?_, ?_⟩
  · rw [hcart]
    exact List.forall₂_map_right_iff.mpr (List.forall₂_same.mpr fun l _ ↦
      reverseLine_refundLine l)
  · rw [hsubtotal]
    exact add_neg_cancel original.subtotalCents
  · rw [htax]
    exact add_neg_cancel original.taxCents
  · rw [htotal]
    exact add_neg_cancel original.totalCents

/-- The sums over the lines of a refund. -/
theorem sum_reverse {cart cart' : List RichLine} (h : List.Forall₂ ReverseLine cart cart')
    {f : RichLine → Cents} (hf : ∀ l m, ReverseLine l m → f l + f m = 0) :
    (cart.map f).sum + (cart'.map f).sum = 0 := by
  induction h with
  | nil => rfl
  | @cons l m cart cart' hline _ ih =>
      have := hf l m hline
      rw [List.map_cons, List.sum_cons, List.map_cons, List.sum_cons]
      grind

/-- A property that passes from a line to the line that reverses it passes to all. -/
theorem forall_reverse {cart cart' : List RichLine} (h : List.Forall₂ ReverseLine cart cart')
    {P Q : RichLine → Prop} (hP : ∀ l m, ReverseLine l m → P l → Q m) (hcart : ∀ l ∈ cart, P l) :
    ∀ m ∈ cart', Q m := by
  induction h with
  | nil => exact fun m hm ↦ absurd hm List.not_mem_nil
  | @cons l m' cart cart' hline _ ih =>
      intro m hm
      rcases List.mem_cons.mp hm with rfl | hm
      · exact hP l m hline (hcart l (.head _))
      · exact ih (fun l' hl' ↦ hcart l' (List.mem_cons_of_mem _ hl')) m hm

/-- The amounts of a refund add up when those of its sale do. -/
theorem Reverses.adds {sale refund : POSTransaction} (h : Reverses sale refund)
    (hadds : Adds sale) : Adds refund := by
  have hsub (l m : RichLine) (hline : ReverseLine l m) :
      l.unitPriceCents * l.quantity + m.unitPriceCents * m.quantity = 0 := by
    rw [hline.unitPrice, ← Int.mul_add, hline.quantity]
    exact Int.mul_zero _
  have hsubs := sum_reverse h.cart hsub
  have htaxes := sum_reverse h.cart fun _ _ hline ↦ hline.tax
  have htotals := sum_reverse h.cart fun _ _ hline ↦ hline.lineTotal
  obtain ⟨hlines, hs, ht, htot, hsum⟩ := hadds
  obtain ⟨-, -, hcart, hsubtotal, htax, htotal⟩ := h
  refine ⟨forall_reverse hcart (fun l m hline hl ↦ ?_) hlines, by grind, by grind, by grind,
    by grind⟩
  have := hsub l m hline
  have := hline.tax
  have := hline.lineTotal
  grind

/-! ## Runs -/

/-- Time passes, or prices are replaced by others. -/
inductive Reprices : World → World → Prop
  | drift {w w' : World} (h : World.Drift w w') : Reprices w w'
  | prices {w : World} (posPrices : Table POSPrice POSPrice.sku) :
      Reprices w { w with db := { w.db with posPrices } }

theorem Reprices.sameRows {w w' : World} (h : Reprices w w') : w.SameRows w' := by
  cases h with
  | drift h => exact World.sameRows_of_same (congrArg Db.posTransactions h.db)
  | prices => exact fun _ ↦ rfl

/-- Anything may be answered, and prices may be replaced at any time. -/
def repricing : Environment where
  reply _ _ _ := True
  drift := Reprices

/-- What is known of the handler of a request that reads states of `J`. -/
def scopeOf (J : World → Prop) (i : Request) : Scope where
  reads := J
  cart lines := ∃ cashierId customer, i = .startCheckout lines cashierId customer
  sale x := ∃ cashierId, i = .startRefund x cashierId
  drains := True

section Runs

variable {D : Deployment} {c c' : Crew World Call Answer PyExc Request}

theorem treads_scopeOf (D : Deployment) (J : World → Prop) (i : Request) :
    Treads D.settings (scopeOf J i) (D.handle i) :=
  treads_handle D (fun _ cashierId customer h ↦ ⟨cashierId, customer, h⟩)
    (fun _ cashierId h ↦ ⟨cashierId, h⟩) (fun _ ↦ trivial) (fun _ _ _ ↦ trivial) fun _ ↦ trivial

/-- Rows stay, from any state of a run to any later one. -/
theorem stays_run {w : World} (h₀ : Crew.Run (D.system repricing) .free ⟨w, []⟩ c)
    (h₁ : Crew.Run (D.system repricing) .free c c') : c.state.Stays c'.state := by
  have hmoves {c c' : Crew World Call Answer PyExc Request}
      (h : c.Abides (D.system repricing) (fun _ ↦ True)
        fun i ↦ Access D.settings (scopeOf (fun _ ↦ True) i))
      (hrun : Crew.Run (D.system repricing) .free c c') :=
    h.moves World.Stays.refl World.Stays.trans (fun _ _ _ h ↦ (stores_of_access h).stays)
      (fun _ _ h ↦ (Reprices.sameRows h).stays) (treads_scopeOf D _) (fun _ ↦ trivial) hrun
  exact (hmoves (hmoves (.nil w) h₀).1 h₁).2

/-- A sale that a thread was asked for, at prices that were there during the run. -/
def SoldFor (D : Deployment) (w : World) (c : Crew World Call Answer PyExc Request)
    (i : Request) (t : POSTransaction) : Prop :=
  ∃ lines cashierId customer price, i = .startCheckout lines cashierId customer ∧
    SaleOf D.settings price lines t ∧
    ∀ sku cents, price sku = some cents → ∃ c₀, Crew.Run (D.system repricing) .free ⟨w, []⟩ c₀ ∧
      Crew.Run (D.system repricing) .free c₀ c ∧ priceOf c₀.state.db sku = some cents

/-- The refund of a sale that a thread was asked for. -/
def RefundedFor (w : World) (i : Request) (t : POSTransaction) : Prop :=
  ∃ x cashierId sale, i = .startRefund x cashierId ∧ w.db.transaction x = some sale ∧
    sale.txnType = .sale ∧ Reverses sale t

/-- A row is new in a state. -/
def World.Gains (w w' : World) (x : Id) (t : POSTransaction) : Prop :=
  w.db.transaction x = none ∧ w'.db.transaction x = some t

theorem gains_of_add {w w' : World} {d : Draft POSTransaction POSTransaction.id} {x : Id}
    {t : POSTransaction} (h : w'.db.posTransactions = w.db.posTransactions.add d)
    (hx : World.Gains w w' x t) : t = d.build x := by
  obtain ⟨hnone, hsome⟩ := hx
  unfold Db.transaction at hnone hsome
  rw [h] at hsome
  rcases Table.of_get?_add hsome with ⟨rfl, rfl⟩ | ⟨-, hold⟩
  · rfl
  · rw [hnone] at hold
    cases hold

/-- The rows that a step adds. -/
theorem gains_of_step {w : World} (hrun : Crew.Run (D.system repricing) .free ⟨w, []⟩ c)
    (hs : Crew.Step (D.system repricing) .free c c') {x : Id} {t : POSTransaction}
    (hx : World.Gains c.state c'.state x t) :
    ∃ p ∈ c.threads, SoldFor D w c p.1 t ∨ RefundedFor c.state p.1 t := by
  -- what the threads have read was there at some state of the run
  let J : World → Prop := fun w₀ ↦ ∃ c₀, Crew.Run (D.system repricing) .free ⟨w, []⟩ c₀ ∧
    Crew.Run (D.system repricing) .free c₀ c ∧ c₀.state = w₀
  have hstart (i : Request) := treads_scopeOf D J i
  have habides := (Crew.Abides.nil w).run hstart (fun c₁ h₁ h₂ ↦ ⟨c₁, h₁, h₂, rfl⟩) hrun
  obtain ⟨-, hsame | ⟨p, hp, haccess⟩ | hdrift⟩ := habides.step hstart ⟨c, hrun, .refl, rfl⟩ hs
  · obtain ⟨hnone, hsome⟩ := hx
    rw [hsame, hnone] at hsome
    cases hsome
  · refine ⟨p, hp, ?_⟩
    cases stores_of_access haccess with
    | none h =>
        have hsome := hx.2
        rw [h.new hx.1] at hsome
        cases hsome
    | @sale prices lines cart cashierId customer hlines hfound hcart hrows =>
        obtain ⟨by_, to_, hi⟩ := hlines
        obtain rfl := gains_of_add hrows hx
        refine .inl ⟨lines, by_, to_, _, hi, saleOf_newSale hcart _ _ _ _, ?_⟩
        intro sku cents hprice
        obtain ⟨w₀, ⟨c₀, h₀, h₁, rfl⟩, hthen⟩ := hfound sku cents hprice
        exact ⟨c₀, h₀, h₁, hthen⟩
    | @refund w₀ original cashierId hsale hreads hrow htype hrows =>
        obtain ⟨by_, hi⟩ := hsale
        obtain ⟨c₀, h₀, h₁, rfl⟩ := hreads
        obtain rfl := gains_of_add hrows hx
        obtain ⟨sale, hsale, horigin⟩ := stays_run h₀ h₁ _ _ hrow
        have htype' := POSTransaction.eq_of_origin horigin (·.txnType)
        exact .inr ⟨original.id, by_, sale, hi, hsale, htype'.trans htype,
          reverses_newRefund horigin _ _ _⟩
  · have hsome := hx.2
    rw [hdrift.sameRows.new hx.1] at hsome
    cases hsome

/-- The amounts of every row add up, when they did at the start. -/
theorem adds_run {w : World} (hw : ∀ x t, w.db.transaction x = some t → Adds t)
    (hrun : Crew.Run (D.system repricing) .free ⟨w, []⟩ c) :
    ∀ x t, c.state.db.transaction x = some t → Adds t := by
  induction hrun with
  | refl => exact hw
  | @tail c₁ c₂ hrun hs ih =>
      intro x t ht
      cases hold : c₁.state.db.transaction x with
      | some t₁ =>
          obtain ⟨t', ht', horigin⟩ := stays_run hrun (.single hs) x t₁ hold
          rw [ht] at ht'
          cases ht'
          exact (ih x t₁ hold).of_origin horigin
      | none =>
          obtain ⟨p, -, hsold | hrefunded⟩ := gains_of_step hrun hs ⟨hold, ht⟩
          · obtain ⟨_, _, _, _, -, hsale, -⟩ := hsold
            exact hsale.adds
          · obtain ⟨s, _, sale, -, hsale, -, hreverses⟩ := hrefunded
            exact hreverses.adds (ih s sale hsale)

/-- **The arithmetic of sales, and its exact reversal.**  Each new row is of a sale or of a refund
that a thread was asked for, rows stay as they were stored, and their amounts add up; and what
`start_checkout` does on a price table is refuse the cart with the SKUs that are not priced, or
store it at these prices: it does when the amounts can be computed and are integers that SQLite
takes. -/
theorem sale_arithmetic (D : Deployment) {w : World}
    (hrun : Crew.Run (D.system repricing) .free ⟨w, []⟩ c)
    (hs : Crew.Step (D.system repricing) .free c c') :
    (∀ x t, World.Gains c.state c'.state x t →
      ∃ p ∈ c.threads, SoldFor D w c p.1 t ∨ RefundedFor c.state p.1 t) ∧
    c.state.Stays c'.state ∧
    ((∀ x t, w.db.transaction x = some t → Adds t) →
      ∀ x t, c'.state.db.transaction x = some t → Adds t) ∧
    ∀ (w₁ : World) (lines : List CartLineIn) (cashierId : String)
      (customer : Option CustomerAttachIn),
      (unpriced w₁.db lines ≠ [] →
        (startCheckout D.runtime D.settings lines cashierId customer).stretch World.send w₁ =
          (w₁, .over (.error (.checkout (.priceMissing (unpriced w₁.db lines)))))) ∧
      (Storable D.settings (priceOf w₁.db) lines →
        ∃ t, storedRow D.runtime D.settings lines cashierId customer w₁ = some t) ∧
      ∀ t, storedRow D.runtime D.settings lines cashierId customer w₁ = some t →
        SaleOf D.settings (priceOf w₁.db) lines t :=
  ⟨fun _ _ hx ↦ gains_of_step hrun hs hx, stays_run hrun (.single hs),
    fun hw ↦ adds_run hw (hrun.tail hs),
    fun _ _ _ _ ↦ ⟨stretch_startCheckout_unpriced _ _ _ _ _,
      fun hstorable ↦ exists_storedRow hstorable.taxed, fun _ ↦ saleOf_storedRow⟩⟩

end Runs

/-! ## Souvenirs -/

/-- A register that sells mugs and postcards. -/
def stocked : World where
  db := { Db.sample (.sample .complete) with
    posPrices := ⟨[⟨"mug", 1000, 0⟩, ⟨"postcard", 150, 0⟩], by decide⟩ }
  now := 0

/-- Three mugs on two lines, and postcards, which are not taxed. -/
def souvenirs : List CartLineIn :=
  [⟨"mug", "Mug", "store", "A-1-1", 2, true⟩, ⟨"postcard", "Postcard", "store", "B-2-1", 5, false⟩,
    ⟨"mug", "Mug", "store", "A-1-2", 1, true⟩]

/-- Sentry takes the cart. -/
def validCart : Attempts := .ok (.object [(.ofString "valid", .bool true)])

/-- The souvenirs are sold for cash, and then all of them are brought back. -/
theorem sale_arithmetic_refund :
    ∃ (c₁ c₁' c₂ c₂' : Crew World Call Answer PyExc Request) (t r : POSTransaction),
      Crew.Run (Deployment.sample.system repricing) .free ⟨stocked, []⟩ c₁ ∧
      c₁.state.Stays c₁'.state ∧ World.Gains c₁.state c₁'.state 1 t ∧ t.cart.length = 3 ∧
      t.totalCents = 3993 ∧
      (∃ p ∈ c₁.threads, SoldFor .sample stocked c₁ p.1 t ∨ RefundedFor c₁.state p.1 t) ∧
      Crew.Run (Deployment.sample.system repricing) .free ⟨stocked, []⟩ c₂ ∧
      c₂.state.Stays c₂'.state ∧ World.Gains c₂.state c₂'.state 2 r ∧
      r.parentTransactionId = some 1 ∧ r.totalCents = -3993 ∧
      ∃ p ∈ c₂.threads, SoldFor .sample stocked c₂ p.1 r ∨ RefundedFor c₂.state p.1 r := by
  -- the two prices are read
  have hpriced : Crew.Run (Deployment.sample.system repricing) .free ⟨stocked, []⟩ _ :=
    .tail (.tail (.tail .refl (.start (.startCheckout souvenirs "alice" none)))
      (.access (l := []) (r := []) rfl)) (.access (l := []) (r := []) rfl)
  obtain ⟨hsold, hkept, -⟩ := sale_arithmetic .sample hpriced (.access (l := []) (r := []) rfl)
  -- the sale is validated, paid in cash and sent
  have hstored := hpriced.tail (.access (l := []) (r := []) rfl)
  have hvalid := (hstored.tail (.answer (l := []) (r := []) validCart trivial trivial)).tail
    (.access (l := []) (r := []) rfl)
  have hpaid := (((hvalid.tail (.start (.chargeCash 1 5000))).tail
    (.access (l := [_]) (r := []) rfl)).tail (.access (l := [_]) (r := []) rfl)).tail
    (.access (l := [_]) (r := []) rfl)
  have hsent := (((hpaid.tail (.answer (l := [_]) (r := []) (.ok (.order "SO-1")) trivial
    trivial)).tail (.access (l := [_]) (r := []) rfl)).tail
    (.access (l := [_]) (r := []) rfl)).tail (.access (l := [_]) (r := []) rfl)
  -- the gates of the refund are passed
  have hgates := (((hsent.tail (.start (.startRefund 1 "alice"))).tail
    (.access (l := [_, _]) (r := []) rfl)).tail (.access (l := [_, _]) (r := []) rfl)).tail
    (.access (l := [_, _]) (r := []) rfl)
  obtain ⟨hrefunded, hstays, -⟩ :=
    sale_arithmetic .sample hgates (.access (l := [_, _]) (r := []) rfl)
  exact ⟨_, _, _, _, _, _, hpriced, hkept, ⟨rfl, rfl⟩, rfl, rfl, hsold 1 _ ⟨rfl, rfl⟩, hgates,
    hstays, ⟨rfl, rfl⟩, rfl, rfl, hrefunded 2 _ ⟨rfl, rfl⟩⟩

end Sale

end HightowerPos
