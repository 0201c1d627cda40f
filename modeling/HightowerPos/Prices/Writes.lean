import HightowerPos.Data.Assign
import HightowerPos.Data.Collect
import HightowerPos.Prices.Cents
import HightowerPos.Service
import HightowerPos.Services.FabricPriceSync

/-!
# Who wrote a price last

The imports and the syncs that succeed assign pairs of a SKU and cents, one at a time
(`Write.pairs`); that the sync writes in batches makes no difference (`flatten_batches`).  So the
last write of a SKU wins (`last_write_wins`).
-/

namespace HightowerPos.Pricing

open FabricPriceSync

/-! ## Columns -/

section Columns

variable {α : Type} {f : POSPrice → α} {prices : Table POSPrice POSPrice.sku}

/-- A column of the rows, by SKU. -/
def column (f : POSPrice → α) (prices : Table POSPrice POSPrice.sku) (sku : String) : Option α :=
  (prices.get? sku).map f

/-- The price of each SKU. -/
def priceMap : Table POSPrice POSPrice.sku → String → Option Cents := column (·.unitPriceCents)

/-- **An upsert of many rows assigns one pair at a time**, in a column that the conflict assigns. -/
theorem column_upsertAll {conflict : Cents → Time → Update POSPrice POSPrice.sku} {now : Time}
    {g : Cents → α} (hnew : ∀ sku cents, f ((newPrice cents now).build sku) = g cents)
    (hset : ∀ cents p, f ((conflict cents now).set p) = g cents) (rows : List (String × Cents))
    (prices : Table POSPrice POSPrice.sku) :
    column f (upsertAll conflict now rows prices) =
      assign (column f prices) (rows.map fun row ↦ (row.1, g row.2)) := by
  induction rows generalizing prices with
  | nil => rfl
  | cons row rows ih =>
      refine (ih (prices.upsert row.1 _ _)).trans ?_
      rw [List.map_cons, assign_cons]
      congr 1
      funext sku
      rw [column, Table.get?_upsert, Function.update_apply]
      split
      · cases prices.get? row.1 with
        | none => exact congrArg some (hnew row.1 row.2)
        | some p => exact congrArg some (hset row.2 p)
      · rfl

end Columns

/-! ## Batches -/

section Batches

variable {α : Type}

theorem flatten_slices (size : Nat) (payload : List α) (n : Nat) :
    ((List.range n).map fun i ↦ (payload.drop (i * size)).take size).flatten =
      payload.take (n * size) := by
  induction n with
  | zero => rw [Nat.zero_mul, List.take_zero, List.range_zero, List.map_nil, List.flatten_nil]
  | succ n ih =>
      rw [List.range_succ, List.map_append, List.flatten_append, ih, Nat.succ_mul, List.take_add,
        List.map_singleton, List.flatten_singleton]

/-- The batches are the payload. -/
theorem flatten_batches {size : Nat} (hsize : 0 < size) (payload : List α) :
    (batches size payload).flatten = payload := by
  have hlength : payload.length ≤ (payload.length + size - 1) / size * size := by
    have hdiv := Nat.div_add_mod' (payload.length + size - 1) size
    have hmod := Nat.mod_lt (payload.length + size - 1) hsize
    omega
  rw [batches, flatten_slices, List.take_of_length_le hlength]

theorem batches_nil (size : Nat) : batches size ([] : List α) = [] := by
  have hcount : (0 + size - 1) / size = 0 := by
    cases size with
    | zero => rfl
    | succ size => exact Nat.div_eq_of_lt (by omega)
  rw [batches, List.length_nil, hcount, List.range_zero, List.map_nil]

end Batches

/-! ## Statements -/

section Statements

variable {limits : Limits} {prices prices' : Table POSPrice POSPrice.sku}

/-- The text and the cents of a row. -/
def pairOf (row : PyStr × Int) : Option (String × Cents) := row.1.encode.map fun sku ↦ (sku, row.2)

theorem pairOf_of_bindRow {row : PyStr × Int} {pair : String × Cents}
    (h : bindRow row = .ok pair) : pairOf row = some pair := by
  unfold bindRow bindInteger at h
  unfold pairOf
  cases hencode : row.1.encode with
  | none =>
      rw [hencode] at h
      cases h
  | some sku =>
      rw [hencode] at h
      dsimp only at h
      split at h
      · cases h
        rfl
      · cases h

theorem pairOf_comp_ofString :
    pairOf ∘ (fun row : String × Cents ↦ (PyStr.ofString row.1, row.2)) = some := by
  funext row
  rw [Function.comp_apply, pairOf, PyStr.encode_ofString]
  rfl

/-- What a statement does to the prices; no row is dropped. -/
theorem execute_ok {conflict : Cents → Time → Update POSPrice POSPrice.sku} {now : Time}
    {rows : List (PyStr × Int)} (h : execute limits conflict now rows prices = .ok prices') :
    prices' = upsertAll conflict now (rows.filterMap pairOf) prices ∧
      (rows.filterMap pairOf).length = rows.length := by
  unfold execute at h
  split at h
  · cases h
  · cases hbound : rows.mapM bindRow with
    | error e =>
        rw [hbound] at h
        cases h
    | ok bound =>
        rw [hbound] at h
        cases h
        have hread := mapM_eq_ok_iff.mp hbound
        have hpairs : rows.filterMap pairOf = bound.filterMap some :=
          filterMap_eq_of_forall₂ (fun _ _ ↦ pairOf_of_bindRow) hread
        rw [hpairs, List.filterMap_some]
        exact ⟨rfl, hread.length_eq.symm⟩

/-- A SKU, its cents, and the time of the statement that writes them. -/
abbrev Entry : Type := String × Cents × Time

/-- What the statements of a sync write, from the `k`-th on. -/
def entriesFrom (clock : Nat → Time) : Nat → List (List (PyStr × Int)) → List Entry
  | _, [] => []
  | k, part :: parts =>
      (part.filterMap pairOf).map (fun pair ↦ (pair.1, pair.2, clock k)) ++
        entriesFrom clock (k + 1) parts

/-- The pairs are those of the payload, in whatever batches. -/
theorem map_entriesFrom (clock : Nat → Time) (k : Nat) (parts : List (List (PyStr × Int))) :
    (entriesFrom clock k parts).map (fun e ↦ (e.1, e.2.1)) = parts.flatten.filterMap pairOf := by
  induction parts generalizing k with
  | nil => rfl
  | cons part parts ih =>
      rw [entriesFrom, List.map_append, ih, List.map_map, List.flatten_cons, List.filterMap_append]
      congr 1
      exact List.map_id _

/-- What the statements of a sync do to a column. -/
theorem column_executeAll {α : Type} {f : POSPrice → α} {g : Cents → Time → α}
    (hnew : ∀ sku cents now, f ((newPrice cents now).build sku) = g cents now)
    (hset : ∀ cents now p, f ((fabricConflict cents now).set p) = g cents now)
    {clock : Nat → Time} {parts : List (List (PyStr × Int))}
    (h : executeAll limits clock parts prices = .ok prices') :
    column f prices' =
      assign (column f prices)
        ((entriesFrom clock 0 parts).map fun e ↦ (e.1, g e.2.1 e.2.2)) := by
  unfold executeAll at h
  generalize 0 = k at h ⊢
  induction parts generalizing k prices with
  | nil =>
      cases h
      rfl
  | cons part parts ih =>
      rw [List.zipIdx_cons, List.foldlM_cons] at h
      cases hpart : execute limits fabricConflict (clock k) part prices with
      | error e =>
          rw [hpart] at h
          cases h
      | ok prices₁ =>
          rw [hpart] at h
          rw [ih (k + 1) h, (execute_ok hpart).1,
            column_upsertAll (fun sku cents ↦ hnew sku cents (clock k))
              (fun cents p ↦ hset cents (clock k) p),
            entriesFrom, List.map_append, assign_append, List.map_map]
          rfl

/-- A sync drops no row. -/
theorem length_executeAll {clock : Nat → Time} {parts : List (List (PyStr × Int))}
    (h : executeAll limits clock parts prices = .ok prices') :
    (parts.flatten.filterMap pairOf).length = parts.flatten.length := by
  unfold executeAll at h
  generalize 0 = k at h
  induction parts generalizing k prices with
  | nil => rfl
  | cons part parts ih =>
      rw [List.zipIdx_cons, List.foldlM_cons] at h
      cases hpart : execute limits fabricConflict (clock k) part prices with
      | error e =>
          rw [hpart] at h
          cases h
      | ok prices₁ =>
          rw [hpart] at h
          rw [List.flatten_cons, List.filterMap_append, List.length_append, List.length_append,
            (execute_ok hpart).2, ih (k + 1) h]

end Statements

/-! ## Files -/

section Files

/-- The data rows of a file that are not blank; none if it is refused. -/
def dataRows (file : List UInt8) (maxRows : Int) : List (Nat × List String) :=
  match readRows (Utf8.decodeSig file) maxRows with
  | .ok rows => rows
  | .error _ => []

/-- The pair of a row that is accepted. -/
def acceptedRow (row : Nat × List String) : Option (String × Cents) :=
  match importRow row with
  | .ok outcome => outcome.getRight?
  | .error _ => none

/-- The line of a row that is rejected. -/
def rejectedRow (row : Nat × List String) : Option RejectedLine :=
  match importRow row with
  | .ok outcome => outcome.getLeft?
  | .error _ => none

/-- The pairs that are accepted, in order. -/
def accepted (file : List UInt8) (maxRows : Int) : List (String × Cents) :=
  (dataRows file maxRows).filterMap acceptedRow

/-- The lines that are rejected, in order. -/
def rejected (file : List UInt8) (maxRows : Int) : List RejectedLine :=
  (dataRows file maxRows).filterMap rejectedRow

/-- What a row that is accepted holds. -/
theorem importRow_accepted {row : Nat × List String} {sku : String} {cents : Cents}
    (h : importRow row = .ok (.inr (sku, cents))) :
    ∃ skuCell priceCell cells d, row.2 = skuCell :: priceCell :: cells ∧
      sku = PyStr.strip skuCell ∧ PyDecimal.parse (PyStr.strip priceCell) = some (.finite d) ∧
      0 ≤ d.coeff ∧ (PyDecimal.finite d).cents = .ok cents := by
  obtain ⟨n, _ | ⟨skuCell, _ | ⟨priceCell, cells⟩⟩⟩ := row
  · cases h
  · cases h
  · unfold importRow at h
    dsimp only at h
    split at h
    · cases h
    · cases hprice : PyDecimal.parse (PyStr.strip priceCell) with
      | none =>
          rw [hprice] at h
          cases h
      | some price =>
          rw [hprice] at h
          cases price with
          | nan => cases h
          | infinity negative => cases negative <;> cases h
          | finite d =>
              dsimp only [PyDecimal.isNegative, bind, Except.bind] at h
              split at h
              · cases h
              · next hsign =>
                  cases hcents : (PyDecimal.finite d).cents with
                  | error e =>
                      rw [hcents] at h
                      cases h
                  | ok n =>
                      rw [hcents] at h
                      cases h
                      rw [decide_eq_true_eq, not_lt] at hsign
                      exact ⟨skuCell, priceCell, cells, d, rfl, rfl, hprice, hsign, hcents⟩

theorem acceptedRow_eq_some_iff {row : Nat × List String} {pair : String × Cents} :
    acceptedRow row = some pair ↔ importRow row = .ok (.inr pair) := by
  unfold acceptedRow
  cases importRow row with
  | error e => exact ⟨fun h ↦ (nomatch h), fun h ↦ (nomatch h)⟩
  | ok outcome =>
      rw [Except.ok.injEq]
      exact Sum.getRight?_eq_some_iff

theorem cents_nonneg {row : Nat × List String} {pair : String × Cents}
    (h : acceptedRow row = some pair) : 0 ≤ pair.2 := by
  obtain ⟨-, -, -, d, -, -, -, hd, hcents⟩ := importRow_accepted (acceptedRow_eq_some_iff.mp h)
  rw [((PyDecimal.cents_eq_ok_iff hd).mp hcents).1, round_eq]
  exact Int.floor_nonneg.mpr (add_nonneg (PyDecimal.hundredfold_nonneg hd) (by norm_num))

variable {limits : Limits} {file : List UInt8} {filename importedBy : String} {maxRows : Int}
  {now : Time} {db db' : Db} {result : ImportResult}

/-- **What an import does.** -/
theorem importCsv_ok
    (h : importCsv limits file filename importedBy maxRows now db = .ok (result, db')) :
    result.rowsImported = (accepted file maxRows).length ∧
      result.rowsRejected = (rejected file maxRows).length ∧
      result.rejectedLines = (rejected file maxRows).take rejectedLinesCap ∧
      db' = { db with
        posPrices := upsertAll csvConflict now (accepted file maxRows) db.posPrices
        posPriceImports := db.posPriceImports.add (newImport filename importedBy
          (accepted file maxRows).length (rejected file maxRows) now) } := by
  unfold importCsv at h
  unfold accepted rejected dataRows
  cases hrows : readRows (Utf8.decodeSig file) maxRows with
  | error e =>
      rw [hrows] at h
      cases h
  | ok rows =>
      rw [hrows] at h
      dsimp only [bind, Except.bind] at h ⊢
      cases houtcomes : rows.mapM importRow with
      | error e =>
          rw [houtcomes] at h
          cases h
      | ok outcomes =>
          rw [houtcomes] at h
          have hread := mapM_eq_ok_iff.mp houtcomes
          have haccepted : rows.filterMap acceptedRow = outcomes.filterMap Sum.getRight? :=
            filterMap_eq_of_forall₂ (fun _ _ hrow ↦ by rw [acceptedRow, hrow]) hread
          have hrejected : rows.filterMap rejectedRow = outcomes.filterMap Sum.getLeft? :=
            filterMap_eq_of_forall₂ (fun _ _ hrow ↦ by rw [rejectedRow, hrow]) hread
          rw [haccepted, hrejected]
          dsimp only at h
          generalize outcomes.filterMap Sum.getRight? = pairs at h ⊢
          split at h
          · next hnil =>
              cases h
              rw [List.map_eq_nil_iff.mp hnil]
              exact ⟨rfl, rfl, rfl, rfl⟩
          · generalize hvalues : pairs.map (fun row ↦ (PyStr.ofString row.1, row.2)) = values at h
            cases hexecute : execute limits csvConflict now values db.posPrices with
            | error e =>
                rw [hexecute] at h
                cases h
            | ok prices =>
                rw [hexecute] at h
                cases h
                have hprices := (execute_ok hexecute).1
                rw [← hvalues, List.filterMap_map, pairOf_comp_ofString,
                  List.filterMap_some] at hprices
                rw [hprices]
                exact ⟨rfl, rfl, rfl, rfl⟩

end Files

/-! ## Catalogs -/

section Catalogs

variable {rt : Runtime} {limits : Limits} {batchSize : Nat} {answer : FabricExchange}
  {clock : Nat → Time} {db db' : Db} {result : SyncResult}

/-- The rows of the catalog; none if the fetch fails. -/
def fetched (rt : Runtime) (answer : FabricExchange) : List (PyStr × Int) :=
  match Fabric.fetchPriceCatalog rt answer with
  | .ok rows => rows
  | .error _ => []

/-- **What a sync does.** -/
theorem syncOnce_ok (h : syncOnce rt limits batchSize answer clock db = .ok (result, db')) :
    executeAll limits clock (batches batchSize (fetched rt answer)) db.posPrices =
        .ok db'.posPrices ∧
      db' = { db with posPrices := db'.posPrices } ∧
      result.rowsUpserted = (fetched rt answer).length ∧ (result.error ≠ none → db' = db) := by
  unfold syncOnce at h
  unfold fetched
  cases hrows : Fabric.fetchPriceCatalog rt answer with
  | error e =>
      rw [hrows] at h
      cases e with
      | fabricClient message =>
          cases h
          exact ⟨by rw [batches_nil]; rfl, rfl, rfl, fun _ ↦ rfl⟩
      | _ => cases h
  | ok rows =>
      rw [hrows] at h
      cases rows with
      | nil =>
          cases h
          exact ⟨by rw [batches_nil]; rfl, rfl, rfl, fun _ ↦ rfl⟩
      | cons row rows =>
          dsimp only at h ⊢
          cases hexecute :
            executeAll limits clock (batches batchSize (row :: rows)) db.posPrices with
          | error e =>
              rw [hexecute] at h
              cases h
          | ok prices =>
              rw [hexecute] at h
              cases h
              exact ⟨rfl, rfl, rfl, fun h ↦ absurd rfl h⟩

end Catalogs

/-! ## Runs -/

/-- What the writes of the service depend on. -/
structure Setup where
  rt : Runtime
  limits : Limits
  batchSize : Nat
  batch_pos : 0 < batchSize

/-- A request to import a file, or a round of the sync loop. -/
inductive Write
  | importCsv (file : List UInt8) (filename importedBy : String) (maxRows : Int) (now : Time)
  | syncOnce (answer : FabricExchange) (clock : Nat → Time)

namespace Write

/-- The tables that the write commits. -/
def run (S : Setup) : Write → Db → Except PyExc Db
  | importCsv file filename importedBy maxRows now, db =>
      (Pricing.importCsv S.limits file filename importedBy maxRows now db).map (·.2)
  | syncOnce answer clock, db =>
      (FabricPriceSync.syncOnce S.rt S.limits S.batchSize answer clock db).map (·.2)

/-- The tables after the write: an exception rolls back. -/
def after (S : Setup) (wr : Write) (db : Db) : Db :=
  match wr.run S db with
  | .ok db' => db'
  | .error _ => db

/-- The pairs of a write, in order. -/
def pairs (rt : Runtime) : Write → List (String × Cents)
  | importCsv file _ _ maxRows _ => accepted file maxRows
  | syncOnce answer _ => (fetched rt answer).filterMap pairOf

/-- The pairs with the times of their statements. -/
def entries (S : Setup) : Write → List Entry
  | importCsv file _ _ maxRows now => (accepted file maxRows).map fun pair ↦ (pair.1, pair.2, now)
  | syncOnce answer clock => entriesFrom clock 0 (batches S.batchSize (fetched S.rt answer))

variable {S : Setup} {wr : Write} {db db' : Db}

/-- **A write assigns its pairs**, one at a time. -/
theorem priceMap_run (h : wr.run S db = .ok db') :
    priceMap db'.posPrices = assign (priceMap db.posPrices) (wr.pairs S.rt) := by
  cases wr with
  | importCsv file filename importedBy maxRows now =>
      obtain ⟨⟨result, db₁⟩, hok, rfl⟩ := exists_of_map_ok h
      obtain ⟨-, -, -, rfl⟩ := importCsv_ok hok
      refine (column_upsertAll (fun _ _ ↦ rfl) (fun _ _ ↦ rfl) _ _).trans ?_
      rw [List.map_id']
      rfl
  | syncOnce answer clock =>
      obtain ⟨⟨result, db₁⟩, hok, rfl⟩ := exists_of_map_ok h
      refine (column_executeAll (fun _ _ _ ↦ rfl) (fun _ _ _ ↦ rfl) (syncOnce_ok hok).1).trans ?_
      rw [map_entriesFrom, flatten_batches S.batch_pos]
      rfl

/-- A write leaves the transactions alone. -/
theorem posTransactions_run (h : wr.run S db = .ok db') :
    db'.posTransactions = db.posTransactions := by
  cases wr with
  | importCsv file filename importedBy maxRows now =>
      obtain ⟨⟨result, db₁⟩, hok, rfl⟩ := exists_of_map_ok h
      obtain ⟨-, -, -, rfl⟩ := importCsv_ok hok
      rfl
  | syncOnce answer clock =>
      obtain ⟨⟨result, db₁⟩, hok, rfl⟩ := exists_of_map_ok h
      have hdb := (syncOnce_ok hok).2.1
      exact (congrArg Db.posTransactions hdb).trans rfl

end Write

/-- The sync raises, or reports an error. -/
def SyncFails (S : Setup) (answer : FabricExchange) (clock : Nat → Time) (db : Db) : Prop :=
  match FabricPriceSync.syncOnce S.rt S.limits S.batchSize answer clock db with
  | .ok (result, _) => result.error ≠ none
  | .error _ => True

theorem after_of_syncFails {S : Setup} {answer : FabricExchange} {clock : Nat → Time} {db : Db}
    (h : SyncFails S answer clock db) : (Write.syncOnce answer clock).after S db = db := by
  unfold SyncFails at h
  rw [Write.after, Write.run]
  cases hrun : FabricPriceSync.syncOnce S.rt S.limits S.batchSize answer clock db with
  | error e => rfl
  | ok out =>
      rw [hrun] at h
      exact (syncOnce_ok hrun).2.2.2 h

/-- A sequence of writes that succeed. -/
inductive Writes (S : Setup) : Db → List Write → Db → Prop
  | nil {db} : Writes S db [] db
  | cons {wr writes db db₁ db'} : wr.run S db = .ok db₁ → Writes S db₁ writes db' →
      Writes S db (wr :: writes) db'

theorem priceMap_writes {S : Setup} {db db' : Db} {writes : List Write}
    (h : Writes S db writes db') :
    priceMap db'.posPrices = assign (priceMap db.posPrices) (writes.flatMap (·.pairs S.rt)) := by
  induction h with
  | nil => rfl
  | cons hrun _ ih => rw [ih, Write.priceMap_run hrun, List.flatMap_cons, assign_append]

/-- **The last write of a SKU wins.**  The pairs of the imports and the syncs that succeed are
assigned one at a time, in order, whatever the size of the batches; other SKUs keep their prices.
An import counts the rows that it accepts and rejects, and lists the first of those.  A price is the
amount times 100, rounded half up.  A sync that fails leaves the tables as they were. -/
theorem last_write_wins (S : Setup) :
    (∀ db writes db', Writes S db writes db' →
      priceMap db'.posPrices = assign (priceMap db.posPrices) (writes.flatMap (·.pairs S.rt)) ∧
        ∀ sku, sku ∉ (writes.flatMap (·.pairs S.rt)).map (·.1) →
          priceMap db'.posPrices sku = priceMap db.posPrices sku) ∧
    (∀ file filename importedBy maxRows now db result db',
      importCsv S.limits file filename importedBy maxRows now db = .ok (result, db') →
        result.rowsImported = (accepted file maxRows).length ∧
          result.rowsRejected = (rejected file maxRows).length ∧
          result.rejectedLines = (rejected file maxRows).take rejectedLinesCap ∧
          db'.posPriceImports = db.posPriceImports.add
            (newImport filename importedBy (accepted file maxRows).length (rejected file maxRows)
              now)) ∧
    (∀ answer clock db result db',
      syncOnce S.rt S.limits S.batchSize answer clock db = .ok (result, db') →
        result.rowsUpserted = ((Write.syncOnce answer clock).pairs S.rt).length) ∧
    (∀ row sku cents, acceptedRow row = some (sku, cents) →
      ∃ skuCell priceCell cells d, row.2 = skuCell :: priceCell :: cells ∧
        sku = PyStr.strip skuCell ∧ PyDecimal.parse (PyStr.strip priceCell) = some (.finite d) ∧
        0 ≤ d.coeff ∧ (d.Precise → cents = round (d.toRat * 100))) ∧
    ∀ answer clock db, SyncFails S answer clock db →
      (Write.syncOnce answer clock).after S db = db := by
  refine ⟨?_, ?_, ?_, ?_, fun _ _ _ ↦ after_of_syncFails⟩
  · intro db writes db' h
    have hmap := priceMap_writes h
    refine ⟨hmap, fun sku hsku ↦ ?_⟩
    rw [hmap, assign_eq, lastValue_eq_none_iff.mpr hsku, Option.none_or]
  · intro file filename importedBy maxRows now db result db' h
    obtain ⟨himported, hrejected, hlines, rfl⟩ := importCsv_ok h
    exact ⟨himported, hrejected, hlines, rfl⟩
  · intro answer clock db result db' h
    obtain ⟨hexecute, -, hrows, -⟩ := syncOnce_ok h
    have hlength := length_executeAll hexecute
    rw [flatten_batches S.batch_pos] at hlength
    rw [hrows, Write.pairs, hlength]
  · intro row sku cents h
    obtain ⟨skuCell, priceCell, cells, d, hcells, hsku, hprice, hd, hcents⟩ :=
      importRow_accepted (acceptedRow_eq_some_iff.mp h)
    exact ⟨skuCell, priceCell, cells, d, hcells, hsku, hprice, hd,
      fun hprecise ↦ PyDecimal.cents_of_precise hd hprecise hcents⟩

/-! ## A run -/

/-- Batches of two rows. -/
def Setup.sample : Setup := ⟨.sample, ⟨16383⟩, 2, by decide⟩

/-- A file that names a mug twice, and a catalog of three rows that names it twice more. -/
def Write.samples : List Write :=
  [.importCsv "sku,price\nmug,1.005\ncup,abc\nmug,2.50\npen,1\n".toUTF8.toList "upload.csv"
      "admin" 10 0,
    .syncOnce (.response 200 "" (some (.array (["mug", "cup", "mug"].zipIdx.map fun row ↦
      .object [(.ofString "sku", .str (.ofString row.1)),
        (.ofString "unit_price_cents", .int row.2)])))) fun _ ↦ 0]

theorem exists_writes {S : Setup} {db : Db} {writes : List Write}
    (h : (writes.foldlM (fun db wr ↦ Write.run S wr db) db).isOk = true) :
    ∃ db', Writes S db writes db' := by
  induction writes generalizing db with
  | nil => exact ⟨db, .nil⟩
  | cons wr writes ih =>
      rw [List.foldlM_cons] at h
      cases hrun : wr.run S db with
      | error e =>
          rw [hrun] at h
          cases h
      | ok db₁ =>
          rw [hrun] at h
          obtain ⟨db', hwrites⟩ := ih h
          exact ⟨db', .cons hrun hwrites⟩

/-- The sync runs last, but it does not name the pen. -/
theorem last_write_wins_sample :
    ∃ db', Writes .sample (.sample (.sample .complete)) Write.samples db' ∧
      priceMap db'.posPrices "mug" = some 2 ∧ priceMap db'.posPrices "pen" = some 100 := by
  obtain ⟨db', h⟩ : ∃ db', Writes .sample (.sample (.sample .complete)) Write.samples db' :=
    exists_writes (by decide +kernel)
  have hmap := ((last_write_wins .sample).1 _ _ _ h).1
  refine ⟨db', h, ?_, ?_⟩
  · rw [hmap]
    decide +kernel
  · rw [hmap]
    decide +kernel

end HightowerPos.Pricing
