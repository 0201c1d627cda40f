import HightowerPos.Prices.Writes

/-!
# Rows that take an import down

An import handles the exception of `Decimal(price_text)`, but not those of the steps after it: the
comparison with a NaN, a product or a `quantize` beyond the default context, a price beyond the
column.  Such a row takes the whole file down (`Digestible`); with the errors of the csv reader and
a statement that is too large, that is all that can (`survives_iff`).
-/

namespace HightowerPos

namespace PyDecimal

/-- The price is refused as negative, or its cents can be computed and stored. -/
def Storable : PyDecimal → Prop
  | finite d => 0 ≤ d.coeff → hundredfold d < 2 ^ 63 - 1 / 2
  | infinity negative => negative = true
  | nan => False

theorem storable_iff {price : PyDecimal} :
    price.Storable ↔ price.isNegative = .ok true ∨
      price.isNegative = .ok false ∧ ∃ n, price.cents = .ok n ∧ n < 2 ^ 63 := by
  cases price with
  | nan =>
      refine ⟨fun h ↦ h.elim, ?_⟩
      rintro (h | ⟨h, -⟩) <;> cases h
  | infinity negative =>
      cases negative with
      | true => exact ⟨fun _ ↦ .inl rfl, fun _ ↦ rfl⟩
      | false =>
          refine ⟨fun h ↦ (nomatch h), ?_⟩
          rintro (h | ⟨-, n, h, -⟩) <;> cases h
  | finite d =>
      have hnegative : (finite d).isNegative = .ok (decide (d.coeff < 0)) := rfl
      change (0 ≤ d.coeff → hundredfold d < 2 ^ 63 - 1 / 2) ↔ _
      rw [hnegative]
      by_cases hd : d.coeff < 0
      · rw [decide_eq_true hd]
        exact ⟨fun _ ↦ .inl rfl, fun _ h ↦ absurd h (not_le.mpr hd)⟩
      · have hlt := cents_lt_iff (not_lt.mp hd)
          (by decide : (2 : Int) ^ 63 ≤ 10 ^ Decimal.precision)
        rw [Int.cast_pow, Int.cast_ofNat] at hlt
        rw [decide_eq_false hd, ← hlt]
        refine ⟨fun h ↦ .inr ⟨rfl, h (not_lt.mp hd)⟩, ?_⟩
        rintro (h | ⟨-, h⟩)
        · cases h
        · exact fun _ ↦ h

end PyDecimal

namespace Pricing

/-! ## Rows -/

section Rows

variable {row : Nat × List String} {cells : List String} {pair : String × Cents}

/-- A row that `import_csv` gets through: one with a SKU and a number has a price that can be
stored. -/
def Digestible (cells : List String) : Prop :=
  match cells with
  | skuCell :: priceCell :: _ => PyStr.strip skuCell ≠ "" →
      ∀ price ∈ PyDecimal.parse (PyStr.strip priceCell), price.Storable
  | _ => True

/-- A row with a SKU and a finite price that is not negative. -/
def Priced (cells : List String) : Bool :=
  match cells with
  | skuCell :: priceCell :: _ => PyStr.strip skuCell ≠ "" &&
      match PyDecimal.parse (PyStr.strip priceCell) with
      | some (.finite d) => 0 ≤ d.coeff
      | _ => false
  | _ => false

/-- **A row goes through** when it is rejected, or its cents fit the column. -/
theorem digestible_iff :
    Digestible row.2 ↔
      ∃ outcome, importRow row = .ok outcome ∧ ∀ pair ∈ outcome.getRight?, pair.2 < 2 ^ 63 := by
  obtain ⟨n, _ | ⟨skuCell, _ | ⟨priceCell, cells⟩⟩⟩ := row
  · exact ⟨fun _ ↦ ⟨_, rfl, fun _ h ↦ nomatch h⟩, fun _ ↦ trivial⟩
  · exact ⟨fun _ ↦ ⟨_, rfl, fun _ h ↦ nomatch h⟩, fun _ ↦ trivial⟩
  · unfold importRow Digestible
    dsimp only
    by_cases hsku : PyStr.strip skuCell = ""
    · rw [if_pos hsku]
      exact ⟨fun _ ↦ ⟨_, rfl, fun _ h ↦ nomatch h⟩, fun _ h ↦ absurd hsku h⟩
    · rw [if_neg hsku]
      cases PyDecimal.parse (PyStr.strip priceCell) with
      | none => exact ⟨fun _ ↦ ⟨_, rfl, fun _ h ↦ nomatch h⟩, fun _ _ _ h ↦ nomatch h⟩
      | some price =>
          have hstorable : (PyStr.strip skuCell ≠ "" → ∀ price' ∈ some price, price'.Storable) ↔
              price.Storable := by
            refine ⟨fun h ↦ h hsku price rfl, fun h _ price' hprice ↦ ?_⟩
            obtain rfl := Option.some.inj hprice
            exact h
          rw [hstorable, PyDecimal.storable_iff]
          dsimp only
          cases price.isNegative with
          | error e =>
              refine ⟨fun h ↦ ?_, ?_⟩
              · rcases h with h | ⟨h, -⟩ <;> cases h
              · rintro ⟨outcome, h, -⟩
                cases h
          | ok negative =>
              cases negative with
              | true => exact ⟨fun _ ↦ ⟨_, rfl, fun _ h ↦ nomatch h⟩, fun _ ↦ .inl rfl⟩
              | false =>
                  constructor
                  · rintro (h | ⟨-, n, hn, hlt⟩)
                    · cases h
                    · refine ⟨.inr (PyStr.strip skuCell, n), ?_, fun pair hpair ↦ ?_⟩
                      · rw [hn]
                        rfl
                      · obtain rfl := Option.some.inj hpair
                        exact hlt
                  · rintro ⟨outcome, h, hlt⟩
                    cases hcents : price.cents with
                    | error e =>
                        rw [hcents] at h
                        cases h
                    | ok n =>
                        rw [hcents] at h
                        cases h
                        exact .inr ⟨rfl, n, rfl, hlt _ rfl⟩

theorem isSome_acceptedRow (h : Digestible row.2) : (acceptedRow row).isSome = Priced row.2 := by
  obtain ⟨n, _ | ⟨skuCell, _ | ⟨priceCell, cells⟩⟩⟩ := row
  · rfl
  · rfl
  · unfold Digestible at h
    unfold acceptedRow importRow Priced
    dsimp only at h ⊢
    by_cases hsku : PyStr.strip skuCell = ""
    · rw [if_pos hsku, decide_eq_false (not_not.mpr hsku), Bool.false_and]
      rfl
    · rw [if_neg hsku, decide_eq_true hsku, Bool.true_and]
      cases hprice : PyDecimal.parse (PyStr.strip priceCell) with
      | none => rfl
      | some price =>
          have hstorable := PyDecimal.storable_iff.mp (h hsku price hprice)
          cases price with
          | nan => rcases hstorable with h | ⟨h, -⟩ <;> cases h
          | infinity negative =>
              rcases hstorable with h | ⟨-, n, h, -⟩
              · cases h
                rfl
              · cases h
          | finite d =>
              dsimp only
              rcases hstorable with hneg | ⟨hneg, n, hn, -⟩
              · have hd : d.coeff < 0 := of_decide_eq_true (Except.ok.inj hneg)
                rw [hneg, decide_eq_false (not_le.mpr hd)]
                rfl
              · have hd := of_decide_eq_false (Except.ok.inj hneg)
                rw [hneg, hn, decide_eq_true (not_lt.mp hd)]
                rfl

/-- A row is accepted or rejected, not both. -/
theorem accepted_or_rejected {outcome : RejectedLine ⊕ String × Cents}
    (h : importRow row = .ok outcome) : (acceptedRow row).isSome = !(rejectedRow row).isSome := by
  rw [acceptedRow, rejectedRow, h]
  cases outcome <;> rfl

theorem length_outcomes {rows : List (Nat × List String)}
    (h : ∀ row ∈ rows, ∃ outcome, importRow row = .ok outcome) :
    (rows.filterMap acceptedRow).length + (rows.filterMap rejectedRow).length = rows.length := by
  induction rows with
  | nil => rfl
  | cons row rows ih =>
      obtain ⟨⟨outcome, houtcome⟩, hrows⟩ := List.forall_mem_cons.mp h
      have hlength := ih hrows
      rw [List.filterMap_cons, List.filterMap_cons, acceptedRow, rejectedRow, houtcome]
      cases outcome with
      | inl line =>
          dsimp only [Sum.getRight?, Sum.getLeft?]
          rw [List.length_cons, List.length_cons]
          omega
      | inr pair =>
          dsimp only [Sum.getRight?, Sum.getLeft?]
          rw [List.length_cons, List.length_cons]
          omega

/-- Only the cells matter. -/
theorem acceptedRow_congr {row' : Nat × List String} (h : row.2 = row'.2) :
    acceptedRow row = acceptedRow row' := by
  obtain ⟨n, cells⟩ := row
  obtain ⟨n', cells'⟩ := row'
  obtain rfl : cells = cells' := h
  unfold acceptedRow importRow
  match cells with
  | [] => rfl
  | [_] => rfl
  | skuCell :: priceCell :: _ =>
      dsimp only
      by_cases hsku : PyStr.strip skuCell = ""
      · rw [if_pos hsku, if_pos hsku]
        rfl
      · rw [if_neg hsku, if_neg hsku]
        cases PyDecimal.parse (PyStr.strip priceCell) with
        | none => rfl
        | some price =>
            dsimp only [bind, Except.bind]
            cases price.isNegative with
            | error e => rfl
            | ok negative => cases negative <;> rfl

end Rows

/-! ## Statements -/

section Statements

variable {limits : Limits} {now : Time} {prices : Table POSPrice POSPrice.sku}

theorem bindRow_ofString {sku : String} {cents : Cents} (hcents : 0 ≤ cents) :
    (∃ pair, bindRow (.ofString sku, cents) = .ok pair) ↔ cents < 2 ^ 63 := by
  unfold bindRow bindInteger
  rw [PyStr.encode_ofString]
  dsimp only
  split
  · next h => exact ⟨fun _ ↦ h.2, fun _ ↦ ⟨_, rfl⟩⟩
  · next h =>
      constructor
      · rintro ⟨pair, hpair⟩
        cases hpair
      · exact fun hlt ↦ absurd ⟨le_trans (by decide) hcents, hlt⟩ h

theorem execute_isOk_iff {conflict : Cents → Time → Update POSPrice POSPrice.sku}
    {rows : List (PyStr × Int)} :
    (∃ prices', execute limits conflict now rows prices = .ok prices') ↔
      rows.length ≤ limits.insertRows ∧ ∀ row ∈ rows, ∃ pair, bindRow row = .ok pair := by
  rw [← exists_mapM_eq_ok_iff]
  unfold execute
  split
  · next h =>
      refine ⟨?_, fun h' ↦ absurd h'.1 (not_le.mpr h)⟩
      rintro ⟨prices', h'⟩
      cases h'
  · next h =>
      constructor
      · rintro ⟨prices', h'⟩
        cases hbound : rows.mapM bindRow with
        | error e =>
            rw [hbound] at h'
            cases h'
        | ok bound => exact ⟨not_lt.mp h, bound, rfl⟩
      · rintro ⟨-, bound, hbound⟩
        rw [hbound]
        exact ⟨_, rfl⟩

end Statements

/-! ## Files -/

section Files

variable {S : Setup} {limits : Limits} {file : List UInt8} {filename importedBy : String}
  {maxRows : Int} {now : Time} {db : Db} {rows : List (Nat × List String)}

/-- The data rows that are not blank, with their numbers. -/
def nonBlank (records : List (List String)) : List (Nat × List String) :=
  ((records.zipIdx 2).map Prod.swap).filter fun row ↦ !isBlank row.2

/-- The header of the file is `sku,price`, and these are its data rows that are not blank, within
the cap. -/
def Admits (file : List UInt8) (maxRows : Int) (rows : List (Nat × List String)) : Prop :=
  ∃ header records, Csv.read (Utf8.decodeSig file) = (header :: records, none) ∧
    header.map normalized = expectedHeader ∧ rows = nonBlank records ∧ (rows.length : Int) ≤ maxRows

theorem readRows_ok_iff :
    readRows (Utf8.decodeSig file) maxRows = .ok rows ↔ Admits file maxRows rows := by
  unfold readRows Admits
  rcases Csv.read (Utf8.decodeSig file) with ⟨_ | ⟨header, records⟩, _ | message⟩
  · refine ⟨fun h ↦ (nomatch h), ?_⟩
    rintro ⟨header, records, h, -⟩
    cases h
  · refine ⟨fun h ↦ (nomatch h), ?_⟩
    rintro ⟨header, records, h, -⟩
    cases h
  · dsimp only
    by_cases hheader : header.map normalized = expectedHeader
    · rw [if_neg (not_not.mpr hheader)]
      split
      · next hmax =>
          refine ⟨fun h ↦ (nomatch h), ?_⟩
          rintro ⟨header', records', h, -, rfl, hle⟩
          cases h
          exact absurd hle (not_le.mpr hmax)
      · next hmax =>
          constructor
          · intro h
            cases h
            exact ⟨header, records, rfl, hheader, rfl, not_lt.mp hmax⟩
          · rintro ⟨header', records', h, -, rfl, -⟩
            cases h
            rfl
    · rw [if_pos hheader]
      refine ⟨fun h ↦ (nomatch h), ?_⟩
      rintro ⟨header', records', h, hheader', -⟩
      cases h
      exact absurd hheader' hheader
  · dsimp only
    split
    · refine ⟨fun h ↦ (nomatch h), ?_⟩
      rintro ⟨header', records', h, -⟩
      cases h
    · refine ⟨fun h ↦ (nomatch h), ?_⟩
      rintro ⟨header', records', h, -⟩
      cases h

/-- The rows go through when each of them has an outcome and the cents fit the column. -/
theorem forall_digestible_iff :
    (∀ row ∈ rows, Digestible row.2) ↔ (∃ outcomes, rows.mapM importRow = .ok outcomes) ∧
      ∀ pair ∈ rows.filterMap acceptedRow, pair.2 < 2 ^ 63 := by
  rw [exists_mapM_eq_ok_iff]
  constructor
  · intro h
    refine ⟨fun row hrow ↦ ?_, fun pair hpair ↦ ?_⟩
    · obtain ⟨outcome, houtcome, -⟩ := digestible_iff.mp (h row hrow)
      exact ⟨outcome, houtcome⟩
    · obtain ⟨row, hrow, haccepted⟩ := List.mem_filterMap.mp hpair
      obtain ⟨outcome, houtcome, hlt⟩ := digestible_iff.mp (h row hrow)
      rw [acceptedRow, houtcome] at haccepted
      exact hlt pair haccepted
  · rintro ⟨houtcomes, hlt⟩ row hrow
    obtain ⟨outcome, houtcome⟩ := houtcomes row hrow
    refine digestible_iff.mpr ⟨outcome, houtcome, fun pair hpair ↦ hlt pair ?_⟩
    refine List.mem_filterMap.mpr ⟨row, hrow, ?_⟩
    rw [acceptedRow, houtcome]
    exact hpair

theorem countP_priced (h : ∀ row ∈ rows, Digestible row.2) :
    rows.countP (Priced ·.2) = (rows.filterMap acceptedRow).length := by
  induction rows with
  | nil => rfl
  | cons row rows ih =>
      obtain ⟨hrow, hrows⟩ := List.forall_mem_cons.mp h
      rw [List.countP_cons, ih hrows, List.filterMap_cons, ← isSome_acceptedRow hrow]
      cases acceptedRow row <;> rfl

/-- The statement of an import succeeds. -/
theorem exists_upserted_iff (now : Time) (db : Db) {pairs : List (String × Cents)}
    (hpairs : ∀ pair ∈ pairs, 0 ≤ pair.2) :
    (∃ prices, (if pairs.map (fun row ↦ (PyStr.ofString row.1, row.2)) = [] then .ok db.posPrices
      else execute limits csvConflict now (pairs.map fun row ↦ (PyStr.ofString row.1, row.2))
        db.posPrices) = Except.ok prices) ↔
      pairs.length ≤ limits.insertRows ∧ ∀ pair ∈ pairs, pair.2 < 2 ^ 63 := by
  split
  · next hnil =>
      rw [List.map_eq_nil_iff.mp hnil]
      exact ⟨fun _ ↦ ⟨Nat.zero_le _, fun _ h ↦ absurd h List.not_mem_nil⟩, fun _ ↦ ⟨_, rfl⟩⟩
  · rw [execute_isOk_iff, List.length_map, List.forall_mem_map]
    refine and_congr_right fun _ ↦ forall₂_congr fun pair hpair ↦ ?_
    exact bindRow_ofString (hpairs pair hpair)

/-- **An import gets through** when each of its rows does, and the statement is not too large. -/
theorem importCsv_isOk_iff (hrows : readRows (Utf8.decodeSig file) maxRows = .ok rows) :
    (∃ out, importCsv limits file filename importedBy maxRows now db = .ok out) ↔
      (∀ row ∈ rows, Digestible row.2) ∧ rows.countP (Priced ·.2) ≤ limits.insertRows := by
  have hnonneg : ∀ pair ∈ rows.filterMap acceptedRow, 0 ≤ pair.2 := by
    intro pair hpair
    obtain ⟨row, -, hrow⟩ := List.mem_filterMap.mp hpair
    exact cents_nonneg hrow
  have hpeel : (∃ out, importCsv limits file filename importedBy maxRows now db = .ok out) ↔
      (∃ outcomes, rows.mapM importRow = .ok outcomes) ∧
        (rows.filterMap acceptedRow).length ≤ limits.insertRows ∧
        ∀ pair ∈ rows.filterMap acceptedRow, pair.2 < 2 ^ 63 := by
    rw [← exists_upserted_iff now db hnonneg]
    unfold importCsv
    rw [hrows]
    dsimp only [bind, Except.bind]
    cases houtcomes : rows.mapM importRow with
    | error e =>
        constructor
        · rintro ⟨out, h⟩
          cases h
        · rintro ⟨⟨outcomes, h⟩, -⟩
          cases h
    | ok outcomes =>
        have haccepted : rows.filterMap acceptedRow = outcomes.filterMap Sum.getRight? :=
          filterMap_eq_of_forall₂ (fun _ _ hrow ↦ by rw [acceptedRow, hrow])
            (mapM_eq_ok_iff.mp houtcomes)
        rw [haccepted]
        dsimp only
        generalize (outcomes.filterMap Sum.getRight?).map
          (fun row ↦ (PyStr.ofString row.1, row.2)) = values
        by_cases hnil : values = []
        · simp only [if_pos hnil]
          exact ⟨fun _ ↦ ⟨⟨_, rfl⟩, _, rfl⟩, fun _ ↦ ⟨_, rfl⟩⟩
        · simp only [if_neg hnil]
          cases execute limits csvConflict now values db.posPrices with
          | error e =>
              constructor
              · rintro ⟨out, h⟩
                cases h
              · rintro ⟨-, prices, h⟩
                cases h
          | ok prices => exact ⟨fun _ ↦ ⟨⟨_, rfl⟩, _, rfl⟩, fun _ ↦ ⟨_, rfl⟩⟩
  rw [hpeel, forall_digestible_iff]
  constructor
  · rintro ⟨houtcomes, hlength, hlt⟩
    refine ⟨⟨houtcomes, hlt⟩, ?_⟩
    rwa [countP_priced (forall_digestible_iff.mpr ⟨houtcomes, hlt⟩)]
  · rintro ⟨h, hcount⟩
    rw [countP_priced (forall_digestible_iff.mpr h)] at hcount
    exact ⟨h.1, hcount, h.2⟩

theorem importCsv_of_error {e : PyExc}
    (h : readRows (Utf8.decodeSig file) maxRows = .error e) :
    importCsv limits file filename importedBy maxRows now db = .error e := by
  unfold importCsv
  rw [h]
  rfl

end Files

/-! ## Imports that survive -/

section Survives

/-- What an import of these rows comes to: each of them is imported or rejected, and without the
rejected ones it comes to the same prices. -/
structure Imported (S : Setup) (filename importedBy : String) (maxRows : Int) (now : Time) (db : Db)
    (rows : List (Nat × List String)) (result : ImportResult) (db' : Db) : Prop where
  counts : result.rowsImported + result.rowsRejected = rows.length
  each : ∀ row ∈ rows, (acceptedRow row).isSome = !(rejectedRow row).isSome
  imported : result.rowsImported = (rows.filterMap acceptedRow).length
  rejected : result.rowsRejected = (rows.filterMap rejectedRow).length
  prices : db'.posPrices = upsertAll csvConflict now (rows.filterMap acceptedRow) db.posPrices
  spared : ∀ file' rows', Admits file' maxRows rows' →
    rows'.map (·.2) = (rows.filter fun row ↦ (acceptedRow row).isSome).map (·.2) →
      ∃ result' db'',
        importCsv S.limits file' filename importedBy maxRows now db = .ok (result', db'') ∧
          result'.rowsImported = result.rowsImported ∧ result'.rowsRejected = 0 ∧
          db''.posPrices = db'.posPrices

/-- The import goes through, or refuses a file that it may refuse and leaves the tables alone. -/
def Survives (S : Setup) (file : List UInt8) (filename importedBy : String) (maxRows : Int)
    (now : Time) (db : Db) : Prop :=
  match importCsv S.limits file filename importedBy maxRows now db with
  | .ok (result, db') => ∃ rows, Admits file maxRows rows ∧
      Imported S filename importedBy maxRows now db rows result db'
  | .error e => (∃ refusal, e = .pricing refusal) ∧ (¬ ∃ rows, Admits file maxRows rows) ∧
      (Write.importCsv file filename importedBy maxRows now).after S db = db

/-- The csv reader gets to the end of a file with the right header; unless there are too many rows,
each is digestible and those with prices fit into one statement. -/
def Tolerable (limits : Limits) (file : List UInt8) (maxRows : Int) : Prop :=
  match Csv.read (Utf8.decodeSig file) with
  | ([], message) => message = none
  | (header :: records, message) => header.map normalized = expectedHeader →
      message = none ∧ (((nonBlank records).length : Int) ≤ maxRows →
        (∀ row ∈ nonBlank records, Digestible row.2) ∧
          (nonBlank records).countP (Priced ·.2) ≤ limits.insertRows)

variable {S : Setup} {limits : Limits} {file : List UInt8} {filename importedBy : String}
  {maxRows : Int} {now : Time} {db db' : Db} {rows rows' : List (Nat × List String)}
  {result : ImportResult}

theorem tolerable_of_admits (h : Admits file maxRows rows) :
    Tolerable limits file maxRows ↔
      (∀ row ∈ rows, Digestible row.2) ∧ rows.countP (Priced ·.2) ≤ limits.insertRows := by
  obtain ⟨header, records, hread, hheader, rfl, hmax⟩ := h
  unfold Tolerable
  rw [hread]
  exact ⟨fun h ↦ (h hheader).2 hmax, fun h _ ↦ ⟨rfl, fun _ ↦ h⟩⟩

theorem tolerable_of_error {e : PyExc}
    (h : readRows (Utf8.decodeSig file) maxRows = .error e) :
    Tolerable limits file maxRows ↔ ∃ refusal, e = .pricing refusal := by
  unfold readRows at h
  unfold Tolerable
  generalize Csv.read (Utf8.decodeSig file) = out at h ⊢
  rcases out with ⟨_ | ⟨header, records⟩, _ | message⟩
  · cases h
    exact ⟨fun _ ↦ ⟨_, rfl⟩, fun _ ↦ rfl⟩
  · cases h
    refine ⟨fun h ↦ (nomatch h), ?_⟩
    rintro ⟨refusal, h⟩
    cases h
  · dsimp only at h ⊢
    by_cases hheader : header.map normalized = expectedHeader
    · rw [if_neg (not_not.mpr hheader)] at h
      split at h
      · next hmax =>
          cases h
          exact ⟨fun _ ↦ ⟨_, rfl⟩, fun _ _ ↦ ⟨rfl, fun hle ↦ absurd hle (not_le.mpr hmax)⟩⟩
      · cases h
    · rw [if_pos hheader] at h
      cases h
      exact ⟨fun _ ↦ ⟨_, rfl⟩, fun _ h ↦ absurd h hheader⟩
  · dsimp only at h ⊢
    by_cases hheader : header.map normalized = expectedHeader
    · rw [if_neg (not_not.mpr hheader)] at h
      cases h
      refine ⟨fun h ↦ (nomatch (h hheader).1), ?_⟩
      rintro ⟨refusal, h⟩
      cases h
    · rw [if_pos hheader] at h
      cases h
      exact ⟨fun _ ↦ ⟨_, rfl⟩, fun _ h ↦ absurd h hheader⟩

/-- The rows that are accepted are accepted without the others. -/
theorem filterMap_accepted (h : rows'.map (·.2) =
      (rows.filter fun row ↦ (acceptedRow row).isSome).map (·.2)) :
    rows'.filterMap acceptedRow = rows.filterMap acceptedRow := by
  have hcells : acceptedRow = (fun cells ↦ acceptedRow (0, cells)) ∘ (·.2) := by
    funext row
    exact acceptedRow_congr rfl
  calc rows'.filterMap acceptedRow
      = (rows'.map (·.2)).filterMap fun cells ↦ acceptedRow (0, cells) := by
        rw [List.filterMap_map, ← hcells]
    _ = (rows.filter fun row ↦ (acceptedRow row).isSome).filterMap acceptedRow := by
        rw [h, List.filterMap_map, ← hcells]
    _ = rows.filterMap acceptedRow := by
        rw [List.filterMap_filter]
        refine List.filterMap_congr fun row _ ↦ ?_
        cases acceptedRow row <;> rfl

theorem digestible_accepted (hrows : ∀ row ∈ rows, Digestible row.2)
    (h : rows'.map (·.2) = (rows.filter fun row ↦ (acceptedRow row).isSome).map (·.2)) :
    ∀ row ∈ rows', Digestible row.2 := by
  intro row' hrow'
  have hmem : row'.2 ∈ (rows.filter fun row ↦ (acceptedRow row).isSome).map (·.2) :=
    h ▸ List.mem_map_of_mem hrow'
  obtain ⟨row, hrow, hcells⟩ := List.mem_map.mp hmem
  rw [← hcells]
  exact hrows row (List.mem_of_mem_filter hrow)

theorem imported_of_ok (hadmits : Admits file maxRows rows)
    (hout : importCsv S.limits file filename importedBy maxRows now db = .ok (result, db')) :
    Imported S filename importedBy maxRows now db rows result db' := by
  have hread : ∀ {file' rows'}, Admits file' maxRows rows' → dataRows file' maxRows = rows' := by
    intro file' rows' h
    rw [dataRows, readRows_ok_iff.mpr h]
  obtain ⟨himported, hrejected, -, hdb⟩ := importCsv_ok hout
  have hprices := congrArg Db.posPrices hdb
  dsimp only at hprices
  unfold accepted at himported hprices
  unfold rejected at hrejected
  rw [hread hadmits] at himported hrejected hprices
  obtain ⟨hrows, hcount⟩ := (importCsv_isOk_iff (readRows_ok_iff.mpr hadmits)).mp ⟨_, hout⟩
  have houtcomes : ∀ row ∈ rows, ∃ outcome, importRow row = .ok outcome :=
    fun row hrow ↦ (digestible_iff.mp (hrows row hrow)).imp fun _ h ↦ h.1
  refine ⟨?_, fun row hrow ↦ ?_, himported, hrejected, hprices, ?_⟩
  · rw [himported, hrejected, length_outcomes houtcomes]
  · obtain ⟨outcome, houtcome⟩ := houtcomes row hrow
    exact accepted_or_rejected houtcome
  · intro file' rows' hadmits' hcells
    have hrows' := digestible_accepted hrows hcells
    have hsame := filterMap_accepted hcells
    have hcount' : rows'.countP (Priced ·.2) ≤ S.limits.insertRows := by
      rwa [countP_priced hrows', hsame, ← countP_priced hrows]
    obtain ⟨⟨result', db''⟩, hout'⟩ :
        ∃ out, importCsv S.limits file' filename importedBy maxRows now db = .ok out :=
      (importCsv_isOk_iff (readRows_ok_iff.mpr hadmits')).mpr ⟨hrows', hcount'⟩
    obtain ⟨himported', hrejected', -, hdb'⟩ := importCsv_ok hout'
    have hprices' := congrArg Db.posPrices hdb'
    dsimp only at hprices'
    unfold accepted at himported' hprices'
    unfold rejected at hrejected'
    rw [hread hadmits'] at himported' hrejected' hprices'
    have hall : (rows'.filterMap acceptedRow).length = rows'.length := by
      have hlength := congrArg List.length hcells
      rw [List.length_map, List.length_map, ← List.countP_eq_length_filter,
        ← List.length_filterMap_eq_countP] at hlength
      rw [hsame, hlength]
    have hcounts := length_outcomes fun row hrow ↦
      (digestible_iff.mp (hrows' row hrow)).imp fun _ h ↦ h.1
    refine ⟨result', db'', hout', ?_, ?_, ?_⟩
    · rw [himported', himported, hsame]
    · omega
    · rw [hprices', hprices, hsame]

/-- **When an import survives its rows.** -/
theorem survives_iff (S : Setup) (file : List UInt8) (filename importedBy : String)
    (maxRows : Int) (now : Time) (db : Db) :
    Survives S file filename importedBy maxRows now db ↔ Tolerable S.limits file maxRows := by
  cases hread : readRows (Utf8.decodeSig file) maxRows with
  | error e =>
      have hout : importCsv S.limits file filename importedBy maxRows now db = .error e :=
        importCsv_of_error hread
      have hrows : ¬ ∃ rows, Admits file maxRows rows := by
        rintro ⟨rows, h⟩
        rw [readRows_ok_iff.mpr h] at hread
        cases hread
      have hafter : (Write.importCsv file filename importedBy maxRows now).after S db = db := by
        rw [Write.after, Write.run, hout]
        rfl
      rw [tolerable_of_error hread, Survives, hout]
      exact ⟨fun h ↦ h.1, fun h ↦ ⟨h, hrows, hafter⟩⟩
  | ok rows =>
      have hadmits := readRows_ok_iff.mp hread
      have hok :
          (∃ out, importCsv S.limits file filename importedBy maxRows now db = .ok out) ↔ _ :=
        importCsv_isOk_iff hread
      rw [tolerable_of_admits hadmits, ← hok, Survives]
      cases hout : importCsv S.limits file filename importedBy maxRows now db with
      | error e =>
          constructor
          · rintro ⟨-, hnone, -⟩
            exact absurd ⟨rows, hadmits⟩ hnone
          · rintro ⟨out, h⟩
            cases h
      | ok out => exact ⟨fun _ ↦ ⟨out, rfl⟩, fun _ ↦ ⟨rows, hadmits, imported_of_ok hadmits hout⟩⟩

/-- Nobody can say whether a NaN is negative. -/
theorem nan_takes_import_down :
    ¬ Survives .sample "sku,price\nmug,NaN\ncup,1.00\n".toUTF8.toList "upload.csv" "admin" 10 0
      (.sample (.sample .complete)) := by
  have hread : readRows (Utf8.decodeSig "sku,price\nmug,NaN\ncup,1.00\n".toUTF8.toList) 10 =
      .ok [(2, ["mug", "NaN"]), (3, ["cup", "1.00"])] := by decide +kernel
  have hrow : importRow (2, ["mug", "NaN"]) = .error .invalidOperation := by decide +kernel
  unfold Survives importCsv
  rw [hread]
  dsimp only [bind, Except.bind]
  rw [List.mapM_cons, hrow]
  rintro ⟨⟨refusal, h⟩, -⟩
  cases h

end Survives

end Pricing

end HightowerPos
