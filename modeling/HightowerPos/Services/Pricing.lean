import HightowerPos.Python.Csv
import HightowerPos.Python.DecimalText
import HightowerPos.World

/-!
# The price cache

`import_csv`, and the multi-row upsert that it shares with the Fabric sync but for the columns that
a conflict assigns.  Either of them reads everything first and writes in one commit, so that what
raises leaves the tables as they were.
-/

namespace HightowerPos.Pricing

/-! ## The upsert -/

/-- What the statements depend on beyond their rows: the most rows that SQLite takes in one
`INSERT`, by its limits on variables and on the length of a statement. -/
structure Limits where
  insertRows : Nat
deriving Repr, DecidableEq

/-- Bind an integer. -/
def bindInteger (n : Int) : Except PyExc Int :=
  if App.FitsInteger n then .ok n else .error .overflow

/-- Bind the values of a row. -/
def bindRow (row : PyStr × Int) : Except PyExc (String × Cents) :=
  match row.1.encode with
  | none => .error .unicodeEncode
  | some sku => (bindInteger row.2).map fun cents ↦ (sku, cents)

/-- A row that is inserted; `updated_at` has a server default. -/
def newPrice (cents : Cents) (now : Time) : Draft POSPrice POSPrice.sku where
  build sku := { sku := sku, unitPriceCents := cents, updatedAt := now.timestamp }

/-- `set_={"unit_price_cents": stmt.excluded.unit_price_cents}`. -/
def csvConflict (cents : Cents) (_ : Time) : Update POSPrice POSPrice.sku where
  set p := { p with unitPriceCents := cents }

/-- The rows of an upsert, one after the other. -/
def upsertAll (conflict : Cents → Time → Update POSPrice POSPrice.sku) (now : Time)
    (rows : List (String × Cents)) (prices : Table POSPrice POSPrice.sku) :
    Table POSPrice POSPrice.sku :=
  rows.foldl (fun t row ↦ t.upsert row.1 (newPrice row.2 now) (conflict row.2 now)) prices

/-- `db.execute(stmt)` for `insert(POSPrice).values(rows).on_conflict_do_update(…)`. -/
def execute (limits : Limits) (conflict : Cents → Time → Update POSPrice POSPrice.sku)
    (now : Time) (rows : List (PyStr × Int)) (prices : Table POSPrice POSPrice.sku) :
    Except PyExc (Table POSPrice POSPrice.sku) :=
  if limits.insertRows < rows.length then .error .operational
  else do
    let bound ← rows.mapM bindRow
    return upsertAll conflict now bound prices

/-! ## The file -/

/-- `REJECTED_LINES_CAP`. -/
def rejectedLinesCap : Nat := 100

/-- The lower case of a character, as far as it is an ASCII letter; that of U+212A is `k`. -/
def lowerChar (c : Char) : Char := if c.toNat = 0x212A then 'k' else c.toLower

/-- `h.strip().lower()`. -/
def normalized (h : String) : String := String.ofList ((PyStr.strip h).toList.map lowerChar)

/-- `not row or all(not cell.strip() for cell in row)`. -/
def isBlank (row : List String) : Bool := row.all fun cell ↦ PyStr.strip cell = ""

/-- The header of the file, and its data rows that are not blank, with their numbers. -/
def readRows (text : List Char) (maxRows : Int) : Except PyExc (List (Nat × List String)) :=
  match Csv.read text with
  | ([], none) => .error (.pricing .emptyCsv)
  | ([], some message) => .error (.csv message)
  | (header :: records, message) =>
      if header.map normalized ≠ expectedHeader then .error (.pricing (.badHeader header))
      else match message with
        | some message => .error (.csv message)
        | none =>
            let rawRows := ((records.zipIdx 2).map Prod.swap).filter fun row ↦ !isBlank row.2
            if maxRows < rawRows.length then
              .error (.pricing (.tooManyRows rawRows.length maxRows))
            else .ok rawRows

/-- What a data row comes to: a line that is rejected, or a SKU with its cents. -/
def importRow (row : Nat × List String) : Except PyExc (RejectedLine ⊕ String × Cents) :=
  let reject (reason : RejectReason) : RejectedLine ⊕ String × Cents :=
    .inl { row := row.1, raw := ",".intercalate row.2, reason := reason }
  match row.2 with
  | skuCell :: priceCell :: _ =>
      let sku := PyStr.strip skuCell
      if sku = "" then .ok (reject .emptySku)
      else match PyDecimal.parse (PyStr.strip priceCell) with
        | none => .ok (reject .priceNotNumeric)
        | some price => do
            if ← price.isNegative then return reject .priceNegative
            else
              let cents ← price.cents
              return .inr (sku, cents)
  | _ => .ok (reject .missingColumns)

/-- `ImportResult`. -/
structure ImportResult where
  rowsImported : Nat
  rowsRejected : Nat
  rejectedLines : List RejectedLine
  importId : Id
deriving Repr, DecidableEq

/-- The row of `pos_price_imports`. -/
def newImport (filename importedBy : String) (rowsImported : Nat) (rejected : List RejectedLine)
    (now : Time) : Draft POSPriceImport POSPriceImport.id where
  build id :=
    let capped := rejected.take rejectedLinesCap
    { id := id
      filename := filename
      rowsImported := rowsImported
      rowsRejected := rejected.length
      rejectedLines := if capped = [] then none else some capped
      importedBy := importedBy
      createdAt := now.timestamp }

/-- `import_csv`, on the tables that it finds. -/
def importCsv (limits : Limits) (file : List UInt8) (filename importedBy : String)
    (maxRows : Int) (now : Time) (db : Db) : Except PyExc (ImportResult × Db) := do
  let rawRows ← readRows (Utf8.decodeSig file) maxRows
  let outcomes ← rawRows.mapM importRow
  let upserts := outcomes.filterMap Sum.getRight?
  let rejected := outcomes.filterMap Sum.getLeft?
  let values := upserts.map fun row ↦ (PyStr.ofString row.1, row.2)
  let posPrices ←
    if values = [] then .ok db.posPrices
    else execute limits csvConflict now values db.posPrices
  let audit := newImport filename importedBy upserts.length rejected now
  return ({ rowsImported := upserts.length
            rowsRejected := rejected.length
            rejectedLines := rejected.take rejectedLinesCap
            importId := db.posPriceImports.fresh },
    { db with posPrices := posPrices, posPriceImports := db.posPriceImports.add audit })

end HightowerPos.Pricing
