import HightowerPos.Prices.BadRows
import HightowerPos.Prices.Dollars
import HightowerPos.Python.CsvText
import HightowerPos.Python.Utf8

/-!
# Price lists as files

A price list is a list of SKUs with their cents.  A file may write it in many ways: with a signature
or without, with fields between quotes or not, with blanks around the cells, more columns and blank
rows.  Each of them is imported exactly (`import_file`).
-/

namespace HightowerPos.Pricing

/-! ## Lists and their files -/

/-- A line of a price list. -/
structure PriceLine where
  sku : String
  cents : ℕ
  sku_ne : sku ≠ ""
  cents_lt : cents < 2 ^ 63

namespace PriceLine

/-- What the line assigns. -/
def pair (line : PriceLine) : String × Cents := (line.sku, line.cents)

/-- The cells of a record that write the line, with blanks around them. -/
inductive Written (line : PriceLine) : List String → Prop
  | cells {skuCell priceCell : String} (hsku : PyStr.strip skuCell = line.sku)
      (hprice : PyStr.strip priceCell = dollars line.cents) (cells : List String) :
      Written line (skuCell :: priceCell :: cells)

end PriceLine

/-- A file with a price list: records of which the first names the columns, and of which the others
write the lines but for blank ones and empty lines, as text and then as octets. -/
structure IsFile (lines : List PriceLine) (header : List String) (records : List (List String))
    (text : List Char) (file : List UInt8) : Prop where
  named : header.map normalized = expectedHeader
  written : List.Forall₂ PriceLine.Written lines (records.filter fun record ↦ !isBlank record)
  short : ∀ record ∈ header :: records, ∀ s ∈ record, s.length ≤ Csv.fieldSizeLimit
  printed : Csv.Text (header :: records) text
  encoded : file = Utf8.signature ++ Utf8.encode text ∨
    text.head? ≠ some Utf8.mark ∧ file = Utf8.encode text

section Files

variable {lines : List PriceLine} {line : PriceLine} {header record : List String}
  {records : List (List String)} {text : List Char} {file : List UInt8}

/-- The records of a file. -/
theorem IsFile.read (h : IsFile lines header records text file) :
    Csv.read (Utf8.decodeSig file) = (header :: records, none) := by
  have hdecode : Utf8.decodeSig file = text := by
    rcases h.encoded with rfl | ⟨hmark, rfl⟩
    · exact Utf8.decodeSig_signature text
    · exact Utf8.decodeSig_encode hmark
  rw [hdecode]
  exact Csv.read_text h.printed h.short

theorem map_nonBlank (records : List (List String)) :
    (nonBlank records).map (·.2) = records.filter fun record ↦ !isBlank record := by
  have hzip (k : ℕ) : ((records.zipIdx k).map Prod.swap).map (·.2) = records := by
    rw [List.map_map]
    exact List.zipIdx_map_fst k records
  conv_rhs => rw [← hzip 2, List.filter_map]
  rfl

/-- The data rows of a file, within the cap. -/
theorem IsFile.rows (h : IsFile lines header records text file) {maxRows : ℤ}
    (hmax : lines.length ≤ maxRows) :
    ∃ rows, readRows (Utf8.decodeSig file) maxRows = .ok rows ∧
      List.Forall₂ (fun line (row : ℕ × List String) ↦ PriceLine.Written line row.2)
        lines rows := by
  have hlines := h.written
  rw [← map_nonBlank, List.forall₂_map_right_iff] at hlines
  refine ⟨nonBlank records, readRows_ok_iff.mpr ⟨header, records, h.read, h.named, rfl, ?_⟩, hlines⟩
  rwa [← hlines.length_eq]

/-- A record is read as the line that it writes. -/
theorem importRow_written {row : ℕ × List String} (h : line.Written row.2) :
    importRow row = .ok (.inr line.pair) := by
  obtain ⟨k, cells⟩ := row
  obtain ⟨hsku, hprice, cells⟩ := h
  have hlt : line.cents < 10 ^ 26 := line.cents_lt.trans (by decide)
  have hsign : (PyDecimal.finite ⟨line.cents, -2⟩).isNegative = .ok false :=
    congrArg Except.ok (decide_eq_false (not_lt.mpr (Int.natCast_nonneg _)))
  unfold importRow
  dsimp only
  rw [hsku, if_neg line.sku_ne, hprice, parse_dollars hlt]
  dsimp only
  rw [hsign, cents_dollars hlt]
  rfl

theorem bindRow_pair (line : PriceLine) :
    bindRow (PyStr.ofString line.pair.1, line.pair.2) = .ok line.pair := by
  have hfits : -2 ^ 63 ≤ (line.cents : Int) ∧ (line.cents : Int) < 2 ^ 63 :=
    ⟨by omega, by exact_mod_cast line.cents_lt⟩
  rw [bindRow, PyStr.encode_ofString]
  dsimp only [PriceLine.pair]
  rw [bindInteger, if_pos hfits]
  rfl

/-- **The statement of a price list.** -/
theorem execute_pairs {limits : Limits} (hrows : lines.length ≤ limits.insertRows)
    (conflict : Cents → Time → Update POSPrice POSPrice.sku) (now : Time)
    (prices : Table POSPrice POSPrice.sku) :
    execute limits conflict now ((lines.map PriceLine.pair).map fun row ↦
      (PyStr.ofString row.1, row.2)) prices =
        .ok (upsertAll conflict now (lines.map PriceLine.pair) prices) := by
  have hbind : (((lines.map PriceLine.pair).map fun row ↦
      (PyStr.ofString row.1, row.2)).mapM bindRow) = .ok (lines.map PriceLine.pair) := by
    rw [mapM_eq_ok_iff, List.forall₂_map_left_iff, List.forall₂_map_left_iff,
      List.forall₂_map_right_iff, List.forall₂_same]
    exact fun line _ ↦ bindRow_pair line
  rw [execute, if_neg (by rw [List.length_map, List.length_map]; omega), hbind]
  rfl

/-- **A price list is imported exactly**, in whatever way its file writes it: every line is
assigned, in order, and no row is rejected. -/
theorem import_file (h : IsFile lines header records text file) (limits : Limits) {maxRows : ℤ}
    (hmax : lines.length ≤ maxRows) (hrows : lines.length ≤ limits.insertRows)
    (filename importedBy : String) (now : Time) (db : Db) :
    ∃ prices, importCsv limits file filename importedBy maxRows now db =
        .ok (⟨lines.length, 0, [], db.posPriceImports.fresh⟩,
          { db with
            posPrices := prices
            posPriceImports := db.posPriceImports.add
              (newImport filename importedBy lines.length [] now) }) ∧
      priceMap prices = assign (priceMap db.posPrices) (lines.map PriceLine.pair) := by
  obtain ⟨rows, hread, hwritten⟩ := h.rows hmax
  have houtcomes : rows.mapM importRow = .ok (lines.map fun line ↦ .inr line.pair) := by
    rw [mapM_eq_ok_iff, List.forall₂_map_right_iff]
    exact hwritten.flip.imp fun row line ↦ importRow_written
  have hright : (lines.map fun line ↦ (.inr line.pair : RejectedLine ⊕ String × Cents)).filterMap
      Sum.getRight? = lines.map PriceLine.pair := by
    rw [List.filterMap_map]
    exact congrFun (List.filterMap_eq_map (f := PriceLine.pair)) lines
  have hleft : (lines.map fun line ↦ (.inr line.pair : RejectedLine ⊕ String × Cents)).filterMap
      Sum.getLeft? = [] := by
    rw [List.filterMap_map, List.filterMap_eq_nil_iff]
    exact fun _ _ ↦ rfl
  refine ⟨upsertAll csvConflict now (lines.map PriceLine.pair) db.posPrices, ?_, ?_⟩
  · rw [importCsv, hread]
    dsimp only [bind, Except.bind]
    rw [houtcomes]
    dsimp only
    rw [hright, hleft]
    split
    · next hnil =>
        obtain rfl := List.map_eq_nil_iff.mp (List.map_eq_nil_iff.mp hnil)
        rfl
    · rw [execute_pairs hrows, List.length_map]
      rfl
  · refine (column_upsertAll (fun _ _ ↦ rfl) (fun _ _ ↦ rfl) _ _).trans ?_
    rw [List.map_id']
    rfl

end Files

/-! ## A file -/

/-- A mug at 12.50 and a cup at 5 cents. -/
def PriceLine.samples : List PriceLine :=
  [⟨"15\" mug", 1250, by decide, by decide⟩, ⟨"cup, blue", 5, by decide, by decide⟩]

/-- The records of the list, with an empty line and a blank row among them. -/
def sampleRecords : List (List String) :=
  [["15\" mug", " 12.50", "wholesale"], [], ["", ""], ["cup, blue", "0.05"]]

/-- They are on lines that end in two ways, with some fields between quotes. -/
def sampleText : String :=
  "SKU,\"price\"\r\n15\" mug, 12.50,wholesale\r\n\n,\n\"cup, blue\",0.05"

open Csv in
theorem isFile_sample : IsFile PriceLine.samples ["SKU", "price"] sampleRecords sampleText.toList
    (Utf8.signature ++ Utf8.encode sampleText.toList) where
  named := by decide +kernel
  written := .cons ⟨by decide +kernel, by decide +kernel, _⟩
    (.cons ⟨by decide +kernel, by decide +kernel, _⟩ .nil)
  short := by decide +kernel
  printed := by
    have hplain : ∀ s ∈ ["SKU", "15\" mug", " 12.50", "wholesale", "", "0.05"],
        s.toList.head? ≠ some '"' ∧ ∀ c ∈ s.toList, c ≠ ',' ∧ c ≠ '\n' ∧ c ≠ '\r' := by
      simp
    simp only [List.forall_mem_cons] at hplain
    obtain ⟨hsku, hmug, hprice, hwholesale, hblank, hcup, -⟩ := hplain
    have hcell {s : String} (h : s.toList.head? ≠ some '"' ∧
        ∀ c ∈ s.toList, c ≠ ',' ∧ c ≠ '\n' ∧ c ≠ '\r') : Cell s s.toList := .plain h.1 h.2
    have hline : Line ["15\" mug", " 12.50", "wholesale"] _ :=
      .cons (hcell hmug) (.cons (hcell hprice) (.last (hcell hwholesale)))
    exact .consCr (.line (.cons (hcell hsku) (.last .quoted)) (by decide))
      (.consCr (.line hline (by decide)) (.cons .empty
        (.cons (.line (.cons (hcell hblank) (.last (hcell hblank))) (by decide))
          (.last (.cons .quoted (.last (hcell hcup))) (by decide)))))
  encoded := .inl rfl

theorem import_file_sample :
    ∃ result db', importCsv ⟨2⟩ (Utf8.signature ++ Utf8.encode sampleText.toList) "prices.csv"
        "admin" 2 0 (.sample (.sample .complete)) = .ok (result, db') ∧
      result.rowsImported = 2 ∧ priceMap db'.posPrices "cup, blue" = some 5 := by
  obtain ⟨prices, hok, hprices⟩ := import_file isFile_sample ⟨2⟩
    (by decide : (2 : ℤ) ≤ 2) (by decide) "prices.csv" "admin" 0 (.sample (.sample .complete))
  refine ⟨_, _, hok, rfl, ?_⟩
  dsimp only
  rw [hprices]
  decide +kernel

end HightowerPos.Pricing
