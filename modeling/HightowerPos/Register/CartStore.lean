import HightowerPos.Data.Keyed
import HightowerPos.Register.Cart

/-!
# The cart store

The operations of `store/cart.ts`, with what `newLineId` returns as an argument: its `n`-th call
within an operation returns `newLineId n`.  A split is saved through `SplitLineModal`, which is
reset whenever the line that it shows changes.
-/

namespace HightowerPos.Register

/-! ## Lines and locations -/

structure BinAvailability where
  binId : String
  binName : String
  qty : Int

structure WarehouseAvailability where
  warehouseId : String
  warehouseName : String
  qtyAvailable : Int
  bins : List BinAvailability

/-- What is read of an `ItemLookupResponse`. -/
structure Item where
  sku : String
  name : String
  unitPriceCents : Cents
  taxRate : ℚ
  isTaxable : Bool
  availability : List WarehouseAvailability

/-- A line as the store has it. -/
structure StoreLine extends CartLine where
  id : String
  warehouseName : String
  binName : String
  availability : List WarehouseAvailability

structure DefaultLocation where
  warehouseId : String := ""
  warehouseName : String := ""
  binId : String := ""
  binName : String := ""

/-- The first bin with stock, or else the first one. -/
def WarehouseAvailability.defaultBin (wh : WarehouseAvailability) : Option BinAvailability :=
  (wh.bins.find? fun b ↦ 0 < b.qty).or wh.bins.head?

/-- `pickDefaultLocation`. -/
def pickDefaultLocation (availability : List WarehouseAvailability) : Option DefaultLocation :=
  ((availability.find? fun w ↦ 0 < w.qtyAvailable).or availability.head?).map fun wh ↦
    match wh.defaultBin with
    | none => { warehouseId := wh.warehouseId, warehouseName := wh.warehouseName }
    | some bin =>
        { warehouseId := wh.warehouseId
          warehouseName := wh.warehouseName
          binId := bin.binId
          binName := bin.binName }

/-- The warehouse that a line knows under an id. -/
def StoreLine.warehouse (line : StoreLine) (warehouseId : String) :
    Option WarehouseAvailability :=
  line.availability.find? fun w ↦ w.warehouseId = warehouseId

/-- The bin that a line knows there. -/
def StoreLine.bin (line : StoreLine) (warehouseId binId : String) : Option BinAvailability :=
  (line.warehouse warehouseId).bind fun wh ↦ wh.bins.find? fun b ↦ b.binId = binId

/-! ## Operations -/

/-- The line that `addItem` appends. -/
def newLine (id : String) (item : Item) (location : DefaultLocation) : StoreLine where
  id := id
  sku := item.sku
  name := item.name
  unitPriceCents := item.unitPriceCents
  taxRate := item.taxRate
  isTaxable := item.isTaxable
  warehouseId := location.warehouseId
  warehouseName := location.warehouseName
  binId := location.binId
  binName := location.binName
  quantity := 1
  availability := item.availability

/-- The update of `addItem` and `setQuantity`. -/
def StoreLine.withQuantity (line : StoreLine) (quantity : Int) : StoreLine :=
  { line with quantity := quantity }

/-- `addItem`. -/
def addItem (newLineId : Nat → String) (item : Item) (lines : List StoreLine) : List StoreLine :=
  let location := (pickDefaultLocation item.availability).getD {}
  match lines.find? fun l ↦ l.sku = item.sku ∧ l.warehouseId = location.warehouseId ∧
      l.binId = location.binId with
  | some existing =>
      lines.map fun l ↦ if l.id = existing.id then l.withQuantity (l.quantity + 1) else l
  | none => lines ++ [newLine (newLineId 0) item location]

/-- `removeLine`. -/
def removeLine (id : String) (lines : List StoreLine) : List StoreLine :=
  lines.filter fun l ↦ l.id ≠ id

/-- `setQuantity`.  `Math.floor` leaves an integer as it is. -/
def setQuantity (id : String) (quantity : Int) (lines : List StoreLine) : List StoreLine :=
  lines.map fun l ↦ if l.id = id then l.withQuantity (max 1 quantity) else l

/-- The update of `setWarehouseBin`. -/
def StoreLine.relocate (warehouseId binId : String) (line : StoreLine) : StoreLine :=
  { line with
    warehouseId := warehouseId
    warehouseName := ((line.warehouse warehouseId).map (·.warehouseName)).getD line.warehouseName
    binId := binId
    binName := ((line.bin warehouseId binId).map (·.binName)).getD line.binName }

/-- `setWarehouseBin`. -/
def setWarehouseBin (id warehouseId binId : String) (lines : List StoreLine) : List StoreLine :=
  lines.map fun l ↦ if l.id = id then l.relocate warehouseId binId else l

structure SplitSpec where
  warehouseId : String
  binId : String
  quantity : Int

/-- A line of the replacement of `splitLine`. -/
def StoreLine.split (original : StoreLine) (id : String) (s : SplitSpec) : StoreLine :=
  { original with
    id := id
    warehouseId := s.warehouseId
    warehouseName := ((original.warehouse s.warehouseId).map (·.warehouseName)).getD ""
    binId := s.binId
    binName := ((original.bin s.warehouseId s.binId).map (·.binName)).getD ""
    quantity := s.quantity }

/-- `replacement` of `splitLine`. -/
def replacement (newLineId : Nat → String) (original : StoreLine) (splits : List SplitSpec) :
    List StoreLine :=
  (splits.filter fun s ↦ 0 < s.quantity).mapIdx fun n s ↦ original.split (newLineId n) s

/-- `splitLine`. -/
def splitLine (newLineId : Nat → String) (id : String) (splits : List SplitSpec)
    (lines : List StoreLine) : List StoreLine :=
  match lines.find? fun l ↦ l.id = id with
  | none => lines
  | some original =>
      if replacement newLineId original splits = [] then lines
      else lines.flatMap fun l ↦
        if l.id = id then replacement newLineId original splits else [l]

/-! ## The split modal -/

structure SplitRow where
  warehouseId : String
  warehouseName : String
  binId : String
  qty : Int
  qtyAvailable : Int

/-- `buildInitialRows`. -/
def buildInitialRows (line : StoreLine) : List SplitRow :=
  line.availability.map fun wh ↦
    { warehouseId := wh.warehouseId
      warehouseName := wh.warehouseName
      binId := if wh.warehouseId = line.warehouseId then line.binId
        else (wh.defaultBin.map (·.binId)).getD ""
      qty := if wh.warehouseId = line.warehouseId then line.quantity else 0
      qtyAvailable := wh.qtyAvailable }

/-- `setRowQty`. -/
def setRowQty (warehouseId : String) (qty : Int) (rows : List SplitRow) : List SplitRow :=
  rows.map fun r ↦ if r.warehouseId = warehouseId then { r with qty := max 0 qty } else r

/-- `total`. -/
def rowsTotal (rows : List SplitRow) : Int := rows.foldl (fun sum r ↦ sum + r.qty) 0

/-- `isValid`. -/
def isValid (line : StoreLine) (rows : List SplitRow) : Bool :=
  rowsTotal rows = line.quantity && rows.any fun r ↦ 0 < r.qty

/-- The splits that `handleSave` passes on. -/
def splitsOf (rows : List SplitRow) : List SplitSpec :=
  (rows.filter fun r ↦ 0 < r.qty).map fun r ↦ ⟨r.warehouseId, r.binId, r.qty⟩

/-- `handleSave`. -/
def handleSave (newLineId : Nat → String) (line : StoreLine) (rows : List SplitRow)
    (lines : List StoreLine) : List StoreLine :=
  if isValid line rows then splitLine newLineId line.id (splitsOf rows) lines else lines

/-- The rows of the modal of a line, after the cashier's entries. -/
def editedRows (line : StoreLine) (edits : List (String × Int)) : List SplitRow :=
  edits.foldl (fun rows edit ↦ setRowQty edit.1 edit.2 rows) (buildInitialRows line)

/-- The split modal of the line with an id is opened, edited and saved. -/
def saveSplit (newLineId : Nat → String) (id : String) (edits : List (String × Int))
    (lines : List StoreLine) : List StoreLine :=
  match lines.find? fun l ↦ l.id = id with
  | none => lines
  | some line => handleSave newLineId line (editedRows line edits) lines

/-! ## Sequences of operations -/

inductive CartOp
  | addItem (item : Item)
  | removeLine (id : String)
  | setQuantity (id : String) (quantity : Int)
  | setWarehouseBin (id warehouseId binId : String)
  | saveSplit (id : String) (edits : List (String × Int))
  | clear

/-- What an operation makes of the lines. -/
def CartOp.apply (newLineId : Nat → String) : CartOp → List StoreLine → List StoreLine
  | .addItem item, lines => Register.addItem newLineId item lines
  | .removeLine id, lines => Register.removeLine id lines
  | .setQuantity id quantity, lines => Register.setQuantity id quantity lines
  | .setWarehouseBin id warehouseId binId, lines =>
      Register.setWarehouseBin id warehouseId binId lines
  | .saveSplit id edits, lines => Register.saveSplit newLineId id edits lines
  | .clear, _ => []

/-- `newLineId` returns no id twice, and none of the cart. -/
structure Fresh (newLineId : Nat → String) (lines : List StoreLine) : Prop where
  injective : Function.Injective newLineId
  notMem : ∀ n, newLineId n ∉ lines.map (·.id)

/-- The lines that operations can make of the empty cart. -/
inductive Reached : List StoreLine → Prop
  | empty : Reached []
  | step {lines : List StoreLine} {newLineId : Nat → String} (h : Reached lines)
      (hfresh : Fresh newLineId lines) (op : CartOp) : Reached (op.apply newLineId lines)

end HightowerPos.Register
