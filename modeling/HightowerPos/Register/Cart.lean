import HightowerPos.Services.Checkout
import Mathlib.Data.Rat.Floor

/-!
# The cart of the register

The lines of `store/cart.ts` with the columns that the totals and the payment panel read.
A number of the client is exact: a unit price and a quantity are integers, and the tax rate
is the rational number that it stands for.  For integers this holds of the client as long as they,
and the sums and products that are made of them, are safe integers, less than 2 ^ 53.
-/

namespace HightowerPos.Register

/-- A line of the cart. -/
structure CartLine where
  sku : String
  name : String
  unitPriceCents : Cents
  taxRate : ℚ
  isTaxable : Bool
  warehouseId : String
  binId : String
  quantity : Int

structure CartTotals where
  subtotalCents : Cents
  taxCents : Cents
  totalCents : Cents
deriving Repr, DecidableEq

/-- `unit_price_cents * quantity`. -/
def CartLine.lineTotal (line : CartLine) : Cents := line.unitPriceCents * line.quantity

/-- `computeTotals`.  `Math.round` takes a half up, as `round` does. -/
def computeTotals (lines : List CartLine) : CartTotals :=
  let sums := lines.foldl (fun (sums : Cents × Cents) line ↦
    (sums.1 + line.lineTotal,
      if line.isTaxable then sums.2 + round (line.lineTotal * line.taxRate) else sums.2)) (0, 0)
  { subtotalCents := sums.1, taxCents := sums.2, totalCents := sums.1 + sums.2 }

/-- What is sent of a line. -/
def CartLine.payload (l : CartLine) : Checkout.CartLineIn where
  sku := l.sku
  name := l.name
  warehouseId := l.warehouseId
  binId := l.binId
  quantity := l.quantity
  isTaxable := l.isTaxable

/-- `buildLinesPayload`. -/
def buildLinesPayload (lines : List CartLine) : List Checkout.CartLineIn :=
  lines.map CartLine.payload

/-- What the client adds for the tax of a line. -/
def CartLine.tax (line : CartLine) : Cents :=
  if line.isTaxable then round (line.lineTotal * line.taxRate) else 0

/-- The loop of `computeTotals` adds up the lines. -/
theorem computeTotals_eq (lines : List CartLine) :
    computeTotals lines =
      { subtotalCents := (lines.map CartLine.lineTotal).sum
        taxCents := (lines.map CartLine.tax).sum
        totalCents := (lines.map CartLine.lineTotal).sum + (lines.map CartLine.tax).sum } := by
  have hloop (sums : Cents × Cents) :
      lines.foldl (fun (sums : Cents × Cents) line ↦ (sums.1 + line.lineTotal,
        if line.isTaxable then sums.2 + round (line.lineTotal * line.taxRate) else sums.2)) sums =
      (sums.1 + (lines.map CartLine.lineTotal).sum, sums.2 + (lines.map CartLine.tax).sum) := by
    induction lines generalizing sums with
    | nil => simp
    | cons line lines ih =>
        rw [List.foldl_cons, ih]
        simp only [List.map_cons, List.sum_cons, CartLine.tax]
        split
        · simp only [add_assoc]
        · simp only [add_assoc, zero_add]
  unfold computeTotals
  simp only [hloop, zero_add]

end HightowerPos.Register
