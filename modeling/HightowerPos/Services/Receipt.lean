import HightowerPos.Clients.WindcaveReply
import HightowerPos.Python.Datetime
import HightowerPos.Python.Float
import HightowerPos.Services.Checkout

/-!
# Receipts

`services/receipt.py`.  The text of an id (`uuid`) and what lxml makes of a text that is stored
with a transaction (`lxml`, `none` for an `XMLSyntaxError`) are parameters.
-/

namespace HightowerPos.Receipt

/-- `RECEIPT_WIDTH`. -/
def receiptWidth : Nat := 30

/-- The settings that a receipt shows. -/
structure StoreSettings where
  storeName : String := "Hightower"
  storeAddressLine1 : String := ""
  storeAddressLine2 : String := ""
  storePhone : String := ""
  taxRate : PyFloat := .nearest false (81 / 1000) (by norm_num)

/-- `text[:n]`. -/
def cut (text : String) (n : Nat) : String := String.ofList (text.toList.take n)

/-- `c * n`. -/
def repeated (c : Char) (n : Nat) : String := String.ofList (List.replicate n c)

/-- `_center`, where `str.center` puts the odd blank to the left if `width` is odd. -/
def center (text : String) (width : Nat) : String :=
  let text := PyStr.strip text
  if width ≤ text.length then cut text width
  else
    let margin := width - text.length
    let left := margin / 2 + (margin &&& width &&& 1)
    repeated ' ' left ++ text ++ repeated ' ' (margin - left)

/-- `_pad_pair`. -/
def padPair (left right : String) (width : Nat) : String :=
  if width < left.length + right.length + 1 then
    cut left (width - right.length - 1) ++ " " ++ right
  else left ++ repeated ' ' (width - left.length - right.length) ++ right

/-- `_money`. -/
def money (cents : Cents) (signed : Bool := false) : Except PyExc String := do
  if signed ∧ cents < 0 then
    return "-$" ++ (← PyFloat.hundredth cents.natAbs).fixed2
  return "$" ++ (← PyFloat.hundredth cents).fixed2

/-- What `_cart_body_lines` prints to the right of a line. -/
def lineAmount (isRefund : Bool) (line : RichLine) : Except PyExc String :=
  if isRefund then (money line.lineTotalCents.natAbs).map ("-" ++ ·)
  else money line.lineTotalCents

/-- The lines of `_cart_body_lines` for one line of the cart. -/
def cartLine (isRefund : Bool) (line : RichLine) : Except PyExc (List String) := do
  let header := if line.name = "" then line.sku else PyStr.strip (line.sku ++ " " ++ line.name)
  let unitPrice ← PyFloat.hundredth line.unitPriceCents
  let right ← lineAmount isRefund line
  let left := "  Qty " ++ (← PyStr.ofNat line.quantity.natAbs) ++ " @ $" ++ unitPrice.fixed2
  return [cut header receiptWidth, padPair left right receiptWidth]

/-- `_cart_body_lines`. -/
def cartBodyLines (isRefund : Bool) (cart : List RichLine) : Except PyExc (List String) := do
  return (← cart.mapM (cartLine isRefund)).flatten

/-- The lines of `_tender_lines` for one tender. -/
def tenderLine (isRefund : Bool) (tender : Tender) : Except PyExc (List String) :=
  match tender.type with
  | .card =>
      let brand := (Checkout.orNone tender.cardBrand).getD "Card"
      let last4 := (Checkout.orNone tender.cardLast4).getD "----"
      let paid := (if isRefund then "Refunded to: " else "Paid: ") ++ brand ++ " ****" ++ last4
      .ok (paid :: ((Checkout.orNone tender.authCode).map ("Auth: " ++ ·)).toList)
  | .cash =>
      if isRefund then do
        let returned ← money tender.amountCents.natAbs
        return [padPair "Cash returned" returned receiptWidth]
      else do
        let tendered := (tender.amountTenderedCents.filter (· ≠ 0)).getD tender.amountCents
        let change := tender.changeCents.getD 0
        let tendered ← money tendered
        let change ← money change
        return [padPair "Cash tendered" tendered receiptWidth, padPair "Change" change receiptWidth]

/-- `_tender_lines`. -/
def tenderLines (isRefund : Bool) (tenders : Option (List Tender)) :
    Except PyExc (List String) := do
  return (← (tenders.getD []).mapM (tenderLine isRefund)).flatten

/-- `_extract_windcave_receipt`. -/
def extractWindcaveReceipt (lxml : String → Option Windcave.Element) (xml : String) : String :=
  if (PyStr.strip xml).toList.head? = some '<' then
    match lxml xml with
    | none => ""
    | some root => root.textOr "Rcpt"
  else ""

/-- The text that Windcave has printed, where the receipt uses it. -/
def windcaveReceipt (lxml : String → Option Windcave.Element) (transaction : POSTransaction) :
    Option String :=
  if transaction.paymentMethod = some .card then
    match Checkout.orNone transaction.windcaveResponseXml with
    | some xml => Checkout.orNone (some (extractWindcaveReceipt lxml xml))
    | none => none
  else none

/-- What `format_receipt` prints above the body. -/
def headLines (uuid : Id → String) (settings : StoreSettings) (transaction : POSTransaction)
    (parent : Option POSTransaction) : List String :=
  let store := [settings.storeAddressLine1, settings.storeAddressLine2, settings.storePhone]
  let ruler := repeated '=' receiptWidth
  let refund :=
    if transaction.txnType = .refund then
      center "REFUND" receiptWidth ::
        (parent.toList.flatMap fun parent ↦
          [center ("Orig txn: " ++ cut (uuid parent.id) 12) receiptWidth,
            center ("Orig date: " ++ parent.createdAt.date) receiptWidth]) ++ [ruler]
    else []
  center settings.storeName receiptWidth ::
    ((store.filter (· ≠ "")).map (center · receiptWidth) ++ ruler :: refund)

/-- The body that `format_receipt` prints. -/
def bodyLines (lxml : String → Option Windcave.Element) (transaction : POSTransaction) :
    Except PyExc (List String) :=
  match windcaveReceipt lxml transaction with
  | some rcpt => .ok [rcpt]
  | none => cartBodyLines (transaction.txnType = .refund) transaction.cart

/-- What `format_receipt` prints between the body and the tenders. -/
def totalLines (settings : StoreSettings) (transaction : POSTransaction) :
    Except PyExc (List String) := do
  let ruler := repeated '-' receiptWidth
  let rateLabel := "(" ++ settings.taxRate.hundredfold.fixed2 ++ "%)"
  if transaction.txnType = .refund then
    let subtotal ← money transaction.subtotalCents true
    let tax ← money transaction.taxCents true
    let total ← money transaction.totalCents true
    return [ruler, padPair "Refund subtotal" subtotal receiptWidth,
      padPair ("Refund tax " ++ rateLabel) tax receiptWidth, ruler,
      padPair "REFUND TOTAL" total receiptWidth, ""]
  else
    let subtotal ← money transaction.subtotalCents
    let tax ← money transaction.taxCents
    let total ← money transaction.totalCents
    return [ruler, padPair "Subtotal" subtotal receiptWidth,
      padPair ("Tax " ++ rateLabel) tax receiptWidth, ruler,
      padPair "TOTAL" total receiptWidth, ""]

/-- What `format_receipt` prints below the tenders. -/
def footLines (uuid : Id → String) (transaction : POSTransaction) : List String :=
  let isRefund := transaction.txnType = .refund
  let txnLabel := if isRefund then "Refund txn" else "Transaction"
  repeated '=' receiptWidth :: (if isRefund then [] else [center "Thank you!" receiptWidth]) ++
    [center (txnLabel ++ ": " ++ cut (uuid transaction.id) 12) receiptWidth,
      center transaction.createdAt.dateTime receiptWidth]

/-- `format_receipt`. -/
def formatReceipt (uuid : Id → String) (lxml : String → Option Windcave.Element)
    (settings : StoreSettings) (transaction : POSTransaction) (parent : Option POSTransaction) :
    Except PyExc String := do
  let body ← bodyLines lxml transaction
  let totals ← totalLines settings transaction
  let tenders ← tenderLines (transaction.txnType = .refund) transaction.tenders
  return "\n".intercalate (headLines uuid settings transaction parent ++ body ++ totals ++
    tenders ++ footLines uuid transaction)

end HightowerPos.Receipt
