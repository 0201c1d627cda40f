import HightowerPos.Python.Canvas
import HightowerPos.Python.Datetime
import HightowerPos.Services.Receipt
import HightowerPos.Services.Till
import HightowerPos.Services.TillPdf

/-!
# The report of a closed till

`render_close_report` of `services/till_pdf.py`, as what it draws.  Coordinates are exact, where
the code has floats of them.
-/

namespace HightowerPos.TillPdf

open Canvas Numeral

/-- `DENOM_DISPLAY`. -/
def denomDisplay : List (String × String) :=
  [("hundred", "$100"), ("fifty", "$50"), ("twenty", "$20"), ("ten", "$10"), ("five", "$5"),
    ("one", "$1"), ("quarter", "25¢"), ("dime", "10¢"), ("nickel", "5¢"), ("penny", "1¢")]

/-- `_format_duration`. -/
def formatDuration (opened closed : Time) : String :=
  let totalMinutes := (closed - opened) / 60000000
  let hours := totalMinutes / 60
  let minutes := totalMinutes % 60
  (if hours < 0 then "-" else "") ++ String.ofList (Nat.toDigits 10 hours.natAbs) ++ "h " ++
    String.ofList (padded 2 minutes.toNat) ++ "m"

example : formatDuration 0 31535000000 = "8h 45m" := by decide +kernel

/-- `_variance_label`. -/
def varianceLabel (varianceCents : Cents) : Except PyExc String :=
  if varianceCents = 0 then .ok "BALANCED"
  else if 0 < varianceCents then (formatCents varianceCents).map ("OVER  " ++ ·)
  else (formatCents varianceCents).map ("SHORT " ++ ·)

/-- `str(n)`. -/
def str (n : Int) : Except PyExc String :=
  (PyStr.ofNat n.natAbs).map ((if n < 0 then "-" else "") ++ ·)

/-! ## The page -/

/-- What `render_close_report` raises. -/
inductive RenderError
  | py (e : PyExc)
  | /-- `RuntimeError`, with the height that is below the margin. -/
    overflowed (y : ℚ)
deriving DecidableEq

abbrev Report := Drawing RenderError

/-- A value that Python may refuse. -/
def ofPy {α : Type} (r : Except PyExc α) : Report α := ofResult (r.mapError .py)

/-- 72 points. -/
def inch : ℚ := 72

/-- `letter`. -/
def width : ℚ := 612

def pageHeight : ℚ := 792

def marginLeft : ℚ := 3 / 4 * inch

def rightMargin : ℚ := width - 3 / 4 * inch

/-- `MIN_Y`. -/
def minY : ℚ := 1 / 2 * inch

/-- Where `y` starts. -/
def startY : ℚ := pageHeight - 13 / 20 * inch

/-- `hr_label`; `stringWidth` is that of reportlab. -/
def hrLabel (stringWidth : String → ℚ) (label : String) : Report Unit := do
  let y ← height
  draw [.setStrokeColorRGB (2 / 5) (2 / 5) (2 / 5), .setLineWidth (1 / 2),
    .line marginLeft y rightMargin y, .setFont "Helvetica-Bold" 9,
    .setFillColorRGB (3 / 10) (3 / 10) (3 / 10),
    .drawString ((width - stringWidth label) / 2) (y - 11) label, .setFillColorRGB 0 0 0]
  down 18

/-- A line of the header, unless the setting is empty. -/
def headerLine (s : String) : Report Unit :=
  if s = "" then pure ()
  else do
    text marginLeft s "Helvetica" 9
    down 11

/-- The loop over `metadata`. -/
def metadataRows : List (String × String) → Report Unit
  | [] => pure ()
  | (label, value) :: rest => do
      text marginLeft label "Helvetica-Bold" 9
      text (marginLeft + 6 / 5 * inch) value "Courier" 9
      down 11
      metadataRows rest

/-- The loop of `denomination_block`. -/
def denominationRows (counts : Denominations) : List (String × Cents) → Report Cents
  | [] => pure 0
  | (name, value) :: rest => do
      let qty := (counts.lookup name).getD 0
      let subtotal := qty * value
      text marginLeft ((denomDisplay.lookup name).getD "") "Courier" 9
      let count ← ofPy (str qty)
      text (marginLeft + inch) ("x " ++ count) "Courier" 9
      let amount ← ofPy (formatCents subtotal)
      textRight rightMargin amount "Courier" 9
      down 10
      let total ← denominationRows counts rest
      pure (subtotal + total)

/-- `denomination_block`. -/
def denominationBlock (counts : Denominations) : Report Cents := do
  let total ← denominationRows counts Till.denominations
  down 5
  draw [.setStrokeColorRGB 0 0 0]
  draw [.setLineWidth (1 / 2)]
  rule 0 (rightMargin - 6 / 5 * inch) rightMargin
  down 11
  pure total

/-- An amount with its label, and the way down to the next row. -/
def amountRow (label font amountFont : String) (cents : Cents) (drop : ℚ) : Report Unit := do
  text marginLeft label font 9
  let amount ← ofPy (formatCents cents)
  textRight rightMargin amount amountFont 9
  down drop

/-- The loop over `activity_rows`. -/
def activityRows : List (String × String) → Report Unit
  | [] => pure ()
  | (label, value) :: rest => do
      text marginLeft label "Helvetica" 9
      textRight rightMargin value "Courier" 9
      down 11
      activityRows rest

/-- The store header and the title. -/
def header (settings : Receipt.StoreSettings) : Report Unit := do
  text marginLeft (if settings.storeName = "" then "Hightower" else settings.storeName)
    "Helvetica-Bold" 13
  down 13
  headerLine settings.storeAddressLine1
  headerLine settings.storeAddressLine2
  headerLine settings.storePhone
  text marginLeft "TILL CLOSE REPORT" "Helvetica-Bold" 13
  down 16

/-- The section of the activity. -/
def activity (session : TillSession) : Report Unit := do
  let transactions ← ofPy (str session.transactionCount)
  let cashTransactions ← ofPy (str session.cashTransactionCount)
  let cashSales ← ofPy (formatCents session.cashSalesCents)
  let cashRefunds ← ofPy (formatCents session.cashRefundsCents)
  activityRows [("Transactions:", transactions), ("Cash transactions:", cashTransactions),
    ("Cash sales:", cashSales), ("Cash refunds:", cashRefunds)]

/-- The section of the reconciliation. -/
def reconciliation (session : TillSession) (expected counted variance : Cents) :
    Report Unit := do
  amountRow "Opening float" "Helvetica" "Courier" session.openingFloatCents 11
  amountRow "+ Cash sales" "Helvetica" "Courier" session.cashSalesCents 11
  amountRow "- Cash refunds" "Helvetica" "Courier" (-session.cashRefundsCents) 10
  draw [.setStrokeColorRGB 0 0 0]
  rule 0 (rightMargin - 6 / 5 * inch) rightMargin
  down 11
  amountRow "Expected closing" "Helvetica-Bold" "Courier-Bold" expected 11
  amountRow "Actual closing" "Helvetica-Bold" "Courier-Bold" counted 10
  rule 0 (rightMargin - 6 / 5 * inch) rightMargin
  down 11
  text marginLeft "VARIANCE" "Helvetica-Bold" 10
  let label ← ofPy (varianceLabel variance)
  textRight rightMargin label "Courier-Bold" 10
  down 16

/-- The section of the signature. -/
def signature : Report Unit := do
  text marginLeft "Cashier signature:" "Helvetica-Bold" 9
  rule 2 (marginLeft + 3 / 2 * inch) rightMargin
  down 22
  text marginLeft "Date:" "Helvetica-Bold" 9
  rule 2 (marginLeft + 3 / 2 * inch) rightMargin
  down 6

/-- What `render_close_report` draws for a CLOSED session. -/
def reportBody (uuid : Id → String) (stringWidth : String → ℚ) (settings : Receipt.StoreSettings)
    (session : TillSession) (user : POSUser) (closedAt : Time) (expected counted variance : Cents)
    (closingCounts : Denominations) : Report Unit := do
  header settings
  metadataRows [("Cashier:", user.displayName ++ " (" ++ user.username ++ ")"),
    ("Terminal:", session.terminalId), ("Opened:", session.openedAt.dateTime),
    ("Closed:", closedAt.dateTime), ("Duration:", formatDuration session.openedAt closedAt),
    ("Session ID:", uuid session.id)]
  hrLabel stringWidth "OPENING"
  let _ ← denominationBlock session.openingDenominations
  amountRow "Opening float" "Helvetica-Bold" "Courier-Bold" session.openingFloatCents 16
  hrLabel stringWidth "ACTIVITY"
  activity session
  hrLabel stringWidth "CLOSING"
  let _ ← denominationBlock closingCounts
  amountRow "Counted" "Helvetica-Bold" "Courier-Bold" counted 16
  hrLabel stringWidth "RECONCILIATION"
  reconciliation session expected counted variance
  hrLabel stringWidth "SIGNATURE"
  signature

/-- `render_close_report`, up to the file. -/
def renderCloseReport (uuid : Id → String) (stringWidth : String → ℚ)
    (settings : Receipt.StoreSettings) (session : TillSession) (user : POSUser) : Report Unit :=
  if session.status ≠ .closed then
    ofPy (.error (.value "render_close_report requires CLOSED session, got 'OPEN'"))
  else
    match session.closedAt, session.expectedClosingCents, session.closingCountCents,
      session.varianceCents, session.closingDenominations with
    | some closedAt, some expected, some counted, some variance, some closingCounts => do
        reportBody uuid stringWidth settings session user closedAt expected counted variance
          closingCounts
        let y ← height
        if y < minY then ofResult (.error (.overflowed y)) else pure ()
    | _, _, _, _, _ =>
        ofPy (.error (.value "CLOSED session missing one of the close-time fields"))

/-- The marks of a report. -/
def closeReport (uuid : Id → String) (stringWidth : String → ℚ)
    (settings : Receipt.StoreSettings) (session : TillSession) (user : POSUser) :
    Except RenderError (List Mark) :=
  (renderCloseReport uuid stringWidth settings session user { y := startY }).map (·.2.marks)

end HightowerPos.TillPdf
