/-!
# CSV files as Python reads them

`bytes.decode("utf-8-sig", errors="replace")`, and `csv.reader` in the `excel` dialect on the
lines of an `io.StringIO`.
-/

namespace HightowerPos

/-! ## UTF-8 -/

namespace Utf8

/-- What stands for an octet, or a part of a sequence, that is not UTF-8. -/
def replacement : Char := Char.ofNat 0xFFFD

/-- A sequence that has begun: its bits so far, the octets it lacks, and the bounds of the next
one. -/
structure Pending where
  value : Nat
  lacks : Nat
  low : Nat := 0x80
  high : Nat := 0xBF

/-- The first octet of a sequence. -/
def start (b : Nat) : List Char × Option Pending :=
  if b < 0x80 then ([Char.ofNat b], none)
  else if 0xC2 ≤ b ∧ b ≤ 0xDF then ([], some { value := b - 0xC0, lacks := 1 })
  else if b = 0xE0 then ([], some { value := 0, lacks := 2, low := 0xA0 })
  else if b = 0xED then ([], some { value := 0xD, lacks := 2, high := 0x9F })
  else if 0xE1 ≤ b ∧ b ≤ 0xEF then ([], some { value := b - 0xE0, lacks := 2 })
  else if b = 0xF0 then ([], some { value := 0, lacks := 3, low := 0x90 })
  else if b = 0xF4 then ([], some { value := 4, lacks := 3, high := 0x8F })
  else if 0xF1 ≤ b ∧ b ≤ 0xF3 then ([], some { value := b - 0xF0, lacks := 3 })
  else ([replacement], none)

/-- The next octet. -/
def step : Option Pending → Nat → List Char × Option Pending
  | none, b => start b
  | some p, b =>
      if p.low ≤ b ∧ b ≤ p.high then
        let value := p.value * 64 + (b - 0x80)
        if p.lacks = 1 then ([Char.ofNat value], none)
        else ([], some { value := value, lacks := p.lacks - 1 })
      else
        let (cs, p') := start b
        (replacement :: cs, p')

def decodeFrom : Option Pending → List UInt8 → List Char
  | none, [] => []
  | some _, [] => [replacement]
  | p, b :: bs =>
      let (cs, p') := step p b.toNat
      cs ++ decodeFrom p' bs

/-- `raw.decode("utf-8-sig", errors="replace")`. -/
def decodeSig : List UInt8 → List Char
  | 0xEF :: 0xBB :: 0xBF :: bs => decodeFrom none bs
  | bs => decodeFrom none bs

end Utf8

/-! ## Records -/

namespace Csv

/-- `csv.field_size_limit()`. -/
def fieldSizeLimit : Nat := 131072

/-- Where the reader stands in a record. -/
inductive State
  | startRecord
  | startField
  | inField
  | inQuotedField
  | quoteInQuotedField
  | eatCrnl
deriving Repr, DecidableEq

/-- The reader in the middle of a record. -/
structure Reader where
  state : State := .startRecord
  field : List Char := []
  fields : List String := []

namespace Reader

/-- `parse_add_char`. -/
def addChar (r : Reader) (c : Char) : Except String Reader :=
  if fieldSizeLimit ≤ r.field.length then
    .error s!"field larger than field limit ({fieldSizeLimit})"
  else .ok { r with field := r.field ++ [c] }

/-- `parse_save_field`. -/
def saveField (r : Reader) : Reader :=
  { r with field := [], fields := r.fields ++ [String.ofList r.field] }

/-- The field is over: at the end of the line, at a line break, or at a comma. -/
def endField (r : Reader) : Option Char → Reader
  | none => { r.saveField with state := .startRecord }
  | some ',' => { r.saveField with state := .startField }
  | some _ => { r.saveField with state := .eatCrnl }

/-- The character ends a field that is not quoted. -/
def ends (c : Option Char) : Bool := c = none || c = some ',' || c = some '\n' || c = some '\r'

/-- `parse_process_char`; `none` is the end of the line. -/
def processChar (r : Reader) (c : Option Char) : Except String Reader :=
  match r.state, c with
  | .startRecord, none => .ok r
  | .startRecord, some c =>
      if c = '\n' ∨ c = '\r' then .ok { r with state := .eatCrnl } else startField r c
  | .startField, none => .ok (r.endField none)
  | .startField, some c => startField r c
  | .inField, c =>
      if ends c then .ok (r.endField c)
      else match c with
        | none => .ok r
        | some c => r.addChar c
  | .inQuotedField, none => .ok r
  | .inQuotedField, some '"' => .ok { r with state := .quoteInQuotedField }
  | .inQuotedField, some c => r.addChar c
  | .quoteInQuotedField, c =>
      if ends c then .ok (r.endField c)
      else match c with
        | none => .ok r
        | some '"' => ({ r with state := .inQuotedField } : Reader).addChar '"'
        | some c => ({ r with state := .inField } : Reader).addChar c
  | .eatCrnl, none => .ok { r with state := .startRecord }
  | .eatCrnl, some c =>
      if c = '\n' ∨ c = '\r' then .ok r
      -- the text of CPython 3.11.10; older ones ask for the universal-newline mode
      else .error ("new-line character seen in unquoted field - " ++
        "do you need to open the file with newline=''?")
where
  /-- The first character of a field. -/
  startField (r : Reader) (c : Char) : Except String Reader :=
    if ends (some c) then .ok (r.endField (some c))
    else if c = '"' then .ok { r with state := .inQuotedField }
    else ({ r with state := .inField } : Reader).addChar c

/-- One line of the file. -/
def readLine (r : Reader) (line : List Char) : Except String Reader := do
  let r ← line.foldlM (fun r c ↦ r.processChar (some c)) r
  r.processChar none

end Reader

/-- The lines of `io.StringIO(text)`, with their line feeds. -/
def lines : List Char → List (List Char)
  | [] => []
  | c :: cs =>
      if c = '\n' then [c] :: lines cs
      else match lines cs with
        | [] => [[c]]
        | line :: rest => (c :: line) :: rest

/-- The records of the lines, up to a `csv.Error`. -/
def readLines : Reader → List (List Char) → List (List String) × Option String
  | r, [] => (if r.state = .inQuotedField then [r.saveField.fields] else [], none)
  | r, line :: rest => match r.readLine line with
      | .error message => ([], some message)
      | .ok r =>
          if r.state = .startRecord then
            let (records, message) := readLines {} rest
            (r.fields :: records, message)
          else readLines r rest

/-- `csv.reader(io.StringIO(text))`: the records, and the text of the `csv.Error` that ends them. -/
def read (text : List Char) : List (List String) × Option String := readLines {} (lines text)

example : read "sku,price\n\"a \"\"b\"\"\",1\n\nc".toList =
    ([["sku", "price"], ["a \"b\"", "1"], [], ["c"]], none) := by decide +kernel

end Csv

end HightowerPos
