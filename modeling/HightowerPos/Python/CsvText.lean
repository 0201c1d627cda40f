import HightowerPos.Python.Csv
import Mathlib.Data.List.Basic

/-!
# CSV texts

How the `excel` dialect writes records: a field stands as it is, if it holds no comma and no line
break and does not start with a quote, or between quotes with its own quotes doubled.  What is so
written is read back (`read_text`), also where a field holds commas, quotes and line breaks, so that
it goes over several lines of the file.
-/

namespace HightowerPos.Csv

/-! ## Writing -/

/-- A character between quotes. -/
def escape (c : Char) : List Char := if c = '"' then ['"', '"'] else [c]

/-- How a field may be written. -/
inductive Cell (s : String) : List Char → Prop
  | plain (hfirst : s.toList.head? ≠ some '"')
      (h : ∀ c ∈ s.toList, c ≠ ',' ∧ c ≠ '\n' ∧ c ≠ '\r') : Cell s s.toList
  | quoted : Cell s ('"' :: (s.toList.flatMap escape ++ ['"']))

/-- How a record may be written. -/
inductive Line : List String → List Char → Prop
  | last {s : String} {t : List Char} (h : Cell s t) : Line [s] t
  | cons {s : String} {t : List Char} {record : List String} {line : List Char} (h : Cell s t)
      (rest : Line record line) : Line (s :: record) (t ++ ',' :: line)

/-- What stands before a line break: an empty line is a record without fields, and no other record
is written so. -/
inductive Row : List String → List Char → Prop
  | empty : Row [] []
  | line {record : List String} {line : List Char} (h : Line record line) (hne : line ≠ []) :
      Row record line

/-- How records may be written: each on lines of its own, and the last one with a line break or
without. -/
inductive Text : List (List String) → List Char → Prop
  | nil : Text [] []
  | last {record : List String} {line : List Char} (h : Line record line) (hne : line ≠ []) :
      Text [record] line
  | cons {record : List String} {line : List Char} {records : List (List String)}
      {text : List Char} (h : Row record line) (rest : Text records text) :
      Text (record :: records) (line ++ '\n' :: text)
  | consCr {record : List String} {line : List Char} {records : List (List String)}
      {text : List Char} (h : Row record line) (rest : Text records text) :
      Text (record :: records) (line ++ '\r' :: '\n' :: text)

/-! ## Reading character by character -/

/-- The end of a line: a record, or its field goes on. -/
def endLine (r : Reader) (k : Reader → List (List String) × Option String) :
    List (List String) × Option String :=
  match r.processChar none with
  | .error message => ([], some message)
  | .ok r =>
      if r.state = .startRecord then
        let (records, message) := k {}
        (r.fields :: records, message)
      else k r

/-- The reader on a text; the flag says whether it is in the middle of a line. -/
def scan : Bool → Reader → List Char → List (List String) × Option String
  | false, r, [] => readLines r []
  | true, r, [] => endLine r fun r ↦ readLines r []
  | _, r, c :: cs => match r.processChar (some c) with
      | .error message => ([], some message)
      | .ok r => if c = '\n' then endLine r fun r ↦ scan false r cs else scan true r cs

section Scan

variable {r : Reader} {c : Char} {cs line : List Char} {rest : List (List Char)} {b : Bool}

theorem readLines_nil_cons :
    readLines r ([] :: rest) = endLine r fun r ↦ readLines r rest := by
  rw [readLines, endLine]
  change (match r.processChar none with | .error _ => _ | .ok _ => _) = _
  cases r.processChar none <;> rfl

theorem readLines_cons_cons :
    readLines r ((c :: line) :: rest) = match r.processChar (some c) with
      | .error message => ([], some message)
      | .ok r => readLines r (line :: rest) := by
  have hline : r.readLine (c :: line) =
      (r.processChar (some c)).bind fun r ↦ r.readLine line := by
    unfold Reader.readLine
    rw [List.foldlM_cons]
    cases r.processChar (some c) <;> rfl
  rw [readLines, hline]
  cases r.processChar (some c) with
  | error message => rfl
  | ok r =>
      dsimp only [Except.bind]
      rw [readLines]

theorem scan_cons : scan b r (c :: cs) = match r.processChar (some c) with
    | .error message => ([], some message)
    | .ok r => if c = '\n' then endLine r fun r ↦ scan false r cs else scan true r cs := by
  cases b <;> rfl

theorem lines_cons_ne_nil : lines (c :: cs) ≠ [] := by
  rw [lines]
  split
  · exact List.cons_ne_nil _ _
  · split <;> exact List.cons_ne_nil _ _

/-- The lines of a text are read as its characters. -/
theorem readLines_lines (r : Reader) (cs : List Char) :
    readLines r (lines cs) = scan false r cs := by
  induction cs generalizing r with
  | nil => rfl
  | cons c cs ih =>
      rw [scan_cons, lines]
      split
      · next hc =>
          rw [readLines_cons_cons]
          cases r.processChar (some c) with
          | error message => rfl
          | ok r =>
              dsimp only
              rw [readLines_nil_cons]
              simp only [ih]
      · next hc =>
          cases cs with
          | nil =>
              rw [lines]
              dsimp only
              rw [readLines_cons_cons]
              cases r.processChar (some c) with
              | error message => rfl
              | ok r =>
                  exact readLines_nil_cons
          | cons d ds =>
              cases hlines : lines (d :: ds) with
              | nil => exact absurd hlines lines_cons_ne_nil
              | cons line rest =>
                  dsimp only
                  rw [readLines_cons_cons]
                  cases r.processChar (some c) with
                  | error message => rfl
                  | ok r =>
                      dsimp only
                      rw [← hlines, ih, scan_cons, scan_cons]

end Scan

/-! ## Fields -/

section Fields

variable {field cs rest : List Char} {fields : List String} {b : Bool}

theorem addChar_ok {r : Reader} (c : Char) (h : r.field.length < fieldSizeLimit) :
    r.addChar c = .ok { r with field := r.field ++ [c] } := by
  rw [Reader.addChar, if_neg (Nat.not_le.mpr h)]

theorem ends_eq_false {c : Char} (h : c ≠ ',' ∧ c ≠ '\n' ∧ c ≠ '\r') :
    Reader.ends (some c) = false := by
  obtain ⟨h₁, h₂, h₃⟩ := h
  simp [Reader.ends, h₁, h₂, h₃]

/-- A character between quotes. -/
theorem processChar_quoted {c : Char} (hc : c ≠ '"') (h : field.length < fieldSizeLimit) :
    (⟨.inQuotedField, field, fields⟩ : Reader).processChar (some c) =
      .ok ⟨.inQuotedField, field ++ [c], fields⟩ := by
  unfold Reader.processChar
  split
  all_goals first | contradiction | skip
  · next heq => exact absurd (Option.some.inj heq) hc
  · next heq =>
      obtain rfl := Option.some.inj heq
      exact addChar_ok c h

/-- The text between the quotes, and the closing quote. -/
theorem scan_quoted (s field : List Char) (b : Bool)
    (h : field.length + s.length ≤ fieldSizeLimit) :
    scan b ⟨.inQuotedField, field, fields⟩ (s.flatMap escape ++ '"' :: rest) =
      scan true ⟨.quoteInQuotedField, field ++ s, fields⟩ rest := by
  induction s generalizing field b with
  | nil =>
      rw [List.append_nil]
      cases b <;> rfl
  | cons c s ih =>
      rw [List.length_cons] at h
      rw [List.flatMap_cons, escape]
      have hgo (b : Bool) : scan b ⟨.inQuotedField, field ++ [c], fields⟩
          (s.flatMap escape ++ '"' :: rest) =
            scan true ⟨.quoteInQuotedField, field ++ c :: s, fields⟩ rest := by
        rw [ih _ b (by rw [List.length_append, List.length_singleton]; omega), List.append_assoc,
          List.singleton_append]
      split
      · next hc =>
          subst hc
          have hfirst : scan b ⟨.inQuotedField, field, fields⟩
              (['"', '"'] ++ s.flatMap escape ++ '"' :: rest) =
                scan true ⟨.quoteInQuotedField, field, fields⟩
                  ('"' :: (s.flatMap escape ++ '"' :: rest)) := by
            cases b <;> rfl
          have hadd : (⟨.quoteInQuotedField, field, fields⟩ : Reader).processChar (some '"') =
              .ok ⟨.inQuotedField, field ++ ['"'], fields⟩ := addChar_ok '"' (by
                change field.length < _
                omega)
          rw [hfirst, scan_cons, hadd]
          exact hgo true
      · next hc =>
          rw [List.singleton_append, List.cons_append, scan_cons,
            processChar_quoted hc (by omega)]
          dsimp only
          split
          · -- the field goes on in the next line
            exact hgo false
          · exact hgo true

/-- The characters of a field that is not quoted. -/
theorem scan_plain (s field : List Char) (hs : ∀ c ∈ s, c ≠ ',' ∧ c ≠ '\n' ∧ c ≠ '\r')
    (h : field.length + s.length ≤ fieldSizeLimit) :
    scan true ⟨.inField, field, fields⟩ (s ++ rest) =
      scan true ⟨.inField, field ++ s, fields⟩ rest := by
  induction s generalizing field with
  | nil => rw [List.append_nil, List.nil_append]
  | cons c s ih =>
      rw [List.length_cons] at h
      have hc := hs c (.head _)
      have hadd : (⟨.inField, field, fields⟩ : Reader).processChar (some c) =
          .ok ⟨.inField, field ++ [c], fields⟩ := by
        change (if Reader.ends (some c) = true then _ else Reader.addChar _ c) = _
        rw [if_neg (by rw [ends_eq_false hc]; exact Bool.false_ne_true)]
        refine addChar_ok c ?_
        change field.length < _
        omega
      rw [List.cons_append, scan_cons, hadd]
      dsimp only
      rw [if_neg hc.2.1, ih _ (fun d hd ↦ hs d (List.mem_cons_of_mem _ hd))
        (by rw [List.length_append, List.length_singleton]; omega), List.append_assoc,
        List.singleton_append]

/-- Where a field may start. -/
def State.Starts (st : State) : Prop := st = .startRecord ∨ st = .startField

/-- The reader has read the whole field. -/
structure Holds (r : Reader) (s : String) (fields : List String) : Prop where
  field : r.field = s.toList
  fields : r.fields = fields
  state : r.state = .inField ∨ r.state = .quoteInQuotedField ∨ (s = "" ∧ r.state.Starts)

/-- The first character of a field that is not quoted. -/
theorem processChar_start {st : State} (hst : st.Starts) {c : Char}
    (hc : c ≠ ',' ∧ c ≠ '\n' ∧ c ≠ '\r') (hquote : c ≠ '"') :
    (⟨st, [], fields⟩ : Reader).processChar (some c) = .ok ⟨.inField, [c], fields⟩ := by
  have hstart : Reader.processChar.startField ⟨st, [], fields⟩ c = .ok ⟨.inField, [c], fields⟩ := by
    rw [Reader.processChar.startField, if_neg (by rw [ends_eq_false hc]; exact Bool.false_ne_true),
      if_neg hquote]
    exact addChar_ok c (Nat.zero_lt_succ _)
  rcases hst with rfl | rfl
  · change (if c = '\n' ∨ c = '\r' then _ else Reader.processChar.startField _ c) = _
    rw [if_neg (fun h ↦ h.elim hc.2.1 hc.2.2)]
    exact hstart
  · exact hstart

/-- A field is read. -/
theorem scan_cell (fields : List String) {s : String} {t : List Char} (h : Cell s t)
    (hlen : s.length ≤ fieldSizeLimit) {st : State} (hst : st.Starts) (b : Bool) :
    ∃ r b', Holds r s fields ∧ (b' = true ∧ r.state ≠ .startRecord ∨
        t = [] ∧ b' = b ∧ r = ⟨st, [], fields⟩) ∧
      ∀ rest, scan b ⟨st, [], fields⟩ (t ++ rest) = scan b' r rest := by
  have hlen : s.toList.length ≤ fieldSizeLimit := by rwa [String.length_toList]
  cases h with
  | quoted =>
      refine ⟨⟨.quoteInQuotedField, s.toList, fields⟩, true, ⟨rfl, rfl, .inr (.inl rfl)⟩,
        .inl ⟨rfl, by simp⟩, fun rest ↦ ?_⟩
      have hfirst : scan b ⟨st, [], fields⟩ ('"' :: (s.toList.flatMap escape ++ ['"']) ++ rest) =
          scan true ⟨.inQuotedField, [], fields⟩ (s.toList.flatMap escape ++ '"' :: rest) := by
        rw [List.cons_append, List.append_assoc, List.singleton_append, scan_cons]
        rcases hst with rfl | rfl <;> rfl
      rw [hfirst, scan_quoted _ _ _ (by simpa using hlen), List.nil_append]
  | plain hquote hplain =>
      cases hs : s.toList with
      | nil =>
          refine ⟨⟨st, [], fields⟩, b, ⟨hs.symm, rfl, .inr (.inr ⟨?_, hst⟩)⟩,
            .inr ⟨rfl, rfl, rfl⟩, fun rest ↦ rfl⟩
          exact String.toList_eq_nil_iff.mp hs
      | cons c cs =>
          rw [hs] at hquote hplain hlen
          refine ⟨⟨.inField, c :: cs, fields⟩, true, ⟨hs.symm, rfl, .inl rfl⟩,
            .inl ⟨rfl, by simp⟩, fun rest ↦ ?_⟩
          have hc := hplain c (.head _)
          rw [List.cons_append, scan_cons, processChar_start hst hc fun h ↦ hquote (by rw [h]; rfl)]
          dsimp only
          rw [if_neg hc.2.1, scan_plain cs [c] (fun d hd ↦ hplain d (List.mem_cons_of_mem _ hd))
            (by rw [List.length_singleton]; rw [List.length_cons] at hlen; omega),
            List.singleton_append]

end Fields

/-! ## Records -/

section Records

variable {r : Reader} {s : String} {fields : List String} {rest : List Char} {b : Bool}

/-- A comma after a field. -/
theorem scan_comma (h : Holds r s fields) :
    scan b r (',' :: rest) = scan true ⟨.startField, [], fields ++ [s]⟩ rest := by
  obtain ⟨st, field, fs⟩ := r
  obtain ⟨hfield, rfl, hstate⟩ := h
  dsimp only at hfield hstate
  subst hfield
  have hend : (⟨st, s.toList, fs⟩ : Reader).endField (some ',') = ⟨.startField, [], fs ++ [s]⟩ := by
    change { (⟨st, s.toList, fs⟩ : Reader).saveField with state := .startField } = _
    rw [Reader.saveField, String.ofList_toList]
  have hnext : (⟨st, s.toList, fs⟩ : Reader).processChar (some ',') =
      .ok ⟨.startField, [], fs ++ [s]⟩ := by
    rw [← hend]
    rcases hstate with rfl | rfl | ⟨-, rfl | rfl⟩ <;> rfl
  rw [scan_cons, hnext]
  rfl

/-- The reader has read a whole record but for the end of its line. -/
structure Closing (r : Reader) (record : List String) : Prop where
  field : ∃ fields s, record = fields ++ [s] ∧ Holds r s fields
  state : r.state ≠ .startRecord

/-- The reader after the last field of a record, at a line break or at the end of the line. -/
theorem Closing.processChar {record : List String} (h : Closing r record) :
    r.processChar none = .ok ⟨.startRecord, [], record⟩ ∧
      ∀ c, c = '\n' ∨ c = '\r' → r.processChar (some c) = .ok ⟨.eatCrnl, [], record⟩ := by
  obtain ⟨⟨fields, s, rfl, hfield, rfl, hstate⟩, hne⟩ := h
  obtain ⟨st, field, fs⟩ := r
  dsimp only at hfield hstate hne
  subst hfield
  have hs : String.ofList s.toList = s := String.ofList_toList
  have hsave : (⟨st, s.toList, fs⟩ : Reader).saveField = ⟨st, [], fs ++ [s]⟩ := by
    rw [Reader.saveField, hs]
  -- in each of the three states the field is over
  have hend (c : Char) (hc : c = '\n' ∨ c = '\r') :
      (⟨st, s.toList, fs⟩ : Reader).endField (some c) = ⟨.eatCrnl, [], fs ++ [s]⟩ := by
    rcases hc with rfl | rfl
    all_goals
      change { (⟨st, s.toList, fs⟩ : Reader).saveField with state := .eatCrnl } = _
      rw [hsave]
  have hnone : (⟨st, s.toList, fs⟩ : Reader).endField none = ⟨.startRecord, [], fs ++ [s]⟩ := by
    change { (⟨st, s.toList, fs⟩ : Reader).saveField with state := .startRecord } = _
    rw [hsave]
  refine ⟨?_, fun c hc ↦ ?_⟩
  · rw [← hnone]
    rcases hstate with rfl | rfl | ⟨-, rfl | rfl⟩
    · rfl
    · rfl
    · exact absurd rfl hne
    · rfl
  · rw [← hend c hc]
    rcases hc with rfl | rfl
    all_goals
      rcases hstate with rfl | rfl | ⟨-, rfl | rfl⟩
      · rfl
      · rfl
      · exact absurd rfl hne
      · rfl

/-- A record is read, up to the end of its line. -/
theorem scan_line (fields : List String) {record : List String} {line : List Char}
    (h : Line record line)
    (hlen : ∀ s ∈ record, s.length ≤ fieldSizeLimit) {st : State} (hst : st.Starts)
    (hne : line ≠ [] ∨ (st = .startField ∧ b = true)) :
    ∃ r, Closing r (fields ++ record) ∧
      ∀ rest, scan b ⟨st, [], fields⟩ (line ++ rest) = scan true r rest := by
  induction h generalizing st fields b with
  | @last s t h =>
      obtain ⟨r, b', hholds, hflag, hscan⟩ := scan_cell fields h (hlen s (.head _)) hst b
      rcases hflag with ⟨rfl, hstate⟩ | ⟨rfl, rfl, rfl⟩
      · exact ⟨r, ⟨⟨fields, s, rfl, hholds⟩, hstate⟩, hscan⟩
      · obtain ⟨rfl, rfl⟩ := hne.resolve_left fun h ↦ h rfl
        exact ⟨_, ⟨⟨fields, s, rfl, hholds⟩, by simp⟩, hscan⟩
  | @cons s t record line h rest ih =>
      obtain ⟨r, b', hholds, -, hscan⟩ := scan_cell fields h (hlen s (.head _)) hst b
      obtain ⟨r', hclosing, hscan'⟩ := ih (fields ++ [s])
        (fun s' hs' ↦ hlen s' (List.mem_cons_of_mem _ hs')) (.inr rfl) (.inr ⟨rfl, rfl⟩)
      refine ⟨r', ?_, fun rest ↦ ?_⟩
      · rwa [List.append_assoc, List.singleton_append] at hclosing
      · rw [List.append_assoc, List.cons_append, hscan, scan_comma hholds, hscan']

/-- The end of the line of a record. -/
theorem endLine_startRecord (record : List String) {k : Reader → List (List String) × Option String}
    {r : Reader} (h : r.processChar none = .ok ⟨.startRecord, [], record⟩) :
    endLine r k = (record :: (k {}).1, (k {}).2) := by
  rw [endLine, h]
  rfl

theorem scan_closing {record : List String} (h : Closing r record) :
    scan true r [] = ([record], none) ∧
      ∀ text, scan true r ('\n' :: text) =
        (record :: (scan false {} text).1, (scan false {} text).2) ∧
        scan true r ('\r' :: '\n' :: text) =
          (record :: (scan false {} text).1, (scan false {} text).2) := by
  obtain ⟨hnone, hbreak⟩ := h.processChar
  refine ⟨endLine_startRecord record hnone, fun text ↦ ⟨?_, ?_⟩⟩
  · rw [scan_cons, hbreak '\n' (.inl rfl)]
    change endLine ⟨.eatCrnl, [], record⟩ (fun r ↦ scan false r text) = _
    exact endLine_startRecord record rfl
  · rw [scan_cons, hbreak '\r' (.inr rfl)]
    change endLine ⟨.eatCrnl, [], record⟩ (fun r ↦ scan false r text) = _
    exact endLine_startRecord record rfl

/-- A record and its line break. -/
theorem scan_row {record : List String} {line : List Char} (h : Row record line)
    (hlen : ∀ s ∈ record, s.length ≤ fieldSizeLimit) (text : List Char) :
    scan false {} (line ++ '\n' :: text) =
        (record :: (scan false {} text).1, (scan false {} text).2) ∧
      scan false {} (line ++ '\r' :: '\n' :: text) =
        (record :: (scan false {} text).1, (scan false {} text).2) := by
  cases h with
  | empty =>
      have hend : endLine ⟨.eatCrnl, [], []⟩ (fun r ↦ scan false r text) =
          ([] :: (scan false {} text).1, (scan false {} text).2) := endLine_startRecord [] rfl
      exact ⟨hend, hend⟩
  | line h hne =>
      obtain ⟨r, hclosing, hscan⟩ :=
        scan_line [] (b := false) h hlen (.inl rfl) (.inl hne)
      obtain ⟨hlf, hcrlf⟩ := (scan_closing hclosing).2 text
      exact ⟨(hscan _).trans hlf, (hscan _).trans hcrlf⟩

/-- **What is written is read.** -/
theorem read_text {records : List (List String)} {text : List Char} (h : Text records text)
    (hlen : ∀ record ∈ records, ∀ s ∈ record, s.length ≤ fieldSizeLimit) :
    read text = (records, none) := by
  rw [read, readLines_lines]
  induction h with
  | nil => rfl
  | @last record line h hne =>
      obtain ⟨r, hclosing, hscan⟩ :=
        scan_line [] (b := false) h (hlen record (.head _)) (.inl rfl) (.inl hne)
      have := hscan []
      rw [List.append_nil, (scan_closing hclosing).1] at this
      exact this
  | @cons record line records text h _ ih =>
      rw [(scan_row h (hlen record (.head _)) text).1,
        ih fun record' h' ↦ hlen record' (List.mem_cons_of_mem _ h')]
  | @consCr record line records text h _ ih =>
      rw [(scan_row h (hlen record (.head _)) text).2,
        ih fun record' h' ↦ hlen record' (List.mem_cons_of_mem _ h')]

end Records

end HightowerPos.Csv
