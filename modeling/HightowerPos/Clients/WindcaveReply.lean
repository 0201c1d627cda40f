import HightowerPos.Clients.Windcave
import HightowerPos.Python.Digits

/-!
# Replies of Windcave as they arrive

`_parse_status_response` reads a reply out of the element that lxml makes of its text.  It fails
as declared, with a `WindcaveClientError`, unless a text that becomes a number has a digit that
`int` does not read, or too many (`fails_as_declared_iff`).
-/

namespace HightowerPos.Windcave

/-- An element of lxml. -/
inductive Element
  | mk (tag : String) (attributes : List (String × String)) (text : Option String)
      (children : List Element)

namespace Element

def tag : Element → String
  | .mk tag _ _ _ => tag

def text : Element → Option String
  | .mk _ _ text _ => text

def children : Element → List Element
  | .mk _ _ _ children => children

/-- `e.get(name, default)`. -/
def get : Element → String → String → String
  | .mk _ attributes _ _, name, default => (attributes.lookup name).getD default

/-- `e.find(tag)`. -/
def find (e : Element) (tag : String) : Option Element := e.children.find? fun c ↦ c.tag = tag

/-- `e.findtext(tag)`: an element without a text has an empty one. -/
def findtext (e : Element) (tag : String) : Option String :=
  (e.find tag).map fun c ↦ c.text.getD ""

/-- `(e.findtext(tag) or default).strip()`. -/
def textOr (e : Element) (tag : String) (default : String := "") : String :=
  PyStr.strip (((e.findtext tag).filter (· ≠ "")).getD default)

/-- `(e.findtext(tag) or "").strip() or None`. -/
def textOrNone (e : Element) (tag : String) : Option String :=
  (some (e.textOr tag)).filter (· ≠ "")

end Element

/-- `cn[-4:]`. -/
def last4 (cn : String) : String := String.ofList (cn.toList.drop (cn.length - 4))

/-- The `Result` of a reply. -/
def parseResult (e : Element) : Except PyExc WindcaveResult := do
  let cn := e.textOrNone "CN"
  let amountCents ← PyStr.digitsOrNone (e.textOr "AmtA")
  return {
    approved := e.textOr "AP" "0" = "1"
    authCode := e.textOrNone "AC"
    cardBrand := e.textOrNone "CT"
    cardMasked := cn
    cardLast4 := cn.map last4
    dpsTxnRef := e.textOrNone "TR"
    txnDatetime := e.textOrNone "DT"
    responseCode := e.textOrNone "RC"
    responseText := e.textOrNone "RT"
    amountCents := amountCents }

/-- The button of an element. -/
def parseButton (root : Element) (name : String) : Option WindcaveButton :=
  (root.find name).map fun e ↦
    { name, enabled := e.get "en" "0" = "1", label := PyStr.strip (e.text.getD "") }

/-- The element of a reply, as a reply with the text `raw`. -/
def parseRoot (raw : String) (root : Element) : Except PyExc WindcaveStatusResponse := do
  let timeoutSeconds ← PyStr.digitsOrNone (root.textOr "Tmo")
  let receiptWidth ← PyStr.digitsOrNone (root.textOr "RcptW")
  let result ← (root.find "Result").mapM parseResult
  return {
    txnRef := root.textOr "TxnRef"
    txnType := root.textOr "TxnType" "Status"
    complete := root.textOr "Complete" "0" = "1"
    statusId := root.textOrNone "StatusId"
    txnStatusId := root.textOrNone "TxnStatusId"
    responseCode := root.textOrNone "ReCo"
    timeoutSeconds := timeoutSeconds
    display := { line1 := root.textOr "DL1", line2 := root.textOr "DL2" }
    buttons := ["B1", "B2"].filterMap (parseButton root)
    receiptText := root.textOr "Rcpt"
    receiptWidth := receiptWidth
    result := result
    rawXml := raw }

/-! ## What is read -/

/-- The reply has the texts of the element. -/
structure Reads (root : Element) (st : WindcaveStatusResponse) : Prop where
  complete : st.complete = decide (root.textOr "Complete" "0" = "1")
  txnStatusId : st.txnStatusId = root.textOrNone "TxnStatusId"
  timeoutSeconds : st.timeoutSeconds = PyStr.number (root.textOr "Tmo")
  receiptWidth : st.receiptWidth = PyStr.number (root.textOr "RcptW")
  result : Option.Rel (fun e result ↦ result.approved = decide (e.textOr "AP" "0" = "1") ∧
    result.amountCents = PyStr.number (e.textOr "AmtA")) (root.find "Result") st.result

/-- The texts that become numbers: those of the root, and that of the `Result` if there is one. -/
structure Numeric (root : Element) : Prop where
  timeout : PyStr.Convertible (root.textOr "Tmo")
  receiptWidth : PyStr.Convertible (root.textOr "RcptW")
  amount : ∀ e, root.find "Result" = some e → PyStr.Convertible (e.textOr "AmtA")

section Root

variable {raw : String} {root : Element}

theorem parseResult_of_convertible {e : Element} (h : PyStr.Convertible (e.textOr "AmtA")) :
    ∃ result, parseResult e = .ok result ∧
      result.approved = decide (e.textOr "AP" "0" = "1") ∧
      result.amountCents = PyStr.number (e.textOr "AmtA") := by
  unfold parseResult
  rw [PyStr.digitsOrNone_of_convertible h]
  refine ⟨_, rfl, ?_⟩
  dsimp only
  exact ⟨rfl, rfl⟩

theorem parseResult_of_not_convertible {e : Element}
    (h : ¬ PyStr.Convertible (e.textOr "AmtA")) :
    ∃ message, parseResult e = .error (.value message) := by
  obtain ⟨message, herror⟩ := PyStr.digitsOrNone_of_not_convertible h
  unfold parseResult
  rw [herror]
  exact ⟨message, rfl⟩

/-- Where the numbers are numbers, the reply is read. -/
theorem parseRoot_of_numeric (raw : String) (h : Numeric root) :
    ∃ st, parseRoot raw root = .ok st ∧ Reads root st := by
  obtain ⟨htimeout, hwidth, hamount⟩ := h
  unfold parseRoot
  rw [PyStr.digitsOrNone_of_convertible htimeout, PyStr.digitsOrNone_of_convertible hwidth]
  have hresult : ∃ result, (root.find "Result").mapM parseResult = .ok result ∧
      Option.Rel (fun e result ↦ result.approved = decide (e.textOr "AP" "0" = "1") ∧
        result.amountCents = PyStr.number (e.textOr "AmtA")) (root.find "Result") result := by
    cases hfind : root.find "Result" with
    | none => exact ⟨none, rfl, .none⟩
    | some e =>
        obtain ⟨result, hresult, hread⟩ := parseResult_of_convertible (hamount e hfind)
        rw [Option.mapM_some, hresult]
        exact ⟨some result, rfl, .some hread⟩
  obtain ⟨result, hresult, hread⟩ := hresult
  rw [hresult]
  refine ⟨_, rfl, ?_⟩
  constructor <;> dsimp only
  exact hread

/-- Where one is not, `ValueError` escapes. -/
theorem parseRoot_of_not_numeric (raw : String) (h : ¬ Numeric root) :
    ∃ message, parseRoot raw root = .error (.value message) := by
  unfold parseRoot
  by_cases htimeout : PyStr.Convertible (root.textOr "Tmo")
  · rw [PyStr.digitsOrNone_of_convertible htimeout]
    by_cases hwidth : PyStr.Convertible (root.textOr "RcptW")
    · rw [PyStr.digitsOrNone_of_convertible hwidth]
      cases hfind : root.find "Result" with
      | none => exact absurd ⟨htimeout, hwidth, fun e he ↦ nomatch hfind.symm.trans he⟩ h
      | some e =>
          have hamount : ¬ PyStr.Convertible (e.textOr "AmtA") := fun hamount ↦
            h ⟨htimeout, hwidth, fun e' he ↦ Option.some.inj (hfind.symm.trans he) ▸ hamount⟩
          obtain ⟨message, herror⟩ := parseResult_of_not_convertible hamount
          rw [Option.mapM_some, herror]
          exact ⟨message, rfl⟩
    · obtain ⟨message, herror⟩ := PyStr.digitsOrNone_of_not_convertible hwidth
      rw [herror]
      exact ⟨message, rfl⟩
  · obtain ⟨message, herror⟩ := PyStr.digitsOrNone_of_not_convertible htimeout
    rw [herror]
    exact ⟨message, rfl⟩

/-- **A reply is approved** when its texts `Complete` and `AP` are `1`. -/
theorem Reads.approved_iff {st : WindcaveStatusResponse} (h : Reads root st) :
    st.approved = true ↔ root.textOr "Complete" "0" = "1" ∧
      ∃ e, root.find "Result" = some e ∧ e.textOr "AP" "0" = "1" := by
  have hresult := h.result
  unfold WindcaveStatusResponse.approved
  rw [Bool.and_eq_true, h.complete, decide_eq_true_eq]
  refine and_congr_right fun _ ↦ ?_
  generalize root.find "Result" = o, st.result = r at hresult
  cases hresult with
  | none => simp
  | some he => simp [he.1]

end Root

/-! ## Texts -/

/-- `_parse_xml`; `parseXml` is lxml, which may find the text invalid. -/
def parseXmlText (parseXml : String → Except String Element) (raw : PyStr) :
    Except PyExc (String × Element) :=
  match raw.encode with
  | none => .error .unicodeEncode
  | some text =>
      match parseXml text with
      | .error exc => .error (.windcaveClient s!"invalid xml from windcave: {exc}")
      | .ok root => .ok (text, root)

/-- `_parse_status_response`. -/
def parseStatusResponse (parseXml : String → Except String Element) (raw : PyStr) :
    Except PyExc WindcaveStatusResponse := do
  let (text, root) ← parseXmlText parseXml raw
  parseRoot text root

/-- The reader raises nothing but `WindcaveClientError`, takes a text that is not a number for
none, and never makes a reply both approved and declined, or approved without a `Result` that
says so. -/
structure FailsAsDeclared (parseXml : String → Except String Element) (raw : PyStr) : Prop where
  raises : ∀ e, parseStatusResponse parseXml raw = .error e → ∃ message, e = .windcaveClient message
  reads : ∀ st, parseStatusResponse parseXml raw = .ok st →
    ∃ text root, raw.encode = some text ∧ parseXml text = .ok root ∧ Reads root st ∧
      (st.approved = true → st.complete = true ∧ ∃ e result, root.find "Result" = some e ∧
        e.textOr "AP" "0" = "1" ∧ st.result = some result ∧ result.approved = true)
  exclusive : ∀ st, parseStatusResponse parseXml raw = .ok st →
    ¬ (st.approved = true ∧ st.declined = true)

/-- What an approved reply has. -/
theorem Reads.of_approved {root : Element} {st : WindcaveStatusResponse} (h : Reads root st)
    (happroved : st.approved = true) : st.complete = true ∧ ∃ e result,
      root.find "Result" = some e ∧ e.textOr "AP" "0" = "1" ∧ st.result = some result ∧
      result.approved = true := by
  obtain ⟨hcomplete, e, hfind, hap⟩ := h.approved_iff.mp happroved
  refine ⟨h.complete.trans (decide_eq_true hcomplete), ?_⟩
  have hresult := h.result
  rw [hfind] at hresult
  cases hst : st.result with
  | none =>
      rw [hst] at hresult
      cases hresult
  | some result =>
      rw [hst] at hresult
      cases hresult with
      | some hread => exact ⟨e, result, hfind, hap, rfl, hread.1.trans (decide_eq_true hap)⟩

/-- **When the reader of replies fails as declared**: the text can be encoded, and what `isdigit`
takes for digits in `Tmo`, `RcptW` and `AmtA` are decimal digits, 4300 at most. -/
theorem fails_as_declared_iff (parseXml : String → Except String Element) (raw : PyStr) :
    FailsAsDeclared parseXml raw ↔ raw.Encodable ∧
      ∀ text root, raw.encode = some text → parseXml text = .ok root → Numeric root := by
  rw [← PyStr.encode_isSome_iff]
  cases hencode : raw.encode with
  | none =>
      have herror : parseStatusResponse parseXml raw = .error .unicodeEncode := by
        rw [parseStatusResponse, parseXmlText, hencode]
        rfl
      refine iff_of_false (fun h ↦ ?_) fun h ↦ Bool.noConfusion h.1
      obtain ⟨message, hmessage⟩ := h.raises _ herror
      cases hmessage
  | some text =>
      cases hparse : parseXml text with
      | error exc =>
          have herror : parseStatusResponse parseXml raw =
              .error (.windcaveClient s!"invalid xml from windcave: {exc}") := by
            rw [parseStatusResponse, parseXmlText, hencode]
            dsimp only
            rw [hparse]
            rfl
          refine iff_of_true ⟨fun e he ↦ ?_, fun st hst ↦ ?_, fun st hst ↦ ?_⟩ ⟨rfl, ?_⟩
          · exact ⟨_, Except.error.inj (he.symm.trans herror)⟩
          · cases herror.symm.trans hst
          · cases herror.symm.trans hst
          · intro _ root htext hroot
            cases htext
            cases hparse.symm.trans hroot
      | ok root =>
          have hroot : parseStatusResponse parseXml raw = parseRoot text root := by
            rw [parseStatusResponse, parseXmlText, hencode]
            dsimp only
            rw [hparse]
            dsimp only [bind, Except.bind]
          constructor
          · refine fun h ↦ ⟨rfl, ?_⟩
            intro _ root' htext hroot'
            cases htext
            obtain rfl := Except.ok.inj (hparse.symm.trans hroot')
            by_contra hnot
            obtain ⟨_, herror⟩ := parseRoot_of_not_numeric text hnot
            obtain ⟨message, hmessage⟩ := h.raises _ (hroot.trans herror)
            cases hmessage
          · rintro ⟨-, hnumeric⟩
            obtain ⟨st, hst, hreads⟩ := parseRoot_of_numeric text (hnumeric text root rfl hparse)
            have hok := hroot.trans hst
            refine ⟨fun e he ↦ ?_, fun st' hst' ↦ ?_, fun st' hst' ↦ ?_⟩
            · cases hok.symm.trans he
            · obtain rfl := Except.ok.inj (hok.symm.trans hst')
              exact ⟨text, root, hencode, hparse, hreads, hreads.of_approved⟩
            · exact fun ⟨happroved, hdeclined⟩ ↦
                WindcaveStatusResponse.not_declined_of_approved happroved hdeclined

/-- A status with a timeout of `²` seconds. -/
def oddTimeout : Element := .mk "Scr" [] none [.mk "Tmo" [] (some "²") []]

/-- **`²` is a digit for `isdigit` and none for `int`**: the reply raises `ValueError`. -/
theorem odd_timeout_escapes :
    parseStatusResponse (fun _ ↦ .ok oddTimeout) (.ofString "<Scr><Tmo>²</Tmo></Scr>") =
        .error (.value "invalid literal for int() with base 10: '²'") ∧
      ¬ FailsAsDeclared (fun _ ↦ .ok oddTimeout) (.ofString "<Scr><Tmo>²</Tmo></Scr>") := by
  have hraises : parseStatusResponse (fun _ ↦ .ok oddTimeout)
      (.ofString "<Scr><Tmo>²</Tmo></Scr>") =
        .error (.value "invalid literal for int() with base 10: '²'") := by
    decide +kernel
  refine ⟨hraises, fun h ↦ ?_⟩
  obtain ⟨message, hmessage⟩ := h.raises _ hraises
  cases hmessage

end HightowerPos.Windcave
