import HightowerPos.Clients.WindcaveReply

/-!
# Posts to Windcave

`_raw_post` tries a post up to three times.  As for Sentry the outcome of each try is given, and
a method of the client is the function from the outcomes to the value that it returns or the
exception that it raises.
-/

namespace HightowerPos.Windcave

/-- The outcome of one try of a post. -/
inductive Try
  | response (status : Nat) (text : PyStr)
  | /-- `httpx.NetworkError`. -/
    networkError (repr : String)
  | /-- `httpx.TimeoutException`. -/
    timeout (repr : String)
  | /-- Any other exception of httpx. -/
    otherError (repr : String)

def maxRetries : Nat := 3

/-- `last_exc`. -/
inductive LastExc
  | client (message : String)
  | transport (repr : String)

/-- The loop of `_raw_post`, with `left` tries to go. -/
def rawPostLoop (outcome : Nat → Try) :
    (left attempt : Nat) → Option LastExc → Except PyExc PyStr
  | 0, _, none => .error .assertion
  | 0, _, some (.client message) => .error (.windcaveClient message)
  | 0, _, some (.transport repr) => .error
      (.windcaveClient s!"windcave request failed after {maxRetries} attempts: {repr}")
  | left + 1, attempt, _ => match outcome attempt with
      | .response status text =>
          if 500 ≤ status ∧ status < 600 then
            rawPostLoop outcome left (attempt + 1)
              (some (.client s!"windcave returned {status}"))
          else if 400 ≤ status then .error (.windcaveClient s!"windcave returned {status}")
          else .ok text
      | .networkError repr | .timeout repr =>
          rawPostLoop outcome left (attempt + 1) (some (.transport repr))
      | .otherError repr => .error (.httpx repr)

/-- `_raw_post`. -/
def rawPost (outcome : Nat → Try) : Except PyExc PyStr := rawPostLoop outcome maxRetries 0 none

/-- `_post`, the end of `charge`, `refund` and `status`. -/
def post (parseXml : String → Except String Element) (outcome : Nat → Try) :
    Except PyExc WindcaveStatusResponse := rawPost outcome >>= parseStatusResponse parseXml

/-- `cancel`. -/
def cancel (parseXml : String → Except String Element) (outcome : Nat → Try) :
    Except PyExc Bool := do
  let raw ← rawPost outcome
  let (_, root) ← parseXmlText parseXml raw
  return root.textOr "Success" = "1"

/-- What the methods of the client raise. -/
inductive Raised : PyExc → Prop
  | windcaveClient (message : String) : Raised (.windcaveClient message)
  | httpx (repr : String) : Raised (.httpx repr)
  | value (message : String) : Raised (.value message)
  | unicodeEncode : Raised .unicodeEncode
  | assertion : Raised .assertion

/-- Only such exceptions. -/
def Raises {α : Type} (r : Except PyExc α) : Prop := ∀ e, r = .error e → Raised e

section Raises

variable {α β : Type} {parseXml : String → Except String Element} {outcome : Nat → Try}

theorem Raises.bind {r : Except PyExc α} {f : α → Except PyExc β} (hr : Raises r)
    (hf : ∀ a, Raises (f a)) : Raises (r >>= f) := by
  cases r with
  | ok a => exact hf a
  | error e =>
      intro e' he'
      obtain rfl := Except.error.inj he'
      exact hr e rfl

theorem raises_ok (a : α) : Raises (.ok a : Except PyExc α) := fun _ h ↦ by cases h

theorem raises_error {e : PyExc} (he : Raised e) : Raises (.error e : Except PyExc α) := by
  rintro _ h
  cases h
  exact he

theorem raises_rawPostLoop (left attempt : Nat) (last : Option LastExc) :
    Raises (rawPostLoop outcome left attempt last) := by
  induction left generalizing attempt last with
  | zero =>
      cases last with
      | none => exact raises_error .assertion
      | some last => cases last <;> exact raises_error (.windcaveClient _)
  | succ left ih =>
      unfold rawPostLoop
      split
      · split
        · exact ih _ _
        · split
          · exact raises_error (.windcaveClient _)
          · exact raises_ok _
      · exact ih _ _
      · exact ih _ _
      · exact raises_error (.httpx _)

theorem raises_parseXmlText (raw : PyStr) : Raises (parseXmlText parseXml raw) := by
  unfold parseXmlText
  split
  · exact raises_error .unicodeEncode
  · split
    · exact raises_error (.windcaveClient _)
    · exact raises_ok _

theorem raises_parseRoot (raw : String) (root : Element) : Raises (parseRoot raw root) := by
  intro e he
  by_cases hnumeric : Numeric root
  · obtain ⟨st, hst, -⟩ := parseRoot_of_numeric raw hnumeric
    cases hst.symm.trans he
  · obtain ⟨message, herror⟩ := parseRoot_of_not_numeric raw hnumeric
    obtain rfl := Except.error.inj (herror.symm.trans he)
    exact .value message

/-- A post raises what the client declares, what httpx raises, or the error of a text. -/
theorem raises_post : Raises (post parseXml outcome) :=
  (raises_rawPostLoop _ _ _).bind fun raw ↦
    (raises_parseXmlText raw).bind fun _ ↦ raises_parseRoot _ _

theorem raises_cancel : Raises (cancel parseXml outcome) :=
  (raises_rawPostLoop _ _ _).bind fun raw ↦ (raises_parseXmlText raw).bind fun _ ↦ raises_ok _

end Raises

end HightowerPos.Windcave
