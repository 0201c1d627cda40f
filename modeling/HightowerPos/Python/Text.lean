/-!
# Texts and JSON values as the service receives them

A Python string is a sequence of code points, and a JSON escape such as `\ud800` puts
a lone surrogate into one.  Such a string cannot be encoded as UTF-8, so SQLite refuses
to bind it; for everything else it is a string like any other.
-/

namespace HightowerPos

/-- A code point of a Python string. -/
inductive PyChar
  | char (c : Char)
  | /-- The surrogate U+D800 + `n`. -/
    surrogate (n : Fin 2048)
deriving Repr, DecidableEq

/-- A Python string. -/
abbrev PyStr := List PyChar

namespace PyStr

def ofString (s : String) : PyStr := s.toList.map .char

/-- `s.encode("utf-8")`, as the text it encodes; `none` is a `UnicodeEncodeError`. -/
def encode : PyStr → Option String
  | [] => some ""
  | .char c :: s => (encode s).map (c.toString ++ ·)
  | .surrogate _ :: _ => none

/-- The string has no lone surrogate. -/
def Encodable (s : PyStr) : Prop := ∀ c ∈ s, ∃ d, c = .char d

theorem encode_isSome_iff {s : PyStr} : (encode s).isSome ↔ Encodable s := by
  induction s with
  | nil => simp [encode, Encodable]
  | cons c s ih =>
      cases c with
      | char c => simpa [encode, Encodable] using ih
      | surrogate n => simp [encode, Encodable]

theorem encodable_ofString (s : String) : Encodable (ofString s) := by
  intro c hc
  obtain ⟨d, -, rfl⟩ := List.mem_map.mp hc
  exact ⟨d, rfl⟩

/-- A text without surrogates is encoded as itself. -/
theorem encode_ofString (s : String) : encode (ofString s) = some s := by
  have hlist (cs : List Char) : encode (cs.map .char) = some (String.ofList cs) := by
    induction cs with
    | nil => rfl
    | cons c cs ih =>
        rw [List.map_cons, encode, ih, Option.map_some, String.ofList_cons]
        rfl
  rw [ofString, hlist, String.ofList_toList]

theorem encodable_append {s t : PyStr} : Encodable (s ++ t) ↔ Encodable s ∧ Encodable t :=
  List.forall_mem_append

end PyStr

/-- What `r.json()` returns.  A float is given by its `repr`. -/
inductive Json
  | null
  | bool (b : Bool)
  | int (n : Int)
  | float (repr : String)
  | str (s : PyStr)
  | array (items : List Json)
  | object (fields : List (PyStr × Json))

namespace Json

/-- `bool(v)`. -/
def truthy : Json → Bool
  | null => false
  | bool b => b
  | int n => n ≠ 0
  | float r => r ≠ "0.0" ∧ r ≠ "-0.0"
  | str s => s ≠ []
  | array l => !l.isEmpty
  | object l => !l.isEmpty

/-- The fields of an object; any other value has none. -/
def fields : Json → List (PyStr × Json)
  | object l => l
  | _ => []

/-- `body.get(name)`, where `None` stands for a missing field as well.  A later field
of one name has replaced an earlier one. -/
def get (v : Json) (name : String) : Json :=
  match v.fields.reverse.find? fun kv ↦ kv.1 = PyStr.ofString name with
  | some kv => kv.2
  | none => null

/-- `a or b`. -/
def orElse (a b : Json) : Json := if a.truthy then a else b

/-- `isinstance(v, dict)`. -/
def isObject : Json → Bool
  | object _ => true
  | _ => false

/-- `type(v).__name__`. -/
def typeName : Json → String
  | null => "NoneType"
  | bool _ => "bool"
  | int _ => "int"
  | float _ => "float"
  | str _ => "str"
  | array _ => "list"
  | object _ => "dict"

/-! ### `json.dumps` -/

/-- A code unit as `\uXXXX`. -/
def escapeUnit (n : Nat) : String :=
  let digits := Nat.toDigits 16 n
  "\\u" ++ String.ofList (List.replicate (4 - digits.length) (Char.ofNat 48) ++ digits)

/-- A code point inside a JSON string, with `ensure_ascii`. -/
def escapeChar : PyChar → String
  | .surrogate n => escapeUnit (0xd800 + n)
  | .char c => match c.toNat with
      | 8 => "\\b"
      | 9 => "\\t"
      | 10 => "\\n"
      | 12 => "\\f"
      | 13 => "\\r"
      | 34 => "\\\""
      | 92 => "\\\\"
      | n =>
          if 0x20 ≤ n ∧ n ≤ 0x7e then c.toString
          else if n < 0x10000 then escapeUnit n
          else
            let k := n - 0x10000
            escapeUnit (0xd800 + k / 0x400) ++ escapeUnit (0xdc00 + k % 0x400)

/-- A JSON string. -/
def quote (s : PyStr) : String := "\"" ++ String.join (s.map escapeChar) ++ "\""

mutual

/-- `json.dumps(v)`. -/
def dumps : Json → String
  | null => "null"
  | bool b => if b then "true" else "false"
  | int n => toString n
  | float r => r
  | str s => quote s
  | array l => "[" ++ ", ".intercalate (dumpsItems l) ++ "]"
  | object l => "\x7b" ++ ", ".intercalate (dumpsFields l) ++ "\x7d"

def dumpsItems : List Json → List String
  | [] => []
  | v :: l => dumps v :: dumpsItems l

def dumpsFields : List (PyStr × Json) → List String
  | [] => []
  | (k, v) :: l => (quote k ++ ": " ++ dumps v) :: dumpsFields l

end

end Json

end HightowerPos
