import Governance.Json.Decode
import Governance.Number.Numeral
import Governance.Text.Blank
import Governance.Text.LowerCase

/-!
# Field values

What a field of a context or the operand of a condition can hold: nothing, a truth value, a number,
a text, or a list of texts. Coercions give its number, its truth value, its text and its set of
texts. Two readers take document values, one that says what is unsupported and one that only
refuses; one writer goes back.
-/

namespace Governance

open Number

/-- A value of a context field or of an operand. -/
inductive FieldValue
  | null
  | bool (value : Bool)
  | number (value : Binary64)
  | text (value : String)
  | texts (items : List String)
deriving BEq

namespace FieldValue

instance : Inhabited FieldValue := ⟨null⟩

/-- The name of a value's shape in messages. -/
def kind : FieldValue → String
  | null => "null"
  | bool _ => "boolean"
  | number _ => "number"
  | text _ => "string"
  | texts _ => "string array"

def isNull : FieldValue → Bool
  | null => true
  | _ => false

/-- Whether the value holds no number that is infinite or none. -/
def isFinite : FieldValue → Bool
  | number x => x.isFinite
  | _ => true

/-! ### Coercions -/

/-- The number `x` if it is finite, or none. -/
def finite? (x : Binary64) : Option Binary64 := if x.isFinite then some x else none

/-- The number that `s` writes, blanks around it passed over. -/
def numberOfText (s : String) : Option Binary64 := (Number.read? (Text.trim s)).bind finite?

/-- The value as a number. -/
def asNumber : FieldValue → Option Binary64
  | number x => finite? x
  | text s => numberOfText s
  | _ => none

/-- The value as a truth value; texts are compared without regard to ASCII case. -/
def asBool : FieldValue → Option Bool
  | bool b => some b
  | text s =>
    if Text.sameIgnoringAsciiCase (Text.trim s) "true" then some true
    else if Text.sameIgnoringAsciiCase (Text.trim s) "false" then some false
    else none
  | _ => none

/-- The value as a text; `null` has none. -/
def toText : FieldValue → Option String
  | null => none
  | bool b => some (if b then "true" else "false")
  | number x => some (Number.text x)
  | text s => some s
  | texts items => some (String.intercalate "," items)

/-- The value as a set of texts. -/
def toTexts : FieldValue → List String
  | null => []
  | texts items => items
  | v => v.toText.toList

/-- The value `v` as messages show it. -/
def display (v : FieldValue) : String := v.toText.getD "null"

theorem toText_isSome (v : FieldValue) : v.toText.isSome = !v.isNull := by
  cases v <;> rfl

theorem asNumber_isFinite {v : FieldValue} {x : Binary64} (h : v.asNumber = some x) :
    x.isFinite = true := by
  have finite {y : Binary64} (hy : finite? y = some x) : x.isFinite = true := by
    unfold finite? at hy
    split at hy
    · simp_all
    · simp at hy
  cases v with
  | null => simp [asNumber] at h
  | bool b => simp [asNumber] at h
  | number y => exact finite h
  | text s =>
    simp only [asNumber, numberOfText, Option.bind_eq_some_iff] at h
    obtain ⟨y, _, hy⟩ := h
    exact finite hy
  | texts items => simp [asNumber] at h

/-! ### Readers and writer -/

/-- A document value that no field value stands for. -/
inductive Unsupported
  | object
  | item (index : Nat) (kind : String)
  | nonFinite (written : String)
deriving DecidableEq

def Unsupported.message : Unsupported → String
  | object => "objects are not supported as field values"
  | item index kind =>
    "array element " ++ intText index ++ " is a " ++ kind ++ "; only string arrays are supported"
  | nonFinite written => "number " ++ written ++ " is not representable as a finite float"

/-- The texts of an array from place `index` on, or the first item that is no text. -/
def textsFrom (index : Nat) : List Json → Except Unsupported (List String)
  | [] => .ok []
  | .text s :: rest => (textsFrom (index + 1) rest).map (s :: ·)
  | j :: _ => .error (.item index j.kind)

/-- The field value of a document value. -/
def ofJson : Json → Except Unsupported FieldValue
  | .null => .ok null
  | .bool b => .ok (bool b)
  | .int n =>
    if (Binary64.ofInt n).isFinite then .ok (number (.ofInt n))
    else .error (.nonFinite (intText n))
  | .float x =>
    if x.isFinite then .ok (number x) else .error (.nonFinite (Style.document.write x))
  | .text s => .ok (text s)
  | .array xs => (textsFrom 0 xs).map texts
  | .object _ => .error .object

/-- The texts of an array, if it holds nothing else. -/
def allTexts : List Json → Option (List String)
  | [] => some []
  | .text s :: rest => (allTexts rest).map (s :: ·)
  | _ => none

/-- The first shape of a field value that a document value has. -/
def decode : Json → Decode.Reading FieldValue
  | .null => .ok null
  | .bool b => .ok (bool b)
  | .int n => .ok (number (.ofInt n))
  | .float x => .ok (number x)
  | .text s => .ok (text s)
  | .array xs =>
    match allTexts xs with
    | some items => .ok (texts items)
    | none => .error (.noVariant "FieldValue")
  | .object _ => .error (.noVariant "FieldValue")

/-- The document value of a field value; a number that is none is written as `null`. -/
def toJson : FieldValue → Json
  | null => .null
  | bool b => .bool b
  | number x => if x.isFinite then .float x else .null
  | text s => .text s
  | texts items => Json.texts items

theorem textsFrom_map_text (index : Nat) (items : List String) :
    textsFrom index (items.map .text) = .ok items := by
  induction items generalizing index with
  | nil => rfl
  | cons s rest ih => simp [textsFrom, ih, Except.map]

theorem allTexts_map_text (items : List String) : allTexts (items.map .text) = some items := by
  induction items with
  | nil => rfl
  | cons s rest ih => simp [allTexts, ih]

/-- Reading what was written gives `v` back. -/
theorem ofJson_toJson {v : FieldValue} (h : v.isFinite = true) : ofJson v.toJson = .ok v := by
  cases v with
  | null => rfl
  | bool b => rfl
  | number x => simp_all [toJson, ofJson, isFinite]
  | text s => rfl
  | texts items => simp [toJson, Json.texts, ofJson, textsFrom_map_text, Except.map]

/-- What `ofJson` reads from a document holds no number that is infinite or none. -/
theorem isFinite_of_ofJson {j : Json} {v : FieldValue} (h : ofJson j = .ok v) :
    v.isFinite = true := by
  cases j with
  | int n =>
    rw [ofJson] at h
    split at h
    · next hfinite =>
      obtain rfl := Except.ok.inj h
      exact hfinite
    · exact absurd h (by simp)
  | float x =>
    rw [ofJson] at h
    split at h
    · next hfinite =>
      obtain rfl := Except.ok.inj h
      exact hfinite
    · exact absurd h (by simp)
  | array xs =>
    rw [ofJson] at h
    cases htexts : textsFrom 0 xs with
    | error cause => exact absurd h (by simp [htexts, Except.map])
    | ok items =>
      rw [htexts] at h
      obtain rfl := Except.ok.inj h
      rfl
  | object ms => exact absurd h (by simp [ofJson])
  | _ =>
    obtain rfl := Except.ok.inj h
    rfl

theorem decode_toJson {v : FieldValue} (h : v.isFinite = true) : decode v.toJson = .ok v := by
  cases v with
  | null => rfl
  | bool b => rfl
  | number x => simp_all [toJson, decode, isFinite]
  | text s => rfl
  | texts items => simp [toJson, Json.texts, decode, allTexts_map_text]

end FieldValue

end Governance
