import Governance.Keyed
import Governance.Number.Decimal

/-!
# Document values

The values that documents hold. Integers and other numbers are told apart; an object is a list of
named members. Free-form objects keep their names in ascending order, each once. Two values are
equal when they have one shape and equal parts, numbers compared by value.
-/

namespace Governance

open Number

/-- A document value. -/
inductive Json
  | null
  | bool (value : Bool)
  | int (value : Int)
  | float (value : Binary64)
  | text (value : String)
  | array (items : List Json)
  | object (members : List (String × Json))

namespace Json

instance : Inhabited Json := ⟨null⟩

mutual

/-- Equality by value: `int` and `float` are apart, and a `float` that is no number equals
nothing. -/
def equal : Json → Json → Bool
  | .null, .null => true
  | .bool a, .bool b => a == b
  | .int a, .int b => a == b
  | .float a, .float b => a.equal b
  | .text a, .text b => a == b
  | .array xs, .array ys => equalItems xs ys
  | .object xs, .object ys => equalMembers xs ys
  | _, _ => false

def equalItems : List Json → List Json → Bool
  | [], [] => true
  | x :: xs, y :: ys => equal x y && equalItems xs ys
  | _, _ => false

def equalMembers : List (String × Json) → List (String × Json) → Bool
  | [], [] => true
  | (k, x) :: xs, (l, y) :: ys => k == l && equal x y && equalMembers xs ys
  | _, _ => false

end

instance : BEq Json := ⟨equal⟩

/-- The name of a value's shape, as messages call it. -/
def kind : Json → String
  | .null => "null"
  | .bool _ => "boolean"
  | .int _ => "number"
  | .float _ => "number"
  | .text _ => "string"
  | .array _ => "array"
  | .object _ => "object"

def isNull : Json → Bool
  | .null => true
  | _ => false

/-- The `object` with the given `members`, names ascending; of two with one name the last stays. -/
def ofMembers (members : List (String × Json)) : Json := .object (Keyed.ofList members)

/-- The member of a `name`, if the value is an `object` that has it. -/
def get? : Json → String → Option Json
  | .object members, name => Keyed.find? members name
  | _, _ => none

/-- The `array` of the texts `items`. -/
def texts (items : List String) : Json := .array (items.map .text)

/-- The natural number `n` as a value. -/
def nat (n : Nat) : Json := .int n

/-- What `f` makes of a value, or `null`. -/
def ofOption {α : Type} (f : α → Json) : Option α → Json
  | none => .null
  | some a => f a

/-- The member of a `name` for `ofMembers`, left out when there is no value. -/
def optional {α : Type} (name : String) (f : α → Json) : Option α → List (String × Json)
  | none => []
  | some a => [(name, f a)]

end Json

end Governance
