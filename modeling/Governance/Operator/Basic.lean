import Governance.Json.Decode

/-!
# Operators

The twenty-one operators that condition nodes carry, their names and families. Eighteen judge one
field and stand at leaves; three combine conditions. Names are read exactly.
-/

namespace Governance

/-- An operator of a condition node. -/
inductive Operator
  | equals
  | notEquals
  | greaterThan
  | lessThan
  | greaterThanOrEqual
  | lessThanOrEqual
  | contains
  | notContains
  | startsWith
  | endsWith
  | regexMatch
  | containsAny
  | containsAll
  | notContainsAny
  | isTrue
  | isFalse
  | isNull
  | isNotNull
  | and
  | or
  | not
deriving DecidableEq

/-- A family of operators by the operands that they expect (`group`). -/
inductive OperatorGroup
  | comparison
  | string
  | array
  | boolean
  | logical
deriving DecidableEq

def OperatorGroup.label : OperatorGroup → String
  | comparison => "comparison"
  | string => "string"
  | array => "array"
  | boolean => "boolean"
  | logical => "logical"

namespace Operator

/-- All operators, in the order of their declaration. -/
def all : List Operator :=
  [equals, notEquals, greaterThan, lessThan, greaterThanOrEqual, lessThanOrEqual, contains,
   notContains, startsWith, endsWith, regexMatch, containsAny, containsAll, notContainsAny, isTrue,
   isFalse, isNull, isNotNull, and, or, not]

def label : Operator → String
  | equals => "EQUALS"
  | notEquals => "NOT_EQUALS"
  | greaterThan => "GREATER_THAN"
  | lessThan => "LESS_THAN"
  | greaterThanOrEqual => "GREATER_THAN_OR_EQUAL"
  | lessThanOrEqual => "LESS_THAN_OR_EQUAL"
  | contains => "CONTAINS"
  | notContains => "NOT_CONTAINS"
  | startsWith => "STARTS_WITH"
  | endsWith => "ENDS_WITH"
  | regexMatch => "REGEX_MATCH"
  | containsAny => "CONTAINS_ANY"
  | containsAll => "CONTAINS_ALL"
  | notContainsAny => "NOT_CONTAINS_ANY"
  | isTrue => "IS_TRUE"
  | isFalse => "IS_FALSE"
  | isNull => "IS_NULL"
  | isNotNull => "IS_NOT_NULL"
  | and => "AND"
  | or => "OR"
  | not => "NOT"

/-- The operators by their labels, as `read?` looks them up. -/
def table : List (String × Operator) := all.map fun op => (op.label, op)

/-- The operator with the label `s`, matched exactly. -/
def read? (s : String) : Option Operator := (table.find? fun entry => entry.1 == s).map Prod.snd

/-- The place of `op` in the order of operators. -/
def index (op : Operator) : Nat := all.idxOf op

def group : Operator → OperatorGroup
  | equals | notEquals | greaterThan | lessThan | greaterThanOrEqual | lessThanOrEqual =>
    .comparison
  | contains | notContains | startsWith | endsWith | regexMatch => .string
  | containsAny | containsAll | notContainsAny => .array
  | isTrue | isFalse | isNull | isNotNull => .boolean
  | and | or | not => .logical

/-- Whether `op` combines conditions. -/
def isLogical (op : Operator) : Bool := op.group == .logical

/-- Whether the operator judges a field that is missing: `isNull` and `isNotNull` do. -/
def definedForMissing : Operator → Bool
  | isNull | isNotNull => true
  | _ => false

/-- Whether a leaf with `op` needs an operand. -/
def requiresOperand (op : Operator) : Bool :=
  match op.group with
  | .comparison | .string | .array => true
  | _ => false

/-- Whether the operator orders numbers, and so wants both sides to be numbers. -/
def isOrdering : Operator → Bool
  | greaterThan | lessThan | greaterThanOrEqual | lessThanOrEqual => true
  | _ => false

def toJson (op : Operator) : Json := .text op.label

def ofJson : Json → Decode.Reading Operator := Decode.variant table

theorem mem_all (op : Operator) : op ∈ all := by cases op <;> decide

/-- `read?` finds every operator by its label. -/
theorem read?_label (op : Operator) : read? op.label = some op := by
  cases op <;> decide

theorem label_injective {a b : Operator} (h : a.label = b.label) : a = b := by
  have hb := read?_label b
  rw [← h, read?_label] at hb
  exact Option.some.inj hb

/-- `read?` takes only labels. -/
theorem read?_eq_some {s : String} {op : Operator} (h : read? s = some op) : s = op.label := by
  unfold read? at h
  simp only [Option.map_eq_some_iff] at h
  obtain ⟨entry, hfind, hop⟩ := h
  have hmem := List.mem_of_find?_eq_some hfind
  have hs := List.find?_some hfind
  simp only [table, List.mem_map] at hmem
  obtain ⟨o, _, rfl⟩ := hmem
  simp only at hs hop
  subst hop
  exact (beq_iff_eq.1 hs).symm

theorem read?_eq_some_iff {s : String} {op : Operator} : read? s = some op ↔ s = op.label :=
  ⟨read?_eq_some, fun h => h ▸ read?_label op⟩

theorem ofJson_toJson (op : Operator) : ofJson op.toJson = .ok op := by
  cases op <;> rfl

end Operator

end Governance
