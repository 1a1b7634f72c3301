import Governance.Condition.Basic

/-!
# Written conditions

A condition node as an author writes it, with nothing checked: an operator's name and, each if
given, a field, a value and further nodes. It is read from documents and written to them. Every
condition has a written form, in which an operand of null is left out.
-/

namespace Governance

open Decode

/-- A condition node as written. -/
structure WrittenCondition where
  field : Option String
  operator : String
  value : Option Json
  conditions : Option (List WrittenCondition)

namespace WrittenCondition

/-- The nodes below `w`. -/
def children (w : WrittenCondition) : List WrittenCondition := w.conditions.getD []

/-! ### Reading -/

def declared : List String := ["field", "operator", "value", "conditions"]

/-- A node from the value `j` that writes it, its `inner` nodes read beforehand. -/
def assemble (j : Json) (inner : List (String × Reading (Option (List WrittenCondition)))) :
    Reading WrittenCondition := do
  let r ← record "RawCondition" declared j
  let field := r.slot "field" (option text)
  let operator := r.slot "operator" text
  let value := r.slot "value" (option .ok)
  let conditions : Slot (Option (List WrittenCondition)) :=
    ⟨"conditions", Keyed.find? inner "conditions"⟩
  r.settle [field.fault, operator.fault, value.fault, conditions.fault]
  let field ← field.getD none
  let operator ← r.required operator
  let value ← value.getD none
  let conditions ← conditions.getD none
  .ok ⟨field, operator, value, conditions⟩

mutual

def ofJson : Json → Reading WrittenCondition
  | .object ms => assemble (.object ms) (innerOfMembers ms)
  | .array xs => assemble (.array xs) (declared.zip (innerOfItems xs))
  | j => assemble j []

/-- The `inner` nodes that each member would write. -/
def innerOfMembers :
    List (String × Json) → List (String × Reading (Option (List WrittenCondition)))
  | [] => []
  | (name, j) :: ms => (name, inner j) :: innerOfMembers ms

def innerOfItems : List Json → List (Reading (Option (List WrittenCondition)))
  | [] => []
  | j :: js => inner j :: innerOfItems js

/-- A list of nodes, or none. -/
def inner : Json → Reading (Option (List WrittenCondition))
  | .null => .ok none
  | .array xs => (ofItems xs).map some
  | j => .error (.wrongType j "a sequence")

def ofItems : List Json → Reading (List WrittenCondition)
  | [] => .ok []
  | j :: js => do
    let w ← ofJson j
    let ws ← ofItems js
    .ok (w :: ws)

end

/-! ### Writing -/

mutual

def toJson : WrittenCondition → Json
  | ⟨field, operator, value, conditions⟩ =>
    .object
      (Json.optional "field" .text field ++ ("operator", .text operator)
        :: Json.optional "value" id value ++ conditionsMember conditions)

/-- The member `conditions` for inner nodes, left out when there are none. -/
def conditionsMember : Option (List WrittenCondition) → List (String × Json)
  | none => []
  | some ws => [("conditions", .array (allToJson ws))]

def allToJson : List WrittenCondition → List Json
  | [] => []
  | w :: ws => toJson w :: allToJson ws

end

end WrittenCondition

/-! ### The written form of a condition -/

/-- The operand `v` as written; `null` is left out. -/
def FieldValue.written (v : FieldValue) : Option Json := if v.isNull then none else some v.toJson

def Leaf.written (l : Leaf) : WrittenCondition :=
  ⟨some l.field, l.operator.label, l.value.written, none⟩

namespace Condition

mutual

def written : Condition → WrittenCondition
  | .leaf l => l.written
  | .and cs => ⟨none, Operator.and.label, none, some (writtenAll cs)⟩
  | .or cs => ⟨none, Operator.or.label, none, some (writtenAll cs)⟩
  | .not c => ⟨none, Operator.not.label, none, some [written c]⟩

def writtenAll : List Condition → List WrittenCondition
  | [] => []
  | c :: cs => written c :: writtenAll cs

end

def toJson (c : Condition) : Json := c.written.toJson

end Condition

end Governance
