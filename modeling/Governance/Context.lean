import Governance.FieldValue

/-!
# Evaluation contexts

The named values that a condition tree is judged against. Names are matched exactly, and a name
that is absent reads as null. Fields stand in ascending order of their names.
-/

namespace Governance

/-- The fields that one evaluation sees. -/
structure Context where
  fields : List (String × FieldValue)

namespace Context

def empty : Context := ⟨[]⟩

/-- The context `c` with one more field `name`. -/
def insert (c : Context) (name : String) (value : FieldValue) : Context :=
  ⟨Keyed.insert name value c.fields⟩

/-- The field `name` of `c`, if present. -/
def get? (c : Context) (name : String) : Option FieldValue := Keyed.find? c.fields name

/-- The value of the field `name` of `c`, `null` when absent. -/
def valueOf (c : Context) (name : String) : FieldValue := (c.get? name).getD .null

def size (c : Context) : Nat := c.fields.length

def isEmpty (c : Context) : Bool := c.fields.isEmpty

/-- A document that is no context. -/
inductive Fault
  | notAnObject (kind : String)
  | unsupportedField (name : String) (cause : FieldValue.Unsupported)
deriving DecidableEq

def Fault.message : Fault → String
  | notAnObject kind => "evaluation context must be a JSON object, got " ++ kind
  | unsupportedField name cause => "field " ++ Text.quote name ++ ": " ++ cause.message

/-- The context with the fields of an object's members. -/
def ofMembers : List (String × Json) → Except Fault Context
  | [] => .ok empty
  | (name, j) :: rest =>
    match FieldValue.ofJson j with
    | .error cause => .error (.unsupportedField name cause)
    | .ok value => (ofMembers rest).map fun c => c.insert name value

/-- The context that a document holds. -/
def ofJson : Json → Except Fault Context
  | .object ms => ofMembers ms
  | j => .error (.notAnObject j.kind)

def toJson (c : Context) : Json := .object (c.fields.map fun f => (f.1, f.2.toJson))

theorem valueOf_empty (name : String) : empty.valueOf name = .null := rfl

theorem valueOf_insert_self (c : Context) (name : String) (value : FieldValue) :
    (c.insert name value).valueOf name = value := by
  simp [valueOf, get?, insert, Keyed.find?_insert_self]

theorem valueOf_insert_of_ne {name other : String} (h : other ≠ name) (c : Context)
    (value : FieldValue) : (c.insert name value).valueOf other = c.valueOf other := by
  simp [valueOf, get?, insert, Keyed.find?_insert_of_ne h]

end Context

end Governance
