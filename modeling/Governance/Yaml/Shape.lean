import Governance.Yaml.Value

/-!
# Reading a document for a record

A document that is read for a record of known members is read by what each member wants: a text is
the text of any scalar, a number is a plain scalar in a number's notation, and a list or a mapping
may be left out by writing nothing. A member may not come twice, and a closed record knows no
others.
-/

namespace Governance.Yaml

/-- What a member of a record wants, as its reader will take it. -/
inductive Shape
  | text
  /-- A natural number of at most 64 bits. -/
  | natural
  | number
  | truth
  /-- A list of texts. -/
  | texts
  /-- Values of any kind under names. -/
  | members
  | optional (item : Shape)

/-- What the members of a record want, by their names. -/
structure RecordShape where
  fields : List (String × Shape)
  /-- Whether there may be no other members. -/
  isClosed : Bool

/-- The text of a scalar in which notation counts: a plain one, or a literal one with the tag
`wanted`. -/
def notation? (wanted : String) (tag : Option String) (s : Scalar) : Option String :=
  if s.style = .plain ∨ (s.style = .literal ∧ tag = some wanted) then some s.text else none

/-- Whether the scalar `s` says that a value is absent. -/
def saysAbsent (tag : Option String) (s : Scalar) : Except Fault Bool :=
  if s.style ≠ .plain then .ok false
  else
    match tag with
    | none => .ok (s.text = "" || isNullWord s.text)
    | some t =>
      if ScalarTag.table.lookup t = some .null then
        if isNullWord s.text then .ok true else .error .misfit
      else .ok false

namespace Shape

/-- What a shape is called. -/
def label : Shape → String
  | text => "a string"
  | natural => "an unsigned integer"
  | number => "a number"
  | truth => "a boolean"
  | texts => "a sequence"
  | members => "a map"
  | optional item => item.label

/-- The value of the scalar `s`, if the shape takes scalars. -/
def ofScalar? (tag : Option String) (s : Scalar) : Shape → Option Json
  | text => some (.text s.text)
  | natural =>
    ((notation? "tag:yaml.org,2002:int" tag s).bind fun t =>
      (natural? t.toList).filter (· < UInt64.size)).map .nat
  | number => ((notation? "tag:yaml.org,2002:float" tag s).bind number?).map .float
  | truth => ((notation? "tag:yaml.org,2002:bool" tag s).bind truth?).map .bool
  | texts => if s = .empty then some (.array []) else none
  | members => if s = .empty then some (.object []) else none
  | optional _ => none

/-- Reads a node that is no alias; its collections may be nested to the `depth`. -/
def readHere (d : Document) (depth : Nat) (node : Node) : Shape → Walk Json
  | optional item =>
    match node with
    | .scalar tag s => do
      if ← saysAbsent tag s then return .null else readHere d depth node item
    | _ => readHere d depth node item
  | shape =>
    match shape, node with
    | texts, .sequence _ items => do
      return .array (← items.mapM fun item =>
        return .text (← d.textAt (.wrongShape "a string") item))
    | members, .mapping _ ms => return .ofMembers (← d.membersAt (d.valueAt (depth - 1)) ms)
    | shape, .scalar tag s =>
      match shape.ofScalar? tag s with
      | some value => return value
      | none => throw (.wrongShape shape.label)
    | shape, _ => throw (.wrongShape shape.label)

def read (d : Document) (depth : Nat) (shape : Shape) (node : Node) : Walk Json := do
  shape.readHere d depth (← d.follow node)

end Shape

namespace RecordShape

/-- Reads the members of a mapping, each once; `done` holds those read, latest first. -/
def readMembers (r : RecordShape) (d : Document) (depth : Nat) (done : List (String × Json)) :
    List (Node × Node) → Walk (List (String × Json))
  | [] => return done.reverse
  | (key, node) :: rest => do
    let name ← d.textAt .keyShape key
    match r.fields.lookup name with
    | some shape =>
      if (done.lookup name).isSome then throw (.duplicateMember name)
      let value ← shape.read d depth node
      r.readMembers d depth ((name, value) :: done) rest
    | none =>
      if r.isClosed then throw (.unknownMember name)
      r.readMembers d depth done rest

/-- Reads the root of the document `d`; a record of which nothing is written has no members. -/
def readRoot (r : RecordShape) (d : Document) : Walk Json :=
  match d.root with
  | none => return .object []
  | some (.mapping _ ms) => return .object (← r.readMembers d (Document.depthLimit - 1) [] ms)
  | some (.scalar _ s) => if s = .empty then return .object [] else throw (.wrongShape "a map")
  | some _ => throw (.wrongShape "a map")

/-- Reads the `text` of a file for the record `r`, and with `ofJson` the value from the members. -/
def read {α : Type} (r : RecordShape) (ofJson : Json → Except Refusal α) (text : String) :
    Except Fault α := do
  let members ← (r.readRoot (← Document.read text)).run' 0
  match ofJson members with
  | .ok a => .ok a
  | .error cause => .error (.refused cause)

end RecordShape

end Governance.Yaml
