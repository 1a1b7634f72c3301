import Governance.Yaml.Node

/-!
# The value of a document

What a document says, as a document value. A plain scalar is null, a truth value, a number or else
a text; its tag may say which. Aliases stand for the nodes they name. Collections may be nested 128
deep, and following aliases may not blow the document up by more than a hundredfold.
-/

namespace Governance.Yaml

open Number

/-! ### Plain scalars -/

def isNullWord (s : String) : Bool := s == "null" || s == "Null" || s == "NULL" || s == "~"

def truth? (s : String) : Option Bool :=
  if s = "true" ∨ s = "True" ∨ s = "TRUE" then some true
  else if s = "false" ∨ s = "False" ∨ s = "FALSE" then some false
  else none

/-- The number that the digits `cs` write in a `base` of at most sixteen. -/
def digits? (base : Nat) (cs : List Char) : Option Nat :=
  match cs.mapM Json.hexValue? with
  | some ds => if ds ≠ [] ∧ ds.all (· < base) then some (valueOfDigits base ds) else none
  | none => none

/-- Decimal digits with a needless zero in front, which make a text. -/
def isPadded (cs : List Char) : Bool :=
  match cs with
  | '0' :: rest => !rest.isEmpty && rest.all isDigit
  | _ => false

/-- A natural number without a sign, in base ten, sixteen, eight or two. -/
def magnitude? : List Char → Option Nat
  | '0' :: 'x' :: rest => digits? 16 rest
  | '0' :: 'o' :: rest => digits? 8 rest
  | '0' :: 'b' :: rest => digits? 2 rest
  | cs => if isPadded cs then none else digits? 10 cs

/-- A natural number that may have a plus sign (`magnitude?`). -/
def natural? : List Char → Option Nat
  | '+' :: rest => magnitude? rest
  | cs => magnitude? cs

/-- An integer of any size (`magnitude?` with a sign). -/
def integer? : List Char → Option Int
  | '-' :: rest => (magnitude? rest).map fun n => -(n : Int)
  | cs => (natural? cs).map fun n => (n : Int)

/-- The words for what is not finite. -/
def boundless : List (String × Binary64) :=
  [(".inf", .infinite false), (".Inf", .infinite false), (".INF", .infinite false),
   ("+.inf", .infinite false), ("+.Inf", .infinite false), ("+.INF", .infinite false),
   ("-.inf", .infinite true), ("-.Inf", .infinite true), ("-.INF", .infinite true),
   (".nan", .nan), (".NaN", .nan), (".NAN", .nan)]

/-- A finite number in decimal notation, or one of the words of `boundless`. -/
def number? (s : String) : Option Binary64 :=
  match boundless.lookup s with
  | some x => some x
  | none => (Number.read? s).filter Binary64.isFinite

/-- The number `x` as a document value, in which what is not finite is `null`. -/
def numberValue (x : Binary64) : Json := if x.isFinite then .float x else .null

/-- Whether `n` has at most 128 bits; longer rows of digits are not taken for integers. -/
def isWide (n : Int) : Bool := 
  decide (-0x80000000000000000000000000000000 ≤ n ∧ n < 0x100000000000000000000000000000000)

/-- The integer `n` as a document value, which has 64 bits at most. -/
def integerValue (n : Int) : Except Fault Json :=
  if Json.isWordSized n then .ok (.int n) else .error .integerRange

/-- What the integer is that `s` writes, if it writes one (`integerValue`). -/
def integerValue? (s : String) : Option (Except Fault Json) :=
  ((integer? s.toList).filter isWide).map integerValue

def withoutSign : List Char → List Char
  | '-' :: cs => cs
  | '+' :: cs => cs
  | cs => cs

/-- The value of a plain scalar `s` without a tag. -/
def plainValue (s : String) : Except Fault Json :=
  if s = "" ∨ isNullWord s then .ok .null
  else
    match truth? s, integerValue? s with
    | some b, _ => .ok (.bool b)
    | none, some value => value
    | none, none =>
      if isPadded (withoutSign s.toList) then .ok (.text s)
      else
        match number? s with
        | some x => .ok (numberValue x)
        | none => .ok (.text s)

/-! ### Tags -/

/-- The tags that say what a scalar is. -/
inductive ScalarTag
  | bool
  | int
  | float
  | null
deriving DecidableEq

def ScalarTag.table : List (String × ScalarTag) :=
  [("tag:yaml.org,2002:bool", bool), ("tag:yaml.org,2002:int", int),
   ("tag:yaml.org,2002:float", float), ("tag:yaml.org,2002:null", null)]

/-- Whether a tag names a kind of its own, of which documents have none. -/
def isLocal (tag : Option String) : Bool := tag.any fun t => t.startsWith "!"

/-- The value of a scalar that is tagged as one kind; a text that does not fit is a fault. -/
def ScalarTag.value : ScalarTag → String → Except Fault Json
  | bool, s =>
    match truth? s with
    | some b => .ok (.bool b)
    | none => .error .misfit
  | int, s => (integerValue? s).getD (.error .misfit)
  | float, s =>
    match number? s with
    | some x => .ok (numberValue x)
    | none => .error .misfit
  | null, s => if isNullWord s then .ok .null else .error .misfit

/-- The value of the scalar `s` with its `tag`. -/
def Scalar.value (tag : Option String) (s : Scalar) : Except Fault Json :=
  match tag with
  | none => if s.style = .plain then plainValue s.text else .ok (.text s.text)
  | some t =>
    if isLocal tag then .error .strangeTag
    else
      match ScalarTag.table.lookup t with
      | some kind => kind.value s.text
      | none => .ok (.text s.text)

/-! ### Nodes -/

/-- A walk over a document, which counts the aliases it follows (`follow`). -/
abbrev Walk := StateT Nat (Except Fault)

namespace Document

/-- The node itself, or the one that an `alias` stands for. -/
def follow (d : Document) : Node → Walk Node
  | .alias slot => do
    modify (· + 1)
    if 100 * d.size < (← get) then throw .tooManyAliases
    match d.node? slot with
    | some node => return node
    | none => throw .unknownAnchor
  | node => return node

/-- The text of a scalar, whatever its tag and style; any other `node` is the fault `otherwise`. -/
def textAt (d : Document) (otherwise : Fault) (node : Node) : Walk String := do
  match ← d.follow node with
  | .scalar _ s => return s.text
  | _ => throw otherwise

/-- The `members` under the texts of their keys, each with what `value` reads. -/
def membersAt (d : Document) (value : Node → Walk Json) (members : List (Node × Node)) :
    Walk (List (String × Json)) :=
  members.mapM fun member => do
    let name ← d.textAt .keyShape member.1
    return (name, ← value member.2)

/-- The value of a node in which collections may be nested to a depth. -/
def valueAt (d : Document) : Nat → Node → Walk Json
  | 0, node => do
    match ← d.follow node with
    | .scalar tag s => s.value tag
    | _ => throw .tooDeep
  | depth + 1, node => do
    match ← d.follow node with
    | .scalar tag s => s.value tag
    | .sequence tag items =>
      if isLocal tag then throw .strangeTag
      return .array (← items.mapM (d.valueAt depth))
    | .mapping tag members =>
      if isLocal tag then throw .strangeTag
      return .ofMembers (← d.membersAt (d.valueAt depth) members)
    | .alias _ => throw .unknownAnchor

/-- How deep collections may be nested at most. -/
def depthLimit : Nat := 128

/-- The value of the document `d`; an empty file says `null`. -/
def value (d : Document) : Except Fault Json :=
  match d.root with
  | none => .ok .null
  | some node => (d.valueAt depthLimit node).run' 0

end Document

/-- The value that the `text` of a file says. -/
def read (text : String) : Except Fault Json := do (← Document.read text).value

end Governance.Yaml
