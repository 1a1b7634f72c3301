import Governance.Text.Blank
import Governance.Text.CaseTables
import Governance.Text.WordTables

/-!
# Character classes

Sets of code points as patterns write them: ranges, set operations, and closure under letter case.
A class is an expression, and membership is decided by recursion on it; the lemmas say what each
operation does to membership.
-/

namespace Governance.Pattern

open Text

/-- A set of code points. -/
inductive CharClass
  | ranges (rs : Ranges)
  | negation (a : CharClass)
  | union (a b : CharClass)
  | inter (a b : CharClass)
  | minus (a b : CharClass)
  | xor (a b : CharClass)
  /-- Everything that shares its `caseFamily` with a member of `a`. -/
  | caseless (a : CharClass)
  /-- The same for ASCII letters alone. -/
  | caselessAscii (a : CharClass)
deriving DecidableEq

/-- The characters that differ from `n` only in case, `n` itself included. -/
def caseFamily (n : Nat) : List Nat :=
  let least := CaseRun.image foldRuns n
  least :: foldRuns.filterMap fun run =>
    let m := ((least : Int) - run.shift).toNat
    if run.first ≤ m ∧ m ≤ run.last ∧ (m - run.first) % run.stride = 0 then some m else none

/-- The other case of the ASCII letter `n`. -/
def otherAsciiCase (n : Nat) : Nat :=
  if 0x41 ≤ n ∧ n ≤ 0x5a then n + 32 else if 0x61 ≤ n ∧ n ≤ 0x7a then n - 32 else n

namespace CharClass

/-- Whether the code point `n` is a member. -/
def mem : CharClass → Nat → Bool
  | ranges rs, n => rs.has n
  | negation a, n => !a.mem n
  | union a b, n => a.mem n || b.mem n
  | inter a b, n => a.mem n && b.mem n
  | minus a b, n => a.mem n && !b.mem n
  | xor a b, n => a.mem n != b.mem n
  | caseless a, n => (caseFamily n).any a.mem
  | caselessAscii a, n => a.mem n || a.mem (otherAsciiCase n)

def has (a : CharClass) (c : Char) : Bool := a.mem c.toNat

def nothing : CharClass := ranges []

def everything : CharClass := ranges [(0, 0x10ffff)]

def ascii : CharClass := ranges [(0, 0x7f)]

def single (c : Char) : CharClass := ranges [(c.toNat, c.toNat)]

theorem mem_union (a b : CharClass) (n : Nat) : (union a b).mem n = (a.mem n || b.mem n) := rfl

/-- The union of several classes. -/
def unions : List CharClass → CharClass
  | [] => nothing
  | [a] => a
  | a :: rest => union a (unions rest)

theorem mem_unions (as : List CharClass) (n : Nat) : (unions as).mem n = as.any (·.mem n) := by
  fun_induction unions as with
  | case1 => rfl
  | case2 a => simp
  | case3 a rest _ ih => simp [mem_union, ih]

/-- The class `a`, or its complement where it is `negated`. -/
def negatedIf (negated : Bool) (a : CharClass) : CharClass := if negated then negation a else a

/-- Bytes that one step over the class takes in a compiled pattern, in the byte encoding of text. -/
def size : CharClass → Nat
  | ranges rs => (rs.map fun r => if r.2 < 0x80 then 8 else 40).sum
  | negation a => a.size + 40
  | union a b => a.size + b.size
  | inter a b => max a.size b.size
  | minus a b => a.size + b.size
  | xor a b => a.size + b.size
  | caseless a => 2 * a.size
  | caselessAscii a => 2 * a.size

/-- How many code points the class spells out, if it is a plain list of ranges. -/
def count? : CharClass → Option Nat
  | ranges rs => some (rs.map fun r => r.2 + 1 - r.1).sum
  | union a b => do some ((← a.count?) + (← b.count?))
  | caseless a => a.count?.map (2 * ·)
  | caselessAscii a => a.count?.map (2 * ·)
  | _ => none

/-- Whether the class of bytes `a` holds bytes that are not text on their own. -/
def hasHighByte (a : CharClass) : Bool := (List.range 128).any fun i => a.mem (128 + i)

end CharClass

/-! ### Named classes -/

/-- Word characters: of every script where `unicode` is on, of ASCII otherwise. -/
def wordClass (unicode : Bool) : CharClass :=
  .ranges (if unicode then wordParts else [(0x30, 0x39), (0x41, 0x5a), (0x5f, 0x5f), (0x61, 0x7a)])

def digitClass (unicode : Bool) : CharClass :=
  .ranges (if unicode then digits else [(0x30, 0x39)])

def blankClass (unicode : Bool) : CharClass :=
  .ranges (if unicode then blanks else [(0x9, 0xd), (0x20, 0x20)])

/-- The ASCII class that brackets `name` between colons. -/
def asciiClass? (name : String) : Option CharClass :=
  let table : List (String × Ranges) :=
    [("alnum", [(0x30, 0x39), (0x41, 0x5a), (0x61, 0x7a)]),
     ("alpha", [(0x41, 0x5a), (0x61, 0x7a)]),
     ("ascii", [(0, 0x7f)]),
     ("blank", [(0x9, 0x9), (0x20, 0x20)]),
     ("cntrl", [(0, 0x1f), (0x7f, 0x7f)]),
     ("digit", [(0x30, 0x39)]),
     ("graph", [(0x21, 0x7e)]),
     ("lower", [(0x61, 0x7a)]),
     ("print", [(0x20, 0x7e)]),
     ("punct", [(0x21, 0x2f), (0x3a, 0x40), (0x5b, 0x60), (0x7b, 0x7e)]),
     ("space", [(0x9, 0xd), (0x20, 0x20)]),
     ("upper", [(0x41, 0x5a)]),
     ("word", [(0x30, 0x39), (0x41, 0x5a), (0x5f, 0x5f), (0x61, 0x7a)]),
     ("xdigit", [(0x30, 0x39), (0x41, 0x46), (0x61, 0x66)])]
  (table.find? fun entry => entry.1 == name).map fun entry => .ranges entry.2

/-- The property name `cs` without case, blanks, hyphens and underscores, and without a leading
`is`. -/
def plainName (cs : List Char) : List Char :=
  let kept := (cs.filter fun c => c ≠ ' ' ∧ c ≠ '_' ∧ c ≠ '-').map Char.toLower
  if ['i', 's'].isPrefixOf kept then kept.drop 2 else kept

/-- General categories by their `plainName`. -/
def categories : List (String × Ranges) :=
  [("l", letters), ("letter", letters), ("lu", capitals), ("uppercaseletter", capitals),
   ("ll", smallLetters), ("lowercaseletter", smallLetters), ("nd", Text.digits),
   ("decimalnumber", Text.digits), ("digit", Text.digits), ("n", numeric), ("number", numeric),
   ("any", [(0, 0x10ffff)]), ("ascii", [(0, 0x7f)])]

/-- Scripts by their `plainName`. -/
def scripts : List (String × Ranges) := [("greek", greek), ("grek", greek)]

/-- Two-valued properties by their `plainName`. -/
def properties : List (String × Ranges) :=
  [("alphabetic", alphabetic), ("alpha", alphabetic), ("whitespace", blanks), ("wspace", blanks),
   ("space", blanks)]

def lookUp (table : List (String × Ranges)) (name : List Char) : Option CharClass :=
  (table.find? fun entry => entry.1.toList == plainName name).map fun entry => .ranges entry.2

/-- The class of the property `name`, a general category or a two-valued one. -/
def property? (name : List Char) : Option CharClass :=
  lookUp (properties ++ categories ++ scripts) name

/-- The class of the property `name` with a `value`. -/
def propertyValue? (name value : List Char) : Option CharClass :=
  let plain := String.ofList (plainName name)
  if plain = "gc" ∨ plain = "generalcategory" then lookUp categories value
  else if plain = "sc" ∨ plain = "script" then lookUp scripts value
  else none

end Governance.Pattern
