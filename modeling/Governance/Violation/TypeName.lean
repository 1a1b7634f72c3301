/-!
# Names of violation types

The type of a violation is named after the field that failed, by one pass over the field's
characters: ASCII letters and digits are kept, in upper case, and an underscore stands where
something else stood between them or a capital follows a small letter or a digit.

* `Naming`: what is written so far (`out`), and the character just before if it was kept (`before`).
* `Naming.next`: one character more.
* `typeName`: the whole name.
-/

namespace Governance.Violation

/-- Whether a word starts at `c` although it follows `before` directly. -/
def startsWord (before c : Char) : Bool := c.isUpper && (before.isLower || before.isDigit)

/-- A name as far as it is written (`out`). -/
structure Naming where
  out : List Char
  /-- The last character of the field, if it was kept. -/
  before : Option Char

namespace Naming

def empty : Naming := ⟨[], none⟩

def endsWithUnderscore (n : Naming) : Bool := n.out.getLast? == some '_'

/-- Writes what the character `c` of the field adds to the name. -/
def next (n : Naming) (c : Char) : Naming :=
  if !c.isAlphanum then
    ⟨if !n.out.isEmpty && !n.endsWithUnderscore then n.out ++ ['_'] else n.out, none⟩
  else
    let isBoundary := n.before.any (startsWord · c)
    let out := if isBoundary && !n.endsWithUnderscore then n.out ++ ['_'] else n.out
    ⟨out ++ [c.toUpper], some c⟩

/-- What is written in `n.out`, without the underscores at its end. -/
def trimmed (n : Naming) : List Char := (n.out.reverse.dropWhile (· == '_')).reverse

end Naming

/-- The name of the type of violations of a `field`. -/
def typeName (field : String) : String :=
  let trimmed := (field.toList.foldl Naming.next .empty).trimmed
  if trimmed.isEmpty then "CONDITION_VIOLATION" else String.ofList trimmed ++ "_VIOLATION"

end Governance.Violation
