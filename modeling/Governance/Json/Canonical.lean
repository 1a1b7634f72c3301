import Governance.Json.Writer

/-!
# Canonical documents

The one text under which equal documents have equal digests: no blanks, members in ascending order
of their written names, numbers in the canonical style.
-/

namespace Governance.Json

open Number

/-- Puts the written member `m` in its place by the text of its name. -/
def insertWritten (m : List Char × List Char) :
    List (List Char × List Char) → List (List Char × List Char)
  | [] => [m]
  | n :: rest =>
    if String.ofList m.1 < String.ofList n.1 then m :: n :: rest else n :: insertWritten m rest

mutual

/-- The canonical text of a value: no blanks, and the members of an `object` ascending. -/
def canonicalChars : Json → List Char
  | .null => "null".toList
  | .bool b => (if b then "true" else "false").toList
  | .int n => intChars n
  | .float x => floatChars .canonical x
  | .text s => quotedChars s
  | .array xs => '[' :: separated [','] (canonicalItems xs) ++ [']']
  | .object ms =>
    '\x7b' :: separated [','] ((canonicalMembers ms).map fun m => m.1 ++ ':' :: m.2) ++ ['\x7d']

def canonicalItems : List Json → List (List Char)
  | [] => []
  | x :: xs => canonicalChars x :: canonicalItems xs

/-- Written names with canonical values, ascending by written name (`insertWritten`). -/
def canonicalMembers : List (String × Json) → List (List Char × List Char)
  | [] => []
  | (k, x) :: ms => insertWritten (quotedChars k, canonicalChars x) (canonicalMembers ms)

end

/-- The canonical text of the value `j`. -/
def canonical (j : Json) : String := String.ofList (canonicalChars j)

end Governance.Json
