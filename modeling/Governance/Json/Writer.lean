import Governance.Json.Basic
import Governance.Number.Style
import Governance.Text.Quoted

/-!
# Written documents

The compact and the indented text of a document value. A text is written between double quotes;
quotes, backslashes and controls are escaped and nothing else is. An empty array or object takes
no line of its own.
-/

namespace Governance.Json

open Number

/-- The character `c` inside a written text, escaped where it has to be. -/
def escapeChar (c : Char) : List Char :=
  if c = '"' then ['\\', '"']
  else if c = '\\' then ['\\', '\\']
  else if c = '\n' then ['\\', 'n']
  else if c = '\r' then ['\\', 'r']
  else if c = '\t' then ['\\', 't']
  else if c.toNat = 8 then ['\\', 'b']
  else if c.toNat = 12 then ['\\', 'f']
  else if c.toNat < 0x20 then ['\\', 'u'] ++ Text.paddedHex 4 c.toNat
  else [c]

/-- The text `s` as documents write it, in quotes. -/
def quotedChars (s : String) : List Char := '"' :: s.toList.flatMap escapeChar ++ ['"']

/-- The number `x` in a `style`; what is not finite is written as `null`. -/
def floatChars (style : Style) (x : Binary64) : List Char :=
  if x.isFinite then (style.write x).toList else "null".toList

/-- The pieces with the `separator` between neighbours. -/
def separated (separator : List Char) : List (List Char) → List Char
  | [] => []
  | [piece] => piece
  | piece :: rest => piece ++ separator ++ separated separator rest

mutual

/-- The text of a value without blanks. -/
def compactChars : Json → List Char
  | .null => "null".toList
  | .bool b => (if b then "true" else "false").toList
  | .int n => intChars n
  | .float x => floatChars .document x
  | .text s => quotedChars s
  | .array xs => '[' :: separated [','] (compactItems xs) ++ [']']
  | .object ms => '\x7b' :: separated [','] (compactMembers ms) ++ ['\x7d']

def compactItems : List Json → List (List Char)
  | [] => []
  | x :: xs => compactChars x :: compactItems xs

def compactMembers : List (String × Json) → List (List Char)
  | [] => []
  | (k, x) :: ms => (quotedChars k ++ ':' :: compactChars x) :: compactMembers ms

end

/-- The text of the value `j` on one line. -/
def compact (j : Json) : String := String.ofList (compactChars j)

/-- A new line and two blanks for each `level`. -/
def newLine (level : Nat) : List Char := '\n' :: List.replicate (2 * level) ' '

/-- The `pieces` in brackets, each on a line of its own one `level` deeper. -/
def bracketed (level : Nat) (opening closing : Char) (pieces : List (List Char)) : List Char :=
  if pieces.isEmpty then [opening, closing]
  else
    opening :: newLine (level + 1) ++ separated (',' :: newLine (level + 1)) pieces
      ++ newLine level ++ [closing]

mutual

/-- The text of a value at a `level` of indentation, two blanks for each. -/
def indentedChars (level : Nat) : Json → List Char
  | .array xs => bracketed level '[' ']' (indentedItems (level + 1) xs)
  | .object ms => bracketed level '\x7b' '\x7d' (indentedMembers (level + 1) ms)
  | .null => "null".toList
  | .bool b => (if b then "true" else "false").toList
  | .int n => intChars n
  | .float x => floatChars .document x
  | .text s => quotedChars s

def indentedItems (level : Nat) : List Json → List (List Char)
  | [] => []
  | x :: xs => indentedChars level x :: indentedItems level xs

def indentedMembers (level : Nat) : List (String × Json) → List (List Char)
  | [] => []
  | (k, x) :: ms =>
    (quotedChars k ++ ':' :: ' ' :: indentedChars level x) :: indentedMembers level ms

end

/-- The indented text of the value `j`. -/
def indented (j : Json) : String := String.ofList (indentedChars 0 j)

end Governance.Json
