import Governance.Json.Basic
import Governance.Number.Numeral

/-!
# Reading a document from its text

A reader for document text: blanks between parts, no trailing commas, escapes in texts. An integer
of at most 64 bits stays an integer; every other number, and a zero with a minus sign, is taken to
the nearest double-precision number. The reader calls itself once for each level and item, so the
length of the text bounds its calls.
-/

namespace Governance.Json

open Number

/-- `cs` behind the blanks between the parts of a document. -/
def skipBlank (cs : List Char) : List Char :=
  cs.dropWhile fun c => c = ' ' ∨ c = '\n' ∨ c = '\t' ∨ c = '\r'

/-- The value of a digit `c` in base sixteen. -/
def hexValue? (c : Char) : Option Nat :=
  if '0' ≤ c ∧ c ≤ '9' then some (c.toNat - '0'.toNat)
  else if 'a' ≤ c ∧ c ≤ 'f' then some (c.toNat - 'a'.toNat + 10)
  else if 'A' ≤ c ∧ c ≤ 'F' then some (c.toNat - 'A'.toNat + 10)
  else none

/-- The number of four digits in base sixteen, and what follows them. -/
def readHex4 : List Char → Option (Nat × List Char)
  | a :: b :: c :: d :: rest => do
    let ds ← [a, b, c, d].mapM hexValue?
    some (valueOfDigits 16 ds, rest)
  | _ => none

/-- The character of an escape that starts with `u`, two escapes for characters past U+FFFF. -/
def readNumbered (cs : List Char) : Option (Char × List Char) := do
  let (n, rest) ← readHex4 cs
  if 0xD800 ≤ n ∧ n < 0xDC00 then
    match rest with
    | '\\' :: 'u' :: more =>
      let (m, rest) ← readHex4 more
      if 0xDC00 ≤ m ∧ m < 0xE000 then
        some (Char.ofNat (0x10000 + (n - 0xD800) * 0x400 + (m - 0xDC00)), rest)
      else none
    | _ => none
  else if 0xDC00 ≤ n ∧ n < 0xE000 then none
  else some (Char.ofNat n, rest)

/-- The rest of a text after its opening quote; `acc` holds what was read, last character first. -/
def readText : Nat → List Char → List Char → Option (String × List Char)
  | 0, _, _ => none
  | fuel + 1, acc, cs =>
    match cs with
    | [] => none
    | '"' :: rest => some (String.ofList acc.reverse, rest)
    | '\\' :: '"' :: rest => readText fuel ('"' :: acc) rest
    | '\\' :: '\\' :: rest => readText fuel ('\\' :: acc) rest
    | '\\' :: '/' :: rest => readText fuel ('/' :: acc) rest
    | '\\' :: 'b' :: rest => readText fuel ('\x08' :: acc) rest
    | '\\' :: 'f' :: rest => readText fuel ('\x0c' :: acc) rest
    | '\\' :: 'n' :: rest => readText fuel ('\n' :: acc) rest
    | '\\' :: 'r' :: rest => readText fuel ('\r' :: acc) rest
    | '\\' :: 't' :: rest => readText fuel ('\t' :: acc) rest
    | '\\' :: 'u' :: more => do
      let (c, rest) ← readNumbered more
      readText fuel (c :: acc) rest
    | c :: rest => if c = '\\' ∨ c.toNat < 0x20 then none else readText fuel (c :: acc) rest

/-- The characters that a number may consist of. -/
def isNumberChar (c : Char) : Bool :=
  isDigit c || c == '-' || c == '+' || c == '.' || c == 'e' || c == 'E'

/-- Whether a row of digits has no needless zero in front, as `readNumber` wants it. -/
def plainDigits : List Char → Bool
  | [] => false
  | ['0'] => true
  | c :: cs => c != '0' && isDigit c && cs.all isDigit

/-- Whether `n` has at most 64 bits, with or without sign. -/
def isWordSized (n : Int) : Bool := 
  decide (-0x8000000000000000 ≤ n ∧ n < 0x10000000000000000)

/-- A number from the characters `cs` that make it up: an `int` if it fits (`isWordSized`). -/
def readNumber (cs : List Char) : Option Json :=
  let negative := cs.head? == some '-'
  let body := if negative then cs.drop 1 else cs
  let whole := body.takeWhile isDigit
  let rest := body.dropWhile isDigit
  if plainDigits whole then
    let value : Int := valueOfChars whole
    let signed := if negative then -value else value
    match rest with
    | [] =>
      if isWordSized signed && !(negative && value == 0) then some (.int signed)
      else some (.float (Decimal.toBinary64 ⟨value.toNat, 0⟩ negative))
    | '.' :: c :: _ => if isDigit c then (readChars cs).map .float else none
    | '.' :: [] => none
    | _ => (readChars cs).map .float
  else none

/-- The `value` that stands where `cs` starts with `word`. -/
def readWord (word : List Char) (value : Json) (cs : List Char) : Option (Json × List Char) :=
  if word.isPrefixOf cs then some (value, cs.drop word.length) else none

mutual

/-- One value and the text behind it; `fuel` bounds the recursion. -/
def readValue : Nat → List Char → Option (Json × List Char)
  | 0, _ => none
  | fuel + 1, cs =>
    match skipBlank cs with
    | [] => none
    | '"' :: rest => (readText (rest.length + 1) [] rest).map fun (s, rest) => (.text s, rest)
    | '[' :: rest =>
      match skipBlank rest with
      | ']' :: rest => some (.array [], rest)
      | rest => (readItems fuel rest).map fun (xs, rest) => (.array xs, rest)
    | '\x7b' :: rest =>
      match skipBlank rest with
      | '\x7d' :: rest => some (.object [], rest)
      | rest => (readMembers fuel rest).map fun (ms, rest) => (ofMembers ms, rest)
    | c :: rest =>
      if c = 't' then readWord "true".toList (.bool true) (c :: rest)
      else if c = 'f' then readWord "false".toList (.bool false) (c :: rest)
      else if c = 'n' then readWord "null".toList .null (c :: rest)
      else (readNumber ((c :: rest).takeWhile isNumberChar)).map fun j =>
        (j, (c :: rest).dropWhile isNumberChar)

/-- Items of an `array` up to the closing bracket. -/
def readItems : Nat → List Char → Option (List Json × List Char)
  | 0, _ => none
  | fuel + 1, cs => do
    let (x, rest) ← readValue fuel cs
    match skipBlank rest with
    | ',' :: rest => (readItems fuel rest).map fun (xs, rest) => (x :: xs, rest)
    | ']' :: rest => some ([x], rest)
    | _ => none

/-- Members of an `object` up to the closing brace. -/
def readMembers : Nat → List Char → Option (List (String × Json) × List Char)
  | 0, _ => none
  | fuel + 1, cs => do
    match skipBlank cs with
    | '"' :: rest =>
      let (k, rest) ← readText (rest.length + 1) [] rest
      match skipBlank rest with
      | ':' :: rest =>
        let (x, rest) ← readValue fuel rest
        match skipBlank rest with
        | ',' :: rest => (readMembers fuel rest).map fun (ms, rest) => ((k, x) :: ms, rest)
        | '\x7d' :: rest => some ([(k, x)], rest)
        | _ => none
      | _ => none
    | _ => none

end

/-- Reads the whole text `s` as one document value. -/
def read? (s : String) : Option Json := do
  let cs := s.toList
  let (j, rest) ← readValue (cs.length + 1) cs
  if skipBlank rest = [] then some j else none

end Governance.Json
