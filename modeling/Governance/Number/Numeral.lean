import Governance.Number.Decimal

/-!
# Reading a number from text

A numeral is an optional sign and either a word for an infinity or for no number, or digits with
an optional point and an optional power of ten; one digit at least stands before or after the
point. No blanks, no group marks, no other base.
-/

namespace Governance.Number

/-- The value of the decimal digit `c`. -/
def digitValue? (c : Char) : Option Nat :=
  if '0' ≤ c ∧ c ≤ '9' then some (c.toNat - '0'.toNat) else none

def isDigit (c : Char) : Bool := (digitValue? c).isSome

/-- The number that a row of `digits` writes in a `base`. -/
def valueOfDigits (base : Nat) (digits : List Nat) : Nat :=
  digits.foldl (fun n d => n * base + d) 0

/-- The number that the decimal digits of `cs` write; other characters are passed over. -/
def valueOfChars (cs : List Char) : Nat := valueOfDigits 10 (cs.filterMap digitValue?)

/-- The number that `cs` writes, if it consists of decimal digits. -/
def natOfChars? (cs : List Char) : Option Nat :=
  if cs ≠ [] ∧ cs.all isDigit then some (valueOfChars cs) else none

/-- Whether a minus stands in front, and what follows the sign. -/
def splitSign : List Char → Bool × List Char
  | '-' :: cs => (true, cs)
  | '+' :: cs => (false, cs)
  | cs => (false, cs)

/-- The power of ten behind the digits: none, or a mark, an optional sign and digits. -/
def readPower : List Char → Option Int
  | [] => some 0
  | c :: cs =>
    if c = 'e' ∨ c = 'E' then
      let (negative, digits) := splitSign cs
      (natOfChars? digits).map fun n => if negative then -(n : Int) else n
    else none

/-- The `Decimal` of digits with an optional point and an optional power of ten (`readPower`). -/
def readDecimal (cs : List Char) : Option Decimal :=
  let whole := cs.takeWhile isDigit
  let afterWhole := cs.dropWhile isDigit
  let (fraction, rest) := match afterWhole with
    | '.' :: more => (more.takeWhile isDigit, more.dropWhile isDigit)
    | _ => ([], afterWhole)
  if whole = [] ∧ fraction = [] then none
  else (readPower rest).map fun power => ⟨valueOfChars (whole ++ fraction), power - fraction.length⟩

/-- Reads the numeral `cs`. -/
def readChars (cs : List Char) : Option Binary64 :=
  let (negative, rest) := splitSign cs
  let word := rest.map Char.toLower
  if word = "inf".toList ∨ word = "infinity".toList then some (.infinite negative)
  else if word = "nan".toList then some .nan
  else (readDecimal rest).map (·.toBinary64 negative)

def read? (s : String) : Option Binary64 := readChars s.toList

end Governance.Number
