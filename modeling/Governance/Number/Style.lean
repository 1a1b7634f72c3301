import Governance.Number.Shortest

/-!
# How a number is written

One writer for all texts of numbers, and a record per text: the plain text of messages, the text
of documents and the canonical text under digests. They differ in where powers of ten are written
out, in the sign of zero, in a trailing `.0`, and in the neighbour taken when two are equally near.
-/

namespace Governance.Number

/-- The choices that a text of numbers makes: the `tie`, and when a power of ten is written. -/
structure Style where
  tie : Tie
  /-- Least power of ten of a leading digit that is still written out; `none` writes all out. -/
  leastPlain : Option Int
  /-- Greatest power of ten of a leading digit that is still written out. -/
  greatestPlain : Option Int
  /-- Whether a whole number written out ends in `.0`. -/
  pointZero : Bool
  /-- Whether a negative zero shows its sign. -/
  signedZero : Bool

/-- Messages write every digit and never a power of ten. -/
def Style.plain : Style := ⟨.up, none, none, false, true⟩

/-- Documents write out from 10^-5 up to below 10^16 and mark whole numbers with `.0`. -/
def Style.document : Style := ⟨.toEven, some (-5), some 15, true, true⟩

/-- Canonical text writes out from 10^-6 up to below 10^21; zero has no sign. -/
def Style.canonical : Style := ⟨.toEven, some (-6), some 20, false, false⟩

/-- The decimal digits of `n`. -/
def digitChars (n : Nat) : List Char := Nat.toDigits 10 n

def intChars (n : Int) : List Char :=
  if n < 0 then '-' :: digitChars n.natAbs else digitChars n.natAbs

/-- The text of the integer `n`. -/
def intText (n : Int) : String := String.ofList (intChars n)

/-- The decimal `d` with all its digits written out; `pointZero` adds `.0` to a whole one. -/
def writtenOut (pointZero : Bool) (d : Decimal) : List Char :=
  let ds := digitChars d.digits
  match d.exponent with
  | .ofNat e =>
    ds ++ (if d.digits = 0 then [] else List.replicate e '0')
      ++ (if pointZero then ['.', '0'] else [])
  | .negSucc e =>
    let places := e + 1
    if places < ds.length then
      ds.take (ds.length - places) ++ '.' :: ds.drop (ds.length - places)
    else
      '0' :: '.' :: List.replicate (places - ds.length) '0' ++ ds

/-- The decimal `d` with one digit before the point and a `power` of ten. -/
def withPower (power : Int) (d : Decimal) : List Char :=
  let mantissa := match digitChars d.digits with
    | [] => []
    | [c] => [c]
    | c :: cs => c :: '.' :: cs
  let mark := if power < 0 then ['e', '-'] else ['e', '+']
  mantissa ++ mark ++ digitChars power.natAbs

/-- Whether a leading digit at that `power` of ten is written out. -/
def Style.writesOut (style : Style) (power : Int) : Bool :=
  (style.leastPlain.all fun least => decide (least ≤ power))
    && (style.greatestPlain.all fun greatest => decide (power ≤ greatest))

/-- The digits of a count of `units` in a `style`, without sign. -/
def Style.unsigned (style : Style) (units : Nat) : List Char :=
  if units = 0 then writtenOut style.pointZero ⟨0, 0⟩
  else
    let d := shortest style.tie units
    let power := (digitChars d.digits).length + d.exponent - 1
    if style.writesOut power then writtenOut style.pointZero d else withPower power d

/-- The text of a number in a `style`. -/
def Style.write (style : Style) : Binary64 → String
  | .finite negative units _ =>
    let sign := if negative && (style.signedZero || units != 0) then ['-'] else []
    String.ofList (sign ++ style.unsigned units)
  | .infinite negative => if negative then "-inf" else "inf"
  | .nan => "NaN"

/-- Whole numbers below `wholeTextBound` are written as integers. -/
def wholeTextBound : Nat := 1000000000000000

/-- The text of the number `x` in a policy: whole numbers below `wholeTextBound` as integers, all
others in the `Style.plain`. -/
def text (x : Binary64) : String :=
  if x.isWhole && decide (x.wholePart.natAbs < wholeTextBound) then intText x.wholePart
  else Style.plain.write x

end Governance.Number
