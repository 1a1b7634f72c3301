import Governance.Time.Calendar
import Governance.Json.Decode

/-!
# Timestamps

Instants of universal time, in seconds from the start of 1970 and a fraction in nanoseconds. Inside
a leap second the fraction counts on past one second. A timestamp is shown in whole seconds; the
written form in documents keeps the fraction in three, six or nine digits.
-/

namespace Governance

open Time Number

/-- An instant of universal time, `seconds` and `nanos` after the start of 1970. -/
structure Timestamp where
  seconds : Int
  nanos : Nat
deriving DecidableEq

namespace Timestamp

/-- Nanoseconds in a second. -/
def perSecond : Nat := 1000000000

/-- The instant `t` without its fraction; a leap second falls back to the second before it. -/
def truncate (t : Timestamp) : Timestamp := ⟨t.seconds, 0⟩

theorem truncate_truncate (t : Timestamp) : t.truncate.truncate = t.truncate := rfl

/-- Earlier or later: by `seconds`, then by `nanos`. -/
def order (s t : Timestamp) : Ordering :=
  (compare s.seconds t.seconds).then (compare s.nanos t.nanos)

/-- The digits of `n`, zeros in front up to the `width`. -/
def padded (width n : Nat) : List Char :=
  let ds := digitChars n
  List.replicate (width - ds.length) '0' ++ ds

/-- The `year` in four digits; years outside 0 to 9999 show their sign. -/
def yearChars (year : Int) : List Char :=
  if 0 ≤ year ∧ year ≤ 9999 then padded 4 year.natAbs
  else (if year < 0 then '-' else '+') :: padded 4 year.natAbs

/-- Seconds in a day. -/
def perDay : Int := 86400

/-- Date and time of day of `t` up to the seconds. -/
def clockChars (t : Timestamp) : List Char :=
  let days := t.seconds.fdiv perDay
  let inDay := (t.seconds - days * perDay).toNat
  let date := Date.ofDays days
  let second := inDay % 60 + t.nanos / perSecond
  yearChars date.year ++ '-' :: padded 2 date.month ++ '-' :: padded 2 date.day
    ++ 'T' :: padded 2 (inDay / 3600) ++ ':' :: padded 2 (inDay / 60 % 60) ++ ':' :: padded 2 second

/-- The instant `t` in whole seconds. -/
def text (t : Timestamp) : String := String.ofList (t.clockChars ++ ['Z'])

/-- The fraction of `t` in as few groups of three digits as hold its `nanos`. -/
def fractionChars (t : Timestamp) : List Char :=
  let n := t.nanos % perSecond
  if n = 0 then []
  else if n % 1000000 = 0 then '.' :: padded 3 (n / 1000000)
  else if n % 1000 = 0 then '.' :: padded 6 (n / 1000)
  else '.' :: padded 9 n

def toJson (t : Timestamp) : Json :=
  .text (String.ofList (t.clockChars ++ t.fractionChars ++ ['Z']))

end Timestamp

end Governance
