/-!
# The calendar

Days counted from the first of January 1970, and dates of the Gregorian calendar carried on in
both directions. A year starts in March inside the computation, so that the leap day comes last.
-/

namespace Governance.Time

/-- A date of the Gregorian calendar. -/
structure Date where
  year : Int
  month : Nat
  day : Nat
deriving DecidableEq, Repr

def isLeapYear (year : Int) : Bool :=
  year % 4 == 0 && (year % 100 != 0 || year % 400 == 0)

/-- How many days the `month` of a `year` has. -/
def daysInMonth (year : Int) (month : Nat) : Nat :=
  match month with
  | 2 => if isLeapYear year then 29 else 28
  | 4 | 6 | 9 | 11 => 30
  | _ => 31

/-- The years from `leastYear` to `greatestYear` are those in which instants can be told. -/
def leastYear : Int := -262143

def greatestYear : Int := 262142

/-- Whether the calendar has the date `d`. -/
def Date.isValid (d : Date) : Bool :=
  decide (leastYear ≤ d.year ∧ d.year ≤ greatestYear) && decide (1 ≤ d.month ∧ d.month ≤ 12)
    && decide (1 ≤ d.day ∧ d.day ≤ daysInMonth d.year d.month)

/-- The days in four centuries, an era. -/
def daysPerEra : Int := 146097

/-- Days from the first of March in the year 0 to the first of January 1970. -/
def daysToEpoch : Int := 719468

/-- The days from 1970 to the date `d`. -/
def Date.toDays (d : Date) : Int :=
  let year := if d.month ≤ 2 then d.year - 1 else d.year
  let era := year.fdiv 400
  let yearOfEra := year - era * 400
  let monthFromMarch : Int := if d.month ≤ 2 then d.month + 9 else d.month - 3
  let dayOfYear := (153 * monthFromMarch + 2).fdiv 5 + d.day - 1
  let dayOfEra := yearOfEra * 365 + yearOfEra.fdiv 4 - yearOfEra.fdiv 100 + dayOfYear
  era * daysPerEra + dayOfEra - daysToEpoch

/-- The date of the day `days` after the first of January 1970. -/
def Date.ofDays (days : Int) : Date :=
  let shifted := days + daysToEpoch
  let era := shifted.fdiv daysPerEra
  let dayOfEra := shifted - era * daysPerEra
  let yearOfEra :=
    (dayOfEra - dayOfEra.fdiv 1460 + dayOfEra.fdiv 36524 - dayOfEra.fdiv 146096).fdiv 365
  let dayOfYear := dayOfEra - (365 * yearOfEra + yearOfEra.fdiv 4 - yearOfEra.fdiv 100)
  let monthFromMarch := (5 * dayOfYear + 2).fdiv 153
  let day := dayOfYear - (153 * monthFromMarch + 2).fdiv 5 + 1
  let month := if monthFromMarch < 10 then monthFromMarch + 3 else monthFromMarch - 9
  let year := yearOfEra + era * 400
  ⟨if month ≤ 2 then year + 1 else year, month.toNat, day.toNat⟩

end Governance.Time
