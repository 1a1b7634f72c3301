import Governance.Time.Timestamp
import Governance.Text.Blank
import Governance.Number.Numeral

/-!
# Reading timestamps

Two readers. The strict one takes the internet form only: nineteen fixed places, an optional
fraction, and an offset with a colon; its result is cut to whole seconds. The lenient one, which
documents use, takes numbers of any width, blanks between parts, a signed year and an offset
without colon, and keeps the fraction. Lengths are counted in bytes.
-/

namespace Governance.Timestamp

open Time Number

/-- Why a text is no `Timestamp`. -/
inductive Fault
  | invalid
  | outOfRange
  | tooShort
  | tooLong
  | impossible
deriving DecidableEq

def Fault.message : Fault → String
  | invalid => "input contains invalid characters"
  | outOfRange => "input is out of range"
  | tooShort => "premature end of input"
  | tooLong => "trailing input"
  | impossible => "no possible date and time matching input"

/-- Whether at least `n` bytes are left in `cs`. -/
def hasBytes (n : Nat) (cs : List Char) : Bool :=
  decide (n ≤ (String.ofList (cs.take n)).utf8ByteSize)

/-- Takes the character `c`. -/
def expectChar (c : Char) : List Char → Except Fault (List Char)
  | [] => .error .tooShort
  | d :: rest => if d = c then .ok rest else .error .invalid

/-- The number of at most `most` digits, at least one. -/
def digitsUpTo (most : Nat) (cs : List Char) : Except Fault (Nat × List Char) :=
  let ds := (cs.take most).takeWhile isDigit
  if cs.isEmpty then .error .tooShort
  else if ds.isEmpty then .error .invalid
  else .ok (valueOfChars ds, cs.drop ds.length)

/-- The nanoseconds of a fraction of a second: nine digits count (`digitsUpTo`), more are passed
over. -/
def readFraction (cs : List Char) : Except Fault (Nat × List Char) := do
  let (n, rest) ← digitsUpTo 9 cs
  let used := cs.length - rest.length
  .ok (n * Nat.pow 10 (9 - used), rest.dropWhile isDigit)

/-- The two digits that a text starts with. -/
def twoDigits : List Char → Option (Nat × Nat)
  | a :: b :: _ => do some (← digitValue? a, ← digitValue? b)
  | _ => none

/-- Whether the sign of an offset is a minus. -/
def offsetSign : List Char → Except Fault (Bool × List Char)
  | [] => .error .tooShort
  | '+' :: rest => .ok (false, rest)
  | '-' :: rest => .ok (true, rest)
  | '\u2212' :: rest => .ok (true, rest)
  | _ => .error .invalid

/-- An offset from universal time in seconds. `afterHours` reads what stands between hours and
minutes. -/
def readOffset (afterHours : List Char → Except Fault (List Char)) (cs : List Char) :
    Except Fault (Int × List Char) :=
  match cs with
  | 'Z' :: rest => .ok (0, rest)
  | 'z' :: rest => .ok (0, rest)
  | cs => do
    let (negative, cs) ← offsetSign cs
    if !hasBytes 2 cs then .error .tooShort
    else
      match twoDigits cs with
      | none => .error .invalid
      | some (h, h') => do
        let cs ← afterHours (cs.drop 2)
        if !hasBytes 2 cs then .error .tooShort
        else
          match twoDigits cs with
          | none => .error .invalid
          | some (m, m') =>
            if 6 ≤ m then .error .outOfRange
            else
              let seconds : Int := (10 * h + h') * 3600 + (10 * m + m') * 60
              .ok (if negative then -seconds else seconds, cs.drop 2)

/-- A `date` and a time of day with its `offset` in seconds, as written. -/
structure Parts where
  date : Date
  hour : Nat
  minute : Nat
  second : Nat
  nanos : Nat
  offset : Int

/-- The instant of the parts `p`; the sixtieth `second` is a leap second. -/
def Parts.instant (p : Parts) : Timestamp :=
  let second := if p.second = 60 then 59 else p.second
  let leap := if p.second = 60 then perSecond else 0
  ⟨p.date.toDays * perDay + p.hour * 3600 + p.minute * 60 + second - p.offset, p.nanos + leap⟩

/-- Whether the clock has the time of day of `p`. -/
def Parts.timeIsValid (p : Parts) : Bool :=
  decide (p.hour < 24 ∧ p.minute < 60 ∧ p.second ≤ 60)

/-- Whether the instant `t` falls into a year from `leastYear` to `greatestYear`. -/
def inRange (t : Timestamp) : Bool :=
  let year := (Date.ofDays (t.seconds.fdiv perDay)).year
  decide (leastYear ≤ year ∧ year ≤ greatestYear)

/-- The `instant` of `p`, if the calendar has the date, the clock the time, and the instant can be
told. -/
def Parts.settle (p : Parts) : Except Fault Timestamp :=
  if !p.date.isValid || !p.timeIsValid then .error .outOfRange
  else if 86400 ≤ p.offset.natAbs then .error .outOfRange
  else if inRange p.instant then .ok p.instant
  else .error .impossible

/-! ### The strict form -/

/-- The number of `count` digits and nothing else in their places. -/
def fixedDigits (count : Nat) (cs : List Char) : Except Fault (Nat × List Char) :=
  let ds := cs.take count
  if ds.length = count ∧ ds.all isDigit then .ok (valueOfChars ds, cs.drop count)
  else .error .invalid

/-- Takes one of the marks between date and time. -/
def dateTimeMark : List Char → Except Fault (List Char)
  | [] => .error .tooShort
  | c :: rest => if c = 'T' ∨ c = 't' ∨ c = ' ' then .ok rest else .error .invalid

def fraction (cs : List Char) : Except Fault (Nat × List Char) :=
  match cs with
  | '.' :: rest => readFraction rest
  | cs => .ok (0, cs)

/-- The greatest offset of the strict form, one minute less than a day. -/
def greatestOffset : Nat := (23 * 60 + 59) * 60

def readStrictChars (cs : List Char) : Except Fault Timestamp := do
  if !hasBytes 19 cs then .error .tooShort
  let (year, cs) ← fixedDigits 4 cs
  let cs ← expectChar '-' cs
  let (month, cs) ← fixedDigits 2 cs
  let cs ← expectChar '-' cs
  let (day, cs) ← fixedDigits 2 cs
  let date : Date := ⟨year, month, day⟩
  if !date.isValid then .error .outOfRange
  let cs ← dateTimeMark cs
  let (hour, cs) ← fixedDigits 2 cs
  let cs ← expectChar ':' cs
  let (minute, cs) ← fixedDigits 2 cs
  let cs ← expectChar ':' cs
  let (second, cs) ← fixedDigits 2 cs
  let (nanos, cs) ← fraction cs
  if !(Parts.timeIsValid ⟨date, hour, minute, second, nanos, 0⟩) then .error .outOfRange
  let (offset, cs) ← readOffset (expectChar ':') cs
  if greatestOffset < offset.natAbs then .error .outOfRange
  if !cs.isEmpty then .error .tooLong
  Parts.settle ⟨date, hour, minute, second, nanos, offset⟩

/-- The `text` that is no timestamp, and its `fault`. -/
structure Unreadable where
  text : String
  fault : Fault

def Unreadable.message (u : Unreadable) : String :=
  "invalid timestamp: " ++ Text.quote u.text ++ ": " ++ u.fault.message

/-- Reads the strict form of the text `s` (`readStrictChars`), cut to whole seconds (`truncate`). -/
def read (s : String) : Except Unreadable Timestamp :=
  match readStrictChars s.toList with
  | .ok t => .ok t.truncate
  | .error e => .error ⟨s, e⟩

/-! ### The lenient form -/

/-- The number of at most `most` digits after blanks. -/
def looseDigits (most : Nat) (cs : List Char) : Except Fault (Nat × List Char) :=
  digitsUpTo most (Text.trimStartChars cs)

/-- A number that a `step` reads and that has to lie in a range. -/
def ranged (least greatest : Nat) (step : Except Fault (Nat × List Char)) :
    Except Fault (Nat × List Char) := do
  let (n, rest) ← step
  if least ≤ n ∧ n ≤ greatest then .ok (n, rest) else .error .outOfRange

/-- Takes the character `c` after blanks. -/
def looseChar (c : Char) (cs : List Char) : Except Fault (List Char) :=
  expectChar c (Text.trimStartChars cs)

/-- A year: at most four digits, or a sign and digits. -/
def looseYear (cs : List Char) : Except Fault (Int × List Char) :=
  let bounded (negative : Bool) (cs : List Char) : Except Fault (Int × List Char) := do
    let (n, rest) ← digitsUpTo cs.length cs
    if n < 0x80000000 then .ok (if negative then -(n : Int) else n, rest) else .error .outOfRange
  match Text.trimStartChars cs with
  | '-' :: rest => bounded true rest
  | '+' :: rest => bounded false rest
  | cs => do
    let (n, rest) ← digitsUpTo 4 cs
    .ok (n, rest)

/-- The offset of the lenient form; `UTC`, in any case, stands for none. -/
def looseOffset (cs : List Char) : Except Fault (Int × List Char) :=
  let cs := Text.trimStartChars cs
  if (cs.take 3).map Char.toLower = ['u', 't', 'c'] then .ok (0, cs.drop 3)
  else readOffset (fun cs => .ok (cs.dropWhile fun c => c = ':' || Text.isBlank c)) cs

def readLenientChars (cs : List Char) : Except Fault Timestamp := do
  let (year, cs) ← looseYear cs
  let cs ← looseChar '-' cs
  let (month, cs) ← ranged 1 12 (looseDigits 2 cs)
  let cs ← looseChar '-' cs
  let (day, cs) ← ranged 1 31 (looseDigits 2 cs)
  let cs ← dateTimeMark cs
  let (hour, cs) ← ranged 0 23 (looseDigits 2 cs)
  let cs ← looseChar ':' cs
  let (minute, cs) ← ranged 0 59 (looseDigits 2 cs)
  let cs ← looseChar ':' cs
  let (second, cs) ← ranged 0 60 (looseDigits 2 cs)
  let (nanos, cs) ← fraction cs
  let (offset, cs) ← looseOffset cs
  if !(Text.trimStartChars cs).isEmpty then .error .tooLong
  Parts.settle ⟨⟨year, month, day⟩, hour, minute, second, nanos, offset⟩

/-- Reads a timestamp in a document (`readLenientChars`); its fraction stays. -/
def ofJson : Json → Decode.Reading Timestamp
  | .text s =>
    match readLenientChars s.toList with
    | .ok t => .ok t
    | .error e => .error (.rejected e.message)
  | j => .error (.wrongType j "an RFC 3339 formatted date and time string")

theorem nanos_of_read {s : String} {t : Timestamp} (h : read s = .ok t) : t.nanos = 0 := by
  unfold read at h
  split at h
  · simp only [Except.ok.injEq] at h
    subst h
    rfl
  · simp at h

end Governance.Timestamp
