import Mathlib.Data.Nat.Digits.Defs
import Governance.Proofs.Number.Texts
import Governance.Proofs.Time.Calendar
import Governance.Time.Reader

/-!
# Timestamps read back from their texts

Documents show a timestamp part by part, each number in its width, and the lenient reader takes part
after part off the text. What it puts together is the timestamp, fraction and leap second included,
for every instant whose year can be told.

* `digitsUpTo_padded`: a padded number is read as the number.
* `readLenientChars_written`: the parts that are written are the parts that are read.
* `ofJson_toJson`: a timestamp is read back from its document.
-/

namespace Governance.Timestamp

open Time Number

/-! ### Padded numbers -/

section Padded

variable {width n : Nat}

theorem isDigit_of_mem_padded {c : Char} (h : c ∈ padded width n) : isDigit c = true := by
  rcases List.mem_append.1 h with hzero | hdigit
  · exact isDigit_of_mem_zeros _ c hzero
  · exact isDigit_of_mem_digitChars hdigit

theorem valueOfChars_padded (width n : Nat) : valueOfChars (padded width n) = n := by
  rw [padded, valueOfChars_zeros_append, valueOfChars_digitChars]

theorem padded_ne_nil (width n : Nat) : padded width n ≠ [] := fun h =>
  digitChars_ne_nil n (List.append_eq_nil_iff.1 h).2

/-- A number `n` is as wide as it is padded to be, unless it has more digits. -/
theorem length_padded (hwidth : 0 < width) (hn : n < 10 ^ width) :
    (padded width n).length = width := by
  have hle : (digitChars n).length ≤ width := Nat.toDigits_length 10 n width hwidth hn
  rw [padded, List.length_append, List.length_replicate]
  exact Nat.sub_add_cancel hle

end Padded

/-! ### Taking numbers off a text -/

section Digits

variable {width most n : Nat} {ds rest : List Char}

/-- A `mark` stops a row of digits. -/
theorem not_isDigit_head?_mark (mark : Char) (h : isDigit mark = false) (rest : List Char) :
    ∀ c ∈ (mark :: rest).head?, isDigit c = false := by
  intro c hc
  obtain rfl := Option.some.inj hc
  exact h

/-- Digits are taken off by `digitsUpTo` up to what stops them. -/
theorem digitsUpTo_append (hne : ds ≠ []) (hdigits : ∀ c ∈ ds, isDigit c = true)
    (hmost : ds.length ≤ most) (hstop : ∀ c ∈ rest.head?, isDigit c = false) :
    digitsUpTo most (ds ++ rest) = .ok (valueOfChars ds, rest) := by
  have hstop' : ∀ c ∈ (rest.take (most - ds.length)).head?, isDigit c = false := by
    intro c hc
    rw [List.head?_take] at hc
    split at hc
    · exact absurd hc (by simp)
    · exact hstop c hc
  have hnonempty : (ds ++ rest).isEmpty = false := by simp [hne]
  have htaken : ((ds ++ rest).take most).takeWhile isDigit = ds := by
    rw [List.take_append, List.take_of_length_le hmost]
    exact (takeWhile_digits hdigits hstop').1
  have hsome : ds.isEmpty = false := by simp [hne]
  simp only [digitsUpTo, htaken, hnonempty, hsome, Bool.false_eq_true, if_false, List.drop_left]

/-- **A padded number is read as the number**: `digitsUpTo` inverts `padded`. -/
theorem digitsUpTo_padded (hmost : (padded width n).length ≤ most)
    (hstop : ∀ c ∈ rest.head?, isDigit c = false) :
    digitsUpTo most (padded width n ++ rest) = .ok (n, rest) := by
  rw [digitsUpTo_append (padded_ne_nil width n) (fun c hc => isDigit_of_mem_padded hc) hmost hstop,
    valueOfChars_padded]

/-- No blank stands before a number that `padded` writes. -/
theorem trimStartChars_padded (width n : Nat) (rest : List Char) :
    Text.trimStartChars (padded width n ++ rest) = padded width n ++ rest := by
  obtain ⟨c, ds, hds⟩ := List.exists_cons_of_ne_nil (padded_ne_nil width n)
  have hc : c ∈ padded width n := hds ▸ List.mem_cons_self
  rw [hds, List.cons_append, Text.trimStartChars,
    List.dropWhile_cons_of_neg (by simp [not_isBlank_of_isDigit (isDigit_of_mem_padded hc)])]

theorem looseDigits_padded (hwidth : 0 < width) (hn : n < 10 ^ width)
    (hstop : ∀ c ∈ rest.head?, isDigit c = false) :
    looseDigits width (padded width n ++ rest) = .ok (n, rest) := by
  rw [looseDigits, trimStartChars_padded,
    digitsUpTo_padded (Nat.le_of_eq (length_padded hwidth hn)) hstop]

/-- A part of a date or of a time of day is taken off by `ranged` up to what stops it. -/
theorem ranged_padded {least greatest : Nat} (hleast : least ≤ n) (hgreatest : n ≤ greatest)
    (hwide : greatest < 100) (hstop : ∀ c ∈ rest.head?, isDigit c = false) :
    ranged least greatest (looseDigits 2 (padded 2 n ++ rest)) = .ok (n, rest) := by
  rw [looseDigits_padded (by decide) (Nat.lt_of_le_of_lt hgreatest hwide) hstop]
  exact if_pos ⟨hleast, hgreatest⟩

end Digits

/-! ### Years -/

/-- A digit `c` is no sign. -/
theorem ne_sign_of_isDigit {c : Char} (h : isDigit c = true) : c ≠ '-' ∧ c ≠ '+' := by
  constructor <;> rintro rfl <;> exact absurd h (by decide)

theorem looseYear_yearChars {year : Int} (hleast : leastYear ≤ year)
    (hgreatest : year ≤ greatestYear) (rest : List Char) :
    looseYear (yearChars year ++ '-' :: rest) = .ok (year, '-' :: rest) := by
  have hstop := not_isDigit_head?_mark '-' (by decide) rest
  have hleast' : -262143 ≤ year := hleast
  have hgreatest' : year ≤ 262142 := hgreatest
  by_cases hplain : 0 ≤ year ∧ year ≤ 9999
  · have hread : digitsUpTo 4 (padded 4 year.natAbs ++ '-' :: rest)
        = .ok (year.natAbs, '-' :: rest) :=
      digitsUpTo_padded (Nat.le_of_eq (length_padded (by decide) (by omega))) hstop
    obtain ⟨c, ds, hds⟩ := List.exists_cons_of_ne_nil (padded_ne_nil 4 year.natAbs)
    obtain ⟨hminus, hplus⟩ := ne_sign_of_isDigit (isDigit_of_mem_padded (hds ▸ List.mem_cons_self))
    rw [yearChars, if_pos hplain, looseYear, trimStartChars_padded]
    rw [hds] at hread ⊢
    split
    · next h => exact absurd (List.cons.inj h).1 hminus
    · next h => exact absurd (List.cons.inj h).1 hplus
    · rw [hread]
      exact congrArg (fun n : Int => Except.ok (n, '-' :: rest)) (Int.natAbs_of_nonneg hplain.1)
  · have hread : digitsUpTo (padded 4 year.natAbs ++ '-' :: rest).length
          (padded 4 year.natAbs ++ '-' :: rest) = .ok (year.natAbs, '-' :: rest) :=
      digitsUpTo_padded (by simp) hstop
    have hsmall : year.natAbs < 0x80000000 := by omega
    have hminus : Text.isBlank '-' = false := by decide
    have hplus : Text.isBlank '+' = false := by decide
    rw [yearChars, if_neg hplain, List.cons_append]
    generalize padded 4 year.natAbs ++ '-' :: rest = cs at hread ⊢
    by_cases hnegative : year < 0
    · rw [if_pos hnegative]
      simp [looseYear, Text.trimStartChars, hminus, hread, hsmall, abs_of_neg hnegative, bind,
        Except.bind]
    · rw [if_neg hnegative]
      simp [looseYear, Text.trimStartChars, hplus, hread, hsmall,
        abs_of_nonneg (Int.not_lt.1 hnegative), bind, Except.bind]

/-! ### Fractions and offsets -/

theorem readFraction_padded {width n : Nat} (hwidth : 0 < width) (hle : width ≤ 9)
    (hn : n < 10 ^ width) :
    readFraction (padded width n ++ ['Z']) = .ok (n * 10 ^ (9 - width), ['Z']) := by
  have hlength := length_padded hwidth hn
  have hread : digitsUpTo 9 (padded width n ++ ['Z']) = .ok (n, ['Z']) :=
    digitsUpTo_padded (hlength.trans_le hle) (not_isDigit_head?_mark 'Z' (by decide) [])
  have hused : (padded width n ++ ['Z']).length - ['Z'].length = width := by
    rw [List.length_append, hlength, Nat.add_sub_cancel]
  have hrest : ['Z'].dropWhile isDigit = ['Z'] := by decide
  simp only [readFraction, hread, bind, Except.bind, hused, hrest]
  rfl

theorem fraction_fractionChars (t : Timestamp) :
    fraction (t.fractionChars ++ ['Z']) = .ok (t.nanos % perSecond, ['Z']) := by
  have hnanos : t.nanos % perSecond < 1000000000 := Nat.mod_lt _ (by decide)
  simp only [fractionChars]
  generalize t.nanos % perSecond = n at hnanos ⊢
  split
  · next hnone =>
    rw [hnone]
    rfl
  · split
    · next hthree =>
      have hwhole : n / 1000000 * 10 ^ (9 - 3) = n := by omega
      exact (readFraction_padded (by decide) (by decide) (by omega)).trans (by rw [hwhole])
    · split
      · next hsix =>
        have hwhole : n / 1000 * 10 ^ (9 - 6) = n := by omega
        exact (readFraction_padded (by decide) (by decide) (by omega)).trans (by rw [hwhole])
      · have hwhole : n * 10 ^ (9 - 9) = n := by omega
        exact (readFraction_padded (by decide) (by decide) (by omega)).trans (by rw [hwhole])

/-- Date and time of day of `p` as they are written, with `mark` between them and `rest` after
them. -/
def Parts.written (p : Parts) (mark : Char) (rest : List Char) : List Char :=
  yearChars p.date.year ++ '-' :: (padded 2 p.date.month ++ '-' :: (padded 2 p.date.day
    ++ mark :: (padded 2 p.hour ++ ':' :: (padded 2 p.minute ++ ':' :: (padded 2 p.second
      ++ rest)))))

/-- No `mark` between date and time is a digit. -/
theorem not_isDigit_of_mark {mark : Char} (h : mark = 'T' ∨ mark = 't' ∨ mark = ' ') :
    isDigit mark = false := by
  rcases h with rfl | rfl | rfl <;> decide

/-- **The parts that are written are the parts that are read**: `readLenientChars` settles the `p`
that was written. -/
theorem readLenientChars_written {p : Parts} {mark : Char} {tail zone : List Char}
    (hdate : p.date.isValid = true) (htime : p.timeIsValid = true)
    (hmark : mark = 'T' ∨ mark = 't' ∨ mark = ' ')
    (hfraction : fraction tail = .ok (p.nanos, zone))
    (hstop : ∀ c ∈ tail.head?, isDigit c = false)
    (hoffset : looseOffset zone = .ok (p.offset, [])) :
    readLenientChars (p.written mark tail) = p.settle := by
  obtain ⟨⟨⟨hleast, hgreatest⟩, hmonth, hmonth'⟩, hday, hday'⟩ := Date.isValid_iff.1 hdate
  obtain ⟨hhour, hminute, hsecond⟩ := of_decide_eq_true htime
  have hdash (rest : List Char) : looseChar '-' ('-' :: rest) = .ok rest := rfl
  have hcolon (rest : List Char) : looseChar ':' (':' :: rest) = .ok rest := rfl
  have hbetween (rest : List Char) : dateTimeMark (mark :: rest) = .ok rest := if_pos hmark
  simp only [readLenientChars, Parts.written, bind, Except.bind,
    looseYear_yearChars hleast hgreatest, hdash, hcolon, hbetween, hoffset, hfraction,
    ranged_padded hmonth hmonth' (by decide) (not_isDigit_head?_mark '-' (by decide) _),
    ranged_padded hday (Nat.le_trans hday' (daysInMonth_le _ _)) (by decide)
      (not_isDigit_head?_mark mark (not_isDigit_of_mark hmark) _),
    ranged_padded (Nat.zero_le p.hour) (Nat.le_of_lt_succ hhour) (by decide)
      (not_isDigit_head?_mark ':' (by decide) _),
    ranged_padded (Nat.zero_le p.minute) (Nat.le_of_lt_succ hminute) (by decide)
      (not_isDigit_head?_mark ':' (by decide) _),
    ranged_padded (Nat.zero_le p.second) hsecond (by decide) hstop]
  rfl

/-! ### Instants -/

/-- An instant that a clock can show: its year can be told, and its fraction is less than a second,
or less than two in the last second of a minute, which a leap second may follow. -/
structure Tellable (t : Timestamp) : Prop where
  inRange : inRange t = true
  fraction : t.nanos < perSecond ∨ t.nanos < 2 * perSecond ∧ t.seconds % 60 = 59

/-- Date and time of day of `t` as they are shown. -/
def parts (t : Timestamp) : Parts :=
  let inDay := (t.seconds % perDay).toNat
  { date := Date.ofDays (t.seconds / perDay)
    hour := inDay / 3600
    minute := inDay / 60 % 60
    second := inDay % 60 + t.nanos / perSecond
    nanos := t.nanos % perSecond
    offset := 0 }

/-- What `clockChars` shows is written part by part. -/
theorem clockChars_append (t : Timestamp) (rest : List Char) :
    t.clockChars ++ rest = t.parts.written 'T' rest := by
  have hday : t.seconds.fdiv perDay = t.seconds / perDay := Int.fdiv_eq_ediv_of_nonneg _ (by decide)
  have hinDay : t.seconds - t.seconds / perDay * perDay = t.seconds % perDay := by
    rw [Int.emod_def, Int.mul_comm]
  simp only [clockChars, hday, hinDay, Parts.written, List.append_assoc, List.cons_append]
  rfl

/-- No digit follows the seconds in `fractionChars` and the `Z` behind them. -/
theorem not_isDigit_head?_fractionChars (t : Timestamp) :
    ∀ c ∈ (t.fractionChars ++ ['Z']).head?, isDigit c = false := by
  have hshape : t.fractionChars = [] ∨ ∃ cs, t.fractionChars = '.' :: cs := by
    simp only [fractionChars]
    split
    · exact .inl rfl
    · split
      · exact .inr ⟨_, rfl⟩
      · split <;> exact .inr ⟨_, rfl⟩
  intro c hc
  rcases hshape with h | ⟨cs, h⟩ <;> rw [h] at hc <;> obtain rfl := Option.some.inj hc <;> decide

theorem parts_hour_le (t : Timestamp) : t.parts.hour ≤ 23 := by
  show (t.seconds % 86400).toNat / 3600 ≤ 23
  omega

theorem parts_minute_le (t : Timestamp) : t.parts.minute ≤ 59 := by
  show (t.seconds % 86400).toNat / 60 % 60 ≤ 59
  omega

namespace Tellable

variable {t : Timestamp}

/-- In `t.parts` either no second is inserted, or the one after the last of a minute is. -/
theorem second_cases (h : t.Tellable) :
    t.parts.second = (t.seconds % 86400).toNat % 60 ∧ t.nanos < perSecond
      ∨ t.parts.second = 60 ∧ (t.seconds % 86400).toNat % 60 = 59
        ∧ t.nanos % perSecond + perSecond = t.nanos := by
  have hsecond : t.parts.second = (t.seconds % 86400).toNat % 60 + t.nanos / perSecond := rfl
  have hpositive : 0 < perSecond := by decide
  by_cases hplain : t.nanos < perSecond
  · exact .inl ⟨by rw [hsecond, Nat.div_eq_of_lt hplain, Nat.add_zero], hplain⟩
  · obtain ⟨htwo, hlast⟩ := h.fraction.resolve_left hplain
    have hone : t.nanos / perSecond = 1 :=
      Nat.div_eq_of_lt_le (by omega) (by omega)
    have hsplit := Nat.div_add_mod t.nanos perSecond
    rw [hone, Nat.mul_one, Nat.add_comm] at hsplit
    exact .inr ⟨by omega, by omega, hsplit⟩

theorem second_le (h : t.Tellable) : t.parts.second ≤ 60 := by
  rcases h.second_cases with ⟨hsecond, -⟩ | ⟨hsecond, -⟩ <;> omega

theorem instant_parts (h : t.Tellable) : t.parts.instant = t := by
  have hdate : t.parts.date.toDays = t.seconds / 86400 := Date.toDays_ofDays _
  have hhour : t.parts.hour = (t.seconds % 86400).toNat / 3600 := rfl
  have hminute : t.parts.minute = (t.seconds % 86400).toNat / 60 % 60 := rfl
  have hnanos : t.parts.nanos = t.nanos % perSecond := rfl
  have hoffset : t.parts.offset = 0 := rfl
  have hday : perDay = 86400 := rfl
  rw [Parts.instant]
  rcases h.second_cases with ⟨hsecond, hplain⟩ | ⟨hsecond, hlast, hleap⟩
  · have hne : t.parts.second ≠ 60 := by omega
    rw [if_neg hne, if_neg hne, hnanos, Nat.mod_eq_of_lt hplain, hdate, hoffset, hday]
    exact congrArg (Timestamp.mk · t.nanos) (by omega)
  · rw [if_pos hsecond, if_pos hsecond, hnanos, hleap, hdate, hoffset, hday]
    exact congrArg (Timestamp.mk · t.nanos) (by omega)

theorem isValid_parts (h : t.Tellable) : t.parts.date.isValid = true := by
  have hyear := of_decide_eq_true h.inRange
  have hday : t.seconds.fdiv perDay = t.seconds / perDay := Int.fdiv_eq_ediv_of_nonneg _ (by decide)
  rw [hday] at hyear
  exact Date.isValid_ofDays hyear.1 hyear.2

theorem timeIsValid_parts (h : t.Tellable) : t.parts.timeIsValid = true := by
  have hhour := t.parts_hour_le
  have hminute := t.parts_minute_le
  exact decide_eq_true ⟨by omega, by omega, h.second_le⟩

/-- What is shown is settled to the instant `t`. -/
theorem settle_parts (h : t.Tellable) : t.parts.settle = .ok t := by
  have hoffset : ¬ 86400 ≤ t.parts.offset.natAbs := by
    show ¬ 86400 ≤ (0 : Int).natAbs
    decide
  rw [Parts.settle, h.isValid_parts, h.timeIsValid_parts, if_neg (by decide), if_neg hoffset,
    h.instant_parts, if_pos h.inRange]

end Tellable

/-- **A timestamp is read back from its document**: `ofJson` inverts `toJson` on what is
`Tellable`. -/
theorem ofJson_toJson {t : Timestamp} (h : t.Tellable) : ofJson t.toJson = .ok t := by
  have hzone : looseOffset ['Z'] = .ok (0, []) := by decide
  have hread := (readLenientChars_written h.isValid_parts h.timeIsValid_parts (.inl rfl)
    (fraction_fractionChars t) t.not_isDigit_head?_fractionChars hzone).trans h.settle_parts
  rw [← clockChars_append, ← List.append_assoc] at hread
  simp only [toJson, ofJson, String.toList_ofList, hread]

end Governance.Timestamp
