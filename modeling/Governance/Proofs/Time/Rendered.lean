import Governance.Proofs.Time.StrictForm

/-!
# Timestamps read back from what they are shown as

A timestamp is shown in whole seconds of universal time, and its offset is gone. The strict reader
takes years of four digits only, so a date that the offset carries out of them is shown in a form
that is not read again. This happens on the first and on the last of the days that can be written,
and nowhere else; the lenient reader takes these years too.

* `read_shown_of_year`, `read_shown_of_not_year`: which texts the strict reader takes back.
* `edge_of_settle`: the days on which an offset leads out of the years of four digits.
* `read_shown`: what becomes of a timestamp that was read and is shown.
-/

namespace Governance.Timestamp

open Time Number

/-! ### What is shown -/

/-- The year of universal time that the instant `t` falls into. -/
def year (t : Timestamp) : Int := t.parts.date.year

/-- The year of `t` is shown in four digits. -/
def HasPlainYear (t : Timestamp) : Prop := 0 ≤ t.year ∧ t.year ≤ 9999

theorem toList_text (t : Timestamp) : t.text.toList = t.parts.written 'T' ['Z'] := by
  rw [text, String.toList_ofList, clockChars_append]

theorem readOffset_zulu : readOffset (expectChar ':') ['Z'] = .ok (0, []) := by decide

section Whole

variable {t : Timestamp}

/-- What is shown of whole seconds has the `StrictForm`, if the year has four digits. -/
theorem strictForm_text (h : t.Tellable) (hwhole : t.nanos = 0) (hyear : t.HasPlainYear) :
    StrictForm t.text.toList t.parts := by
  have hnanos : t.parts.nanos = 0 := by
    show t.nanos % perSecond = 0
    rw [hwhole]
    rfl
  rw [toList_text]
  exact .mk t.parts hyear h.isValid_parts h.timeIsValid_parts (.inl rfl) (hnanos ▸ rfl)
    readOffset_zulu (Nat.zero_le _)

/-- **A year of four digits is read back**: `read` inverts `text`. -/
theorem read_shown_of_year (h : t.Tellable) (hwhole : t.nanos = 0) (hyear : t.HasPlainYear) :
    read t.text = .ok t := by
  have hsame : t.truncate = t := by
    rw [truncate, ← hwhole]
  exact read_eq_ok_iff.2 ⟨_, strictForm_text h hwhole hyear, _, h.settle_parts, hsame⟩

theorem exists_sign_of_yearChars {year : Int} (h : ¬(0 ≤ year ∧ year ≤ 9999)) :
    ∃ sign cs, isDigit sign = false ∧ yearChars year = sign :: cs := by
  refine ⟨_, _, ?_, if_neg h⟩
  split <;> decide

/-- **Any other year is shown with a sign, which the strict reader refuses** as `invalid`. -/
theorem read_shown_of_not_year (hyear : ¬t.HasPlainYear) :
    read t.text = .error ⟨t.text, .invalid⟩ := by
  have hbytes := hasBytes_of_length (le_length_written t.parts 'T' ['Z'])
  obtain ⟨sign, cs, hsign, hshown⟩ := exists_sign_of_yearChars hyear
  have hwritten : ∃ rest, t.parts.written 'T' ['Z'] = sign :: rest :=
    ⟨_, congrArg (· ++ _) hshown⟩
  obtain ⟨rest, hwritten⟩ := hwritten
  have hdigits : fixedDigits 4 (sign :: rest) = .error .invalid := by
    simp [fixedDigits, hsign]
  have hfault : readStrictChars t.text.toList = .error .invalid := by
    rw [toList_text]
    rw [hwritten] at hbytes ⊢
    simp only [readStrictChars, hbytes, hdigits]
    rfl
  rw [read, hfault]

end Whole

/-! ### Where an offset leads out of the years of four digits -/

/-- Parts `p` that are settled are of the calendar and of the clock, less than a day off, and of an
instant that can be told. -/
theorem of_settle_eq_ok {p : Parts} {t : Timestamp} (h : p.settle = .ok t) :
    (p.date.isValid = true ∧ p.timeIsValid = true) ∧ p.offset.natAbs < 86400 ∧ inRange t = true
      ∧ p.instant = t := by
  unfold Parts.settle at h
  split at h
  · exact absurd h (by simp)
  · next hparts =>
    split at h
    · exact absurd h (by simp)
    · next hoffset =>
      split at h
      · next hrange =>
        obtain rfl := Except.ok.inj h
        exact ⟨by simpa using hparts, Nat.not_le.1 hoffset, hrange, rfl⟩
      · exact absurd h (by simp)

theorem seconds_instant (p : Parts) : p.instant.seconds = p.date.toDays * 86400 + p.hour * 3600
    + p.minute * 60 + ((if p.second = 60 then 59 else p.second : Nat) : Int) - p.offset := rfl

theorem nanos_instant (p : Parts) :
    p.instant.nanos = p.nanos + if p.second = 60 then perSecond else 0 := rfl

/-- What `read` gives can be shown: it is `Tellable`. -/
theorem tellable_of_read {s : String} {t : Timestamp} (h : read s = .ok t) : t.Tellable := by
  obtain ⟨p, -, u, hsettle, rfl⟩ := read_eq_ok_iff.1 h
  exact ⟨(of_settle_eq_ok hsettle).2.2.1, .inl (show 0 < perSecond by decide)⟩

/-- **Only the first and the last of the days that can be written lead out of their years**, when
`p` is settled to `t`. -/
theorem edge_of_settle {p : Parts} {t : Timestamp} (hwritten : 0 ≤ p.date.year ∧ p.date.year ≤ 9999)
    (hsettle : p.settle = .ok t) (hyear : ¬t.HasPlainYear) :
    t.year = -1 ∧ p.date = ⟨0, 1, 1⟩ ∨ t.year = 10000 ∧ p.date = ⟨9999, 12, 31⟩ := by
  obtain ⟨⟨hdate, htime⟩, hoffset, hrange, rfl⟩ := of_settle_eq_ok hsettle
  have htold : p.instant.truncate.Tellable := ⟨hrange, .inl (show 0 < perSecond by decide)⟩
  have hday : p.instant.truncate.parts.date.toDays = p.instant.seconds / 86400 :=
    Date.toDays_ofDays _
  have hnear : p.date.toDays - 1 ≤ p.instant.seconds / 86400
      ∧ p.instant.seconds / 86400 ≤ p.date.toDays + 1 := by
    obtain ⟨hhour, hminute, hsecond⟩ := of_decide_eq_true htime
    rw [seconds_instant]
    split <;> omega
  have hyears (year : Int) : p.instant.year < year ↔ p.instant.seconds / 86400 < firstDay year :=
    hday ▸ Date.year_lt_iff htold.isValid_parts year
  have hfirst := Date.firstDay_le hdate
  have hlast := Date.lt_firstDay hdate
  have hstart := firstDay_mono hwritten.1
  have hend := firstDay_mono (show p.date.year + 1 ≤ 10000 by omega)
  have hdates := Date.year_lt_iff hdate
  -- The days around which the two ends lie.
  have hdays : firstDay (-1) = -719893 ∧ firstDay 0 = -719528 ∧ firstDay 1 = -719162
      ∧ firstDay 9999 = 2932532 ∧ firstDay 10000 = 2932897 ∧ firstDay 10001 = 2933263 := by
    decide
  have heta : p.date = ⟨p.date.year, p.date.month, p.date.day⟩ := rfl
  by_cases hnegative : p.instant.year < 0
  · left
    have hbefore := (hyears 0).1 hnegative
    have hleast := mt (hyears (-1)).1 (by omega)
    have hone := (hdates 1).2 (by omega)
    have hdateYear : p.date.year = 0 := by omega
    rw [hdateYear] at hfirst
    obtain ⟨hmonth, hfirstDay⟩ := hfirst.2 (by omega)
    rw [heta, hdateYear, hmonth, hfirstDay]
    exact ⟨by omega, rfl⟩
  · right
    have hlate : 9999 < p.instant.year :=
      Int.not_le.1 fun hle => hyear ⟨Int.not_lt.1 hnegative, hle⟩
    have hafter := mt (hyears 10000).2 (by omega)
    have hgreatest := (hyears 10001).2 (by omega)
    have hlastYear := mt (hdates 9999).1 (by omega)
    have hdateYear : p.date.year = 9999 := by omega
    rw [hdateYear, show (9999 : Int) + 1 = 10000 from rfl] at hlast
    obtain ⟨hmonth, hlastDay⟩ := hlast.2 (by omega)
    rw [heta, hdateYear, hmonth, hlastDay]
    exact ⟨by omega, rfl⟩

/-! ### Shown and read again -/

/-- Whole seconds are written by `toJson` as they are shown. -/
theorem toJson_of_whole {t : Timestamp} (h : t.nanos = 0) : t.toJson = .text t.text := by
  have hnone : t.fractionChars = [] := by
    simp [fractionChars, h]
  rw [toJson, hnone, List.append_nil, text]

/-- **A timestamp that was read is read back from what it is shown as exactly when its year has four
digits.** Let `read` have taken `s` to `t`. Then it takes `t.text` back to `t` if and only if
`t.HasPlainYear`. Otherwise the sign of the year is refused, and `s` starts with the first or with
the last day of these years. The lenient reader, `ofJson`, takes every such timestamp back. -/
theorem read_shown {s : String} {t : Timestamp} (h : read s = .ok t) :
    (read t.text = .ok t ↔ t.HasPlainYear)
      ∧ (¬t.HasPlainYear → read t.text = .error ⟨t.text, .invalid⟩
        ∧ (t.year = -1 ∧ s.toList.take 10 = "0000-01-01".toList
          ∨ t.year = 10000 ∧ s.toList.take 10 = "9999-12-31".toList))
      ∧ ofJson (.text t.text) = .ok t := by
  have htold := tellable_of_read h
  have hwhole := nanos_of_read h
  refine ⟨⟨fun hread => ?_, read_shown_of_year htold hwhole⟩,
    fun hyear => ⟨read_shown_of_not_year hyear, ?_⟩, ?_⟩
  · refine Classical.byContradiction fun hyear => ?_
    exact absurd ((read_shown_of_not_year hyear).symm.trans hread) (by simp)
  · obtain ⟨p, hform, u, hsettle, rfl⟩ := read_eq_ok_iff.1 h
    generalize s.toList = cs at hform ⊢
    obtain ⟨_, hwritten⟩ := hform
    rcases edge_of_settle hwritten hsettle hyear with ⟨hu, hdate⟩ | ⟨hu, hdate⟩
    · exact .inl ⟨hu, by rw [Parts.written, hdate]; rfl⟩
    · exact .inr ⟨hu, by rw [Parts.written, hdate]; rfl⟩
  · rw [← toJson_of_whole hwhole]
    exact ofJson_toJson htold

/-- A leap second with an offset and a fraction, cut to the second before it, is read back. -/
theorem read_shown_leapSecond :
    let t : Timestamp := ⟨1483228799, 0⟩
    read "2017-01-01T05:29:60.25+05:30" = .ok t ∧ t.text = "2016-12-31T23:59:59Z"
      ∧ read "2016-12-31T23:59:59Z" = .ok t := by
  intro t
  have hchars : readStrictChars "2017-01-01T05:29:60.25+05:30".toList
      = .ok ⟨1483228799, 1250000000⟩ := by decide
  have hread : read "2017-01-01T05:29:60.25+05:30" = .ok t := read_of_readStrictChars hchars
  have hyear : t.HasPlainYear := by
    unfold HasPlainYear
    decide
  have htext : t.text = "2016-12-31T23:59:59Z" := by decide
  exact ⟨hread, htext, htext ▸ (read_shown hread).1.2 hyear⟩

/-- The first hour of the year 0, an hour ahead of universal time, is read but not read back. -/
theorem read_shown_yearZero :
    let t : Timestamp := ⟨-62167222800, 0⟩
    read "0000-01-01T00:00:00+01:00" = .ok t ∧ t.text = "-0001-12-31T23:00:00Z"
      ∧ read "-0001-12-31T23:00:00Z" = .error ⟨"-0001-12-31T23:00:00Z", .invalid⟩ := by
  intro t
  have hchars : readStrictChars "0000-01-01T00:00:00+01:00".toList = .ok t := by decide
  have hyear : ¬t.HasPlainYear := by
    unfold HasPlainYear
    decide
  have htext : t.text = "-0001-12-31T23:00:00Z" := by decide
  exact ⟨read_of_readStrictChars hchars, htext, htext ▸ read_shown_of_not_year hyear⟩

end Governance.Timestamp
