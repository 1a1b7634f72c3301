import Governance.Time.Calendar

/-!
# The calendar counts without gaps

Every day has a date of the calendar, and counting up to that date leads back to the day. Four
centuries are taken apart into centuries, groups of four years, years and days, each year from March
on, so that what is longer than its fellows always comes last.

* `exists_eraDay`: every day of four centuries is taken apart.
* `toDays_ofDays`: the date of a day counts back to the day.
* `isValid_ofDays`: the date is one of the calendar.
* `Date.year_lt_iff`: years are told apart by the days they start with.
-/

namespace Governance.Time

/-! ### Days of four centuries -/

/-- The day `dayOfEra` of four centuries, by its century, its group of four years, its year and the
day of that year. Only the last year of a group has a day 365, and the last group of a century only
in the last century. -/
structure EraDay (dayOfEra century group year day : Int) : Prop where
  century_bounds : 0 ≤ century ∧ century ≤ 3
  group_bounds : 0 ≤ group ∧ group ≤ 24
  year_bounds : 0 ≤ year ∧ year ≤ 3
  day_nonneg : 0 ≤ day
  day_le : day ≤ 364 ∨ day = 365 ∧ year = 3 ∧ (group ≤ 23 ∨ century = 3)
  sum : dayOfEra = 36524 * century + 1461 * group + 365 * year + day

/-- **Every day of four centuries can be taken apart**, as `EraDay` says. -/
theorem exists_eraDay {dayOfEra : Int} (hnonneg : 0 ≤ dayOfEra) (hlt : dayOfEra < daysPerEra) :
    ∃ century group year day, EraDay dayOfEra century group year day := by
  have hera : dayOfEra < 146097 := hlt
  let century := min 3 (dayOfEra / 36524)
  let inCentury := dayOfEra - 36524 * century
  let group := inCentury / 1461
  let inGroup := inCentury - 1461 * group
  let year := min 3 (inGroup / 365)
  have hcentury : 0 ≤ inCentury ∧ (inCentury < 36524 ∨ inCentury = 36524 ∧ century = 3) := by omega
  have hgroup : 0 ≤ inGroup
      ∧ (inGroup < 1460 ∨ inGroup = 1460 ∧ (group ≤ 23 ∨ century = 3)) := by omega
  refine ⟨century, group, year, inGroup - 365 * year, ?_, ?_, ?_, ?_, ?_, ?_⟩ <;> omega

namespace EraDay

variable {dayOfEra century group year day : Int}

/-- Dividing by 365 finds the year, once the leap days passed are taken off. -/
theorem yearOfEra_eq (h : EraDay dayOfEra century group year day) :
    (dayOfEra - dayOfEra / 1460 + dayOfEra / 36524 - dayOfEra / 146096) / 365
      = 100 * century + 4 * group + year := by
  obtain ⟨hcentury, hgroup, hyear, hnonneg, hle, hsum⟩ := h
  have hcenturies : dayOfEra / 36524 - dayOfEra / 146096 = century := by
    by_cases hlast : dayOfEra = 146096
    · omega
    · have hnone : dayOfEra / 146096 = 0 := by omega
      have hpassed : dayOfEra / 36524 = century := by omega
      omega
  -- The quotient by 1460 runs ahead of the groups passed towards the end of a group.
  have hgroups :
      dayOfEra / 1460 = 25 * century + group ∧ 24 * century + group + 365 * year + day < 1460
      ∨ dayOfEra / 1460 = 25 * century + group + 1
        ∧ 1460 ≤ 24 * century + group + 365 * year + day := by
    omega
  rcases hgroups with ⟨hpassed, hrest⟩ | ⟨hpassed, hrest⟩ <;> omega

/-- What is left over, once the years are taken off, is the `day`. -/
theorem dayOfYear_eq (h : EraDay dayOfEra century group year day) :
    dayOfEra - (365 * (100 * century + 4 * group + year)
      + (100 * century + 4 * group + year) / 4 - (100 * century + 4 * group + year) / 100)
      = day := by
  obtain ⟨hcentury, hgroup, hyear, -, -, hsum⟩ := h
  have hfours : (100 * century + 4 * group + year) / 4 = 25 * century + group := by omega
  have hhundreds : (100 * century + 4 * group + year) / 100 = century := by omega
  omega

end EraDay

/-! ### Years from March on -/

/-- The date of the `day` of a `year` that starts in March. -/
def Date.ofMarch (year day : Int) : Date :=
  let monthFromMarch := (5 * day + 2) / 153
  let month := if monthFromMarch < 10 then monthFromMarch + 3 else monthFromMarch - 9
  ⟨if month ≤ 2 then year + 1 else year, month.toNat,
    (day - (153 * monthFromMarch + 2) / 5 + 1).toNat⟩

theorem Date.ofDays_eq {days era century group year day : Int}
    (hera : era = (days + daysToEpoch) / daysPerEra)
    (h : EraDay (days + daysToEpoch - era * daysPerEra) century group year day) :
    Date.ofDays days = .ofMarch (100 * century + 4 * group + year + era * 400) day := by
  have hyear := h.yearOfEra_eq
  have hday := h.dayOfYear_eq
  simp (disch := decide) only [ofDays, Int.fdiv_eq_ediv_of_nonneg, ← hera, hyear, hday]
  rfl

/-- Days from 1970 to a day that `ofMarch` gives. -/
theorem Date.toDays_ofMarch {dayOfEra century group year day : Int} (era : Int)
    (h : EraDay dayOfEra century group year day) :
    (ofMarch (100 * century + 4 * group + year + era * 400) day).toDays
      = era * daysPerEra + dayOfEra - daysToEpoch := by
  have hleft := h.dayOfYear_eq
  obtain ⟨hcentury, hgroup, hyear, hnonneg, hle, -⟩ := h
  generalize hshort : 100 * century + 4 * group + year = yearOfEra at hleft ⊢
  have hbounds : 0 ≤ yearOfEra ∧ yearOfEra < 400 := by omega
  have hera : (yearOfEra + era * 400) / 400 = era := by omega
  have hmonths : 0 ≤ (5 * day + 2) / 153 ∧ (5 * day + 2) / 153 ≤ 11 := by omega
  have hdays : (153 * ((5 * day + 2) / 153) + 2) / 5 ≤ day := by omega
  generalize hmonth : (5 * day + 2) / 153 = month at hmonths hdays
  simp (disch := decide) only [toDays, ofMarch, hmonth, Int.fdiv_eq_ediv_of_nonneg]
  generalize hbefore : (153 * month + 2) / 5 = before at hdays ⊢
  by_cases hlate : month < 10
  · have hcount : ¬ (month + 3).toNat ≤ 2 := by omega
    have hcount' : ¬ month + 3 ≤ 2 := by omega
    have hback : ((month + 3).toNat : Int) - 3 = month := by omega
    simp only [hlate, if_true, hcount, hcount', if_false, hback, hera, hbefore]
    omega
  · have hcount : (month - 9).toNat ≤ 2 := by omega
    have hcount' : month - 9 ≤ 2 := by omega
    have hback : ((month - 9).toNat : Int) + 9 = month := by omega
    have hyears : yearOfEra + era * 400 + 1 - 1 = yearOfEra + era * 400 := by omega
    simp only [hlate, if_false, hcount, hcount', if_true, hback, hyears, hera, hbefore]
    omega

/-- Every day, counted in `days`, is taken apart into eras and the parts of one. -/
theorem exists_era (days : Int) : ∃ era century group year day : Int,
    era = (days + daysToEpoch) / daysPerEra
      ∧ EraDay (days + daysToEpoch - era * daysPerEra) century group year day := by
  have hpositive : (0 : Int) < daysPerEra := by decide
  have hnonneg := Int.emod_nonneg (days + daysToEpoch) (Int.ne_of_gt hpositive)
  have hlt := Int.emod_lt_of_pos (days + daysToEpoch) hpositive
  rw [Int.emod_def, Int.mul_comm] at hnonneg hlt
  obtain ⟨century, group, year, day, h⟩ := exists_eraDay hnonneg hlt
  exact ⟨_, century, group, year, day, rfl, h⟩

/-- **The date of a day counts back to the day**: `toDays` inverts `ofDays`. -/
theorem Date.toDays_ofDays (days : Int) : (Date.ofDays days).toDays = days := by
  obtain ⟨era, century, group, year, day, hera, h⟩ := exists_era days
  rw [ofDays_eq hera h, toDays_ofMarch era h]
  omega

/-! ### Valid dates -/

/-- A year from March on has a day 365 only if it ends in a leap year, by `isLeapYear`. -/
theorem isLeapYear_of_lastDay {dayOfEra century group year : Int} (era : Int)
    (h : EraDay dayOfEra century group year 365) :
    isLeapYear (100 * century + 4 * group + year + era * 400 + 1) = true := by
  obtain ⟨hcentury, hgroup, hyear, -, hle, -⟩ := h
  obtain ⟨rfl, hlast⟩ : year = 3 ∧ (group ≤ 23 ∨ century = 3) := by omega
  simp only [isLeapYear, Bool.and_eq_true, Bool.or_eq_true, beq_iff_eq, bne_iff_ne]
  omega

section Months

variable {dayOfEra century group year day : Int} (era : Int)
  (h : EraDay dayOfEra century group year day)
include h

/-- The months from March to January have their lengths, by `daysInMonth`, in every year. -/
theorem Date.bounds_ofMarch_of_le (hmonths : (5 * day + 2) / 153 ≤ 10) :
    let d := ofMarch (100 * century + 4 * group + year + era * 400) day
    (1 ≤ d.month ∧ d.month ≤ 12) ∧ 1 ≤ d.day ∧ d.day ≤ daysInMonth d.year d.month := by
  intro d
  have hnonneg := h.day_nonneg
  have hcases : (5 * day + 2) / 153 = 0 ∨ (5 * day + 2) / 153 = 1 ∨ (5 * day + 2) / 153 = 2
      ∨ (5 * day + 2) / 153 = 3 ∨ (5 * day + 2) / 153 = 4 ∨ (5 * day + 2) / 153 = 5
      ∨ (5 * day + 2) / 153 = 6 ∨ (5 * day + 2) / 153 = 7 ∨ (5 * day + 2) / 153 = 8
      ∨ (5 * day + 2) / 153 = 9 ∨ (5 * day + 2) / 153 = 10 := by omega
  rcases hcases with h | h | h | h | h | h | h | h | h | h | h <;>
    simp only [d, ofMarch, h] <;> simp [daysInMonth] <;> omega

/-- February closes the year, with its leap day if there is one. -/
theorem Date.bounds_ofMarch_february (hfebruary : (5 * day + 2) / 153 = 11) :
    let d := ofMarch (100 * century + 4 * group + year + era * 400) day
    (1 ≤ d.month ∧ d.month ≤ 12) ∧ 1 ≤ d.day ∧ d.day ≤ daysInMonth d.year d.month := by
  have hle : day ≤ 365 := by
    have := h.day_le
    omega
  have hleap (hlast : day = 365) := isLeapYear_of_lastDay era (hlast ▸ h)
  generalize 100 * century + 4 * group + year + era * 400 = marchYear at hleap ⊢
  have hdate : ofMarch marchYear day = ⟨marchYear + 1, 2, (day - 336).toNat⟩ := by
    have hfirst : day - (153 * 11 + 2) / 5 + 1 = day - 336 := by omega
    simp only [ofMarch, hfebruary, hfirst]
    rfl
  have hlength :
      daysInMonth (marchYear + 1) 2 = if isLeapYear (marchYear + 1) then 29 else 28 := rfl
  rw [hdate]
  refine ⟨show 1 ≤ 2 ∧ 2 ≤ 12 by decide, ?_, ?_⟩
  · show 1 ≤ (day - 336).toNat
    omega
  · show (day - 336).toNat ≤ daysInMonth _ 2
    rw [hlength]
    by_cases hlast : day = 365
    · rw [if_pos (hleap hlast)]
      omega
    · split <;> omega

end Months

theorem daysInMonth_le (year : Int) (month : Nat) : daysInMonth year month ≤ 31 := by
  unfold daysInMonth
  split
  · cases isLeapYear year <;> decide
  all_goals decide

theorem Date.isValid_iff {d : Date} :
    d.isValid = true ↔ ((leastYear ≤ d.year ∧ d.year ≤ greatestYear) ∧ 1 ≤ d.month ∧ d.month ≤ 12)
      ∧ 1 ≤ d.day ∧ d.day ≤ daysInMonth d.year d.month := by
  rw [isValid, Bool.and_eq_true, Bool.and_eq_true, decide_eq_true_iff, decide_eq_true_iff,
    decide_eq_true_iff]

theorem Date.isValid_ofDays {days : Int} (hleast : leastYear ≤ (Date.ofDays days).year)
    (hgreatest : (Date.ofDays days).year ≤ greatestYear) : (Date.ofDays days).isValid = true := by
  obtain ⟨era, century, group, year, day, hera, h⟩ := exists_era days
  have hmonths : (5 * day + 2) / 153 ≤ 10 ∨ (5 * day + 2) / 153 = 11 := by
    have := h.day_le
    omega
  have hbounds := hmonths.elim (bounds_ofMarch_of_le era h) (bounds_ofMarch_february era h)
  rw [← ofDays_eq hera h] at hbounds
  exact isValid_iff.2 ⟨⟨⟨hleast, hgreatest⟩, hbounds.1⟩, hbounds.2⟩

/-! ### Years in days -/

/-- Days of the years before `marchYear`, which starts in March, counted from the year 0. -/
def daysBefore (marchYear : Int) : Int :=
  marchYear * 365 + marchYear / 4 - marchYear / 100 + marchYear / 400

/-- Days are counted by `toDays` by years from March on, without regard to the era they stand in. -/
theorem Date.toDays_eq (d : Date) :
    d.toDays = (if d.month ≤ 2 then daysBefore (d.year - 1) + (153 * (d.month + 9) + 2) / 5
      else daysBefore d.year + (153 * ((d.month : Int) - 3) + 2) / 5) + d.day - 719469 := by
  simp only [toDays, daysBefore, daysPerEra, daysToEpoch,
    Int.fdiv_eq_ediv_of_nonneg _ (show (0 : Int) ≤ 400 by decide),
    Int.fdiv_eq_ediv_of_nonneg _ (show (0 : Int) ≤ 100 by decide),
    Int.fdiv_eq_ediv_of_nonneg _ (show (0 : Int) ≤ 4 by decide),
    Int.fdiv_eq_ediv_of_nonneg _ (show (0 : Int) ≤ 5 by decide)]
  split <;> omega

/-- The day that `year` starts with. -/
def firstDay (year : Int) : Int := Date.toDays ⟨year, 1, 1⟩

theorem firstDay_eq (year : Int) : firstDay year = daysBefore (year - 1) - 719162 := by
  have hmonth : (153 * (((1 : Nat) : Int) + 9) + 2) / 5 = 306 := by decide
  rw [firstDay, Date.toDays_eq, if_pos (show 1 ≤ 2 by decide), hmonth]
  show daysBefore (year - 1) + 306 + 1 - 719469 = daysBefore (year - 1) - 719162
  omega

theorem firstDay_mono {y z : Int} (h : y ≤ z) : firstDay y ≤ firstDay z := by
  rw [firstDay_eq, firstDay_eq, daysBefore, daysBefore]
  omega

section Years

variable {d : Date} (h : d.isValid = true)
include h

theorem Date.bounds_of_isValid : (1 ≤ d.month ∧ d.month ≤ 12) ∧ 1 ≤ d.day ∧ d.day ≤ 31 := by
  obtain ⟨⟨-, hmonth⟩, hday, hday'⟩ := isValid_iff.1 h
  exact ⟨hmonth, hday, Nat.le_trans hday' (daysInMonth_le _ _)⟩

/-- No date of a year comes before its `firstDay`, the first of January. -/
theorem Date.firstDay_le :
    firstDay d.year ≤ d.toDays ∧ (d.toDays = firstDay d.year → d.month = 1 ∧ d.day = 1) := by
  obtain ⟨hmonth, hday⟩ := bounds_of_isValid h
  rw [firstDay_eq, toDays_eq]
  simp only [daysBefore]
  split <;> omega

/-- No date of a year comes after the last of December, and the `firstDay` of the next year
follows. -/
theorem Date.lt_firstDay : d.toDays < firstDay (d.year + 1)
    ∧ (d.toDays + 1 = firstDay (d.year + 1) → d.month = 12 ∧ d.day = 31) := by
  obtain ⟨hmonth, hday⟩ := bounds_of_isValid h
  rw [firstDay_eq, toDays_eq]
  simp only [daysBefore]
  split <;> omega

/-- **Years are told apart by the days they start with**, by `firstDay`. -/
theorem Date.year_lt_iff (year : Int) : d.year < year ↔ d.toDays < firstDay year := by
  have hfirst := (firstDay_le h).1
  have hlast := (lt_firstDay h).1
  constructor
  · intro hyear
    have hmono := firstDay_mono (Int.add_one_le_of_lt hyear)
    omega
  · intro hdays
    refine Int.not_le.1 fun hyear => ?_
    have hmono := firstDay_mono hyear
    omega

end Years

end Governance.Time
