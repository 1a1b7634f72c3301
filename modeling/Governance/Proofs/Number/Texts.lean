import Governance.Proofs.Number.ReadBack
import Governance.Proofs.Number.Rounding
import Governance.Text.Blank

/-!
# Reading the texts of numbers

A text that writes a decimal is read as the number nearest to it, with its sign. So every finite
number is read back from its texts, up to the sign of zero, and a row of digits is read as the
number nearest to the natural number that it denotes, if that is finite.

* `readChars_signed`: a decimal behind an optional minus sign.
* `Style.read?_write`, `read?_text`: a finite number is read back from its text.
* `readChars_digits`: what a row of digits is read as.
-/

namespace Governance.Number

variable {cs : List Char} {r : Decimal} {x : Binary64}

/-! ### Characters of numerals -/

theorem toNat_bounds_of_isDigit {c : Char} (h : isDigit c = true) :
    48 ≤ c.toNat ∧ c.toNat ≤ 57 := by
  unfold isDigit digitValue? at h
  split at h
  · next hbounds => exact hbounds
  · exact absurd h Bool.false_ne_true

theorem not_isBlank_of_isDigit {c : Char} (h : isDigit c = true) : Text.isBlank c = false := by
  obtain ⟨hle, hge⟩ := toNat_bounds_of_isDigit h
  have hpast : ¬ c.toNat ≤ 0x20 := by omega
  have hbefore : c.toNat < 0x85 := by omega
  have hcontrols : ¬ c.toNat ≤ 0xd := by omega
  simp [Text.isBlank, Text.blanks, Text.Ranges.has, hpast, hbefore, hcontrols]

theorem not_isBlank_of_isNumeral {c : Char} (h : IsNumeral c) : Text.isBlank c = false := by
  have hmarks : ['.', 'e', '+', '-'].any Text.isBlank = false := by decide
  refine h.elim not_isBlank_of_isDigit fun hmark => ?_
  exact Bool.eq_false_iff.2 (List.any_eq_false.1 hmarks c hmark)

theorem toLower_of_isNumeral {c : Char} (h : IsNumeral c) : c.toLower = c := by
  have hmarks : ['.', 'e', '+', '-'].all (fun c => c.toLower == c) = true := by decide
  refine h.elim (fun hdigit => ?_) fun hmark => beq_iff_eq.1 (List.all_eq_true.1 hmarks c hmark)
  have hle := (toNat_bounds_of_isDigit hdigit).2
  refine dif_neg ?_
  rintro ⟨hge, -⟩
  have hcapital : 65 ≤ c.toNat := hge
  omega

theorem map_toLower_of_isNumeral (h : ∀ c ∈ cs, IsNumeral c) : cs.map Char.toLower = cs :=
  (List.map_congr_left fun c hc => toLower_of_isNumeral (h c hc)).trans (List.map_id cs)

/-- Nothing stands around a text of numeral characters that `trim` could take off. -/
theorem trim_of_isNumeral {s : String} (h : ∀ c ∈ s.toList, IsNumeral c) : Text.trim s = s := by
  have hkept {cs : List Char} (hcs : ∀ c ∈ cs, IsNumeral c) : cs.dropWhile Text.isBlank = cs := by
    cases cs with
    | nil => rfl
    | cons c cs =>
      have hblank := not_isBlank_of_isNumeral (hcs c List.mem_cons_self)
      exact List.dropWhile_cons_of_neg (by simp [hblank])
  have hreverse : ∀ c ∈ s.toList.reverse, IsNumeral c := fun c hc => h c (List.mem_reverse.1 hc)
  rw [Text.trim, Text.trimChars, Text.trimStartChars, hkept h, Text.trimEndChars, hkept hreverse,
    List.reverse_reverse, String.ofList_toList]

/-! ### Decimals with a sign -/

theorem splitSign_of_readDecimal (h : readDecimal cs = some r) : splitSign cs = (false, cs) := by
  have hplus : isDigit '+' = false := by decide
  unfold splitSign
  split
  · rw [readDecimal_minus] at h
    exact absurd h (by simp)
  · exact absurd h (by simp [readDecimal, hplus])
  · rfl

/-- **A decimal behind an optional minus sign is read as the number nearest to it**, by
`readChars`. -/
theorem readChars_signed (negative : Bool) (hall : ∀ c ∈ cs, IsNumeral c)
    (hread : readDecimal cs = some r) :
    readChars (if negative then '-' :: cs else cs) = some (.ofUnits negative r.units) := by
  have hsplit : splitSign (if negative then '-' :: cs else cs) = (negative, cs) := by
    cases negative with
    | true => rfl
    | false => exact splitSign_of_readDecimal hread
  -- none of the words is written in characters of numerals
  have hword (word : String) (hodd : ∃ c ∈ word.toList, ¬IsNumeral c) : cs ≠ word.toList := by
    rintro rfl
    obtain ⟨c, hc, hnot⟩ := hodd
    exact hnot (hall c hc)
  have hinf := hword "inf" ⟨'i', by decide, by decide⟩
  have hinfinity := hword "infinity" ⟨'i', by decide, by decide⟩
  have hnan := hword "nan" ⟨'n', by decide, by decide⟩
  unfold readChars
  simp only [hsplit, map_toLower_of_isNumeral hall, hinf, hinfinity, hnan, or_self, if_false, hread,
    Option.map_some, Decimal.toBinary64_eq]

/-! ### Texts of finite numbers -/

namespace Binary64

/-- The sign of zero has no part in the order, and `place?` does not show it. -/
theorem place?_eq_of_sign {negative negative' : Bool} {units : Nat} (fits : Representable units)
    (h : units ≠ 0 → negative = negative') :
    (finite negative units fits).place? = (finite negative' units fits).place? := by
  by_cases hzero : units = 0
  · subst hzero
    cases negative <;> cases negative' <;> rfl
  · rw [h hzero]

theorem place?_integer {n : Int} (fits : Representable (n.natAbs * unitsPerOne)) :
    (finite (decide (n < 0)) (n.natAbs * unitsPerOne) fits).place? = some (n * unitsPerOne) := by
  rw [place?, Int.natCast_mul]
  by_cases hneg : n < 0
  · rw [decide_eq_true hneg, if_pos rfl, Int.ofNat_natAbs_of_nonpos (Int.le_of_lt hneg),
      Int.neg_mul, Int.neg_neg]
  · rw [decide_eq_false hneg, if_neg Bool.false_ne_true, Int.natAbs_of_nonneg (Int.not_lt.1 hneg)]

/-- A whole number `x` lies where its `wholePart` does. -/
theorem place?_of_isWhole (hwhole : x.isWhole = true) :
    Representable (x.wholePart.natAbs * unitsPerOne)
      ∧ x.place? = some (x.wholePart * unitsPerOne) := by
  cases x with
  | finite negative units fits =>
    have hmod : units % unitsPerOne = 0 := beq_iff_eq.1 hwhole
    have hunits : units / unitsPerOne * unitsPerOne = units :=
      Nat.div_mul_cancel (Nat.dvd_of_mod_eq_zero hmod)
    have hparts : wholePart (finite negative units fits)
        = if negative then -((units / unitsPerOne : Nat) : Int) else (units / unitsPerOne : Nat) :=
      rfl
    have habs : (wholePart (finite negative units fits)).natAbs = units / unitsPerOne := by
      rw [hparts]
      split
      · rw [Int.natAbs_neg, Int.natAbs_natCast]
      · rw [Int.natAbs_natCast]
    rw [habs, hunits, place?, hparts]
    refine ⟨fits, congrArg some ?_⟩
    split
    · rw [Int.neg_mul, ← Int.natCast_mul, hunits]
    · rw [← Int.natCast_mul, hunits]
  | infinite negative => exact absurd hwhole Bool.false_ne_true
  | nan => exact absurd hwhole Bool.false_ne_true

end Binary64

/-- A finite number `x` is read back from its text in any `style`, up to the sign of zero. -/
theorem Style.read?_write (style : Style) (hx : x.isFinite = true) :
    ∃ y, read? (style.write x) = some y ∧ y.isFinite = true ∧ y.place? = x.place? := by
  obtain ⟨negative, units, fits, rfl⟩ := Binary64.exists_finite hx
  obtain ⟨r, hread, hunits⟩ := readDecimal_unsigned style fits
  have hsigned := readChars_signed (style.showsMinus negative units)
    (isNumeral_of_mem_unsigned style units) hread
  rw [hunits, Binary64.ofUnits_of_representable fits] at hsigned
  refine ⟨.finite (style.showsMinus negative units) units fits, ?_, rfl, ?_⟩
  · rw [read?, toList_write]
    exact hsigned
  · exact Binary64.place?_eq_of_sign fits (showsMinus_of_ne_zero style negative)

theorem isNumeral_of_mem_intChars {n : Int} {c : Char} (h : c ∈ intChars n) : IsNumeral c := by
  unfold intChars at h
  split at h
  · rcases List.mem_cons.1 h with rfl | hdigit
    · exact .inr (by decide)
    · exact isNumeral_of_mem_digitChars hdigit
  · exact isNumeral_of_mem_digitChars h

/-- An integer `n` that is a number is read back from its text, but for the sign of zero. -/
theorem read?_intText {n : Int} (fits : Representable (n.natAbs * unitsPerOne)) :
    read? (intText n) = some (.finite (decide (n < 0)) (n.natAbs * unitsPerOne) fits) := by
  have hread : readDecimal (digitChars n.natAbs) = some ⟨n.natAbs, 0⟩ := by
    have h := readDecimal_digits (digitChars_ne_nil n.natAbs)
      fun c hc => isDigit_of_mem_digitChars hc
    rwa [valueOfChars_digitChars] at h
  have hsigned := readChars_signed (decide (n < 0)) (fun c hc => isNumeral_of_mem_digitChars hc)
    hread
  have hunits : Decimal.units ⟨n.natAbs, 0⟩ = n.natAbs * unitsPerOne := by
    rw [Decimal.units_natural, ← nearestWhole_mul_unitsPerOne,
      nearestWhole_of_fitsBits (representable_iff.1 fits).2]
  rw [hunits, Binary64.ofUnits_of_representable fits] at hsigned
  rw [read?, intText, String.toList_ofList, intChars, ← hsigned]
  simp only [decide_eq_true_eq]

/-- **A finite number is read back from its text**, up to the sign of zero: `read?` inverts
`text`. -/
theorem read?_text (hx : x.isFinite = true) :
    ∃ y, read? (text x) = some y ∧ y.isFinite = true ∧ y.place? = x.place? := by
  unfold text
  split
  · next h =>
    obtain ⟨fits, hplace⟩ := Binary64.place?_of_isWhole (Bool.and_eq_true_iff.1 h).1
    exact ⟨_, read?_intText fits, rfl, (Binary64.place?_integer fits).trans hplace.symm⟩
  · exact Style.plain.read?_write hx

theorem isNumeral_of_mem_text (hx : x.isFinite = true) : ∀ c ∈ (text x).toList, IsNumeral c := by
  unfold text
  split
  · rw [intText, String.toList_ofList]
    exact fun c => isNumeral_of_mem_intChars
  · exact Style.isNumeral_of_mem_write hx

/-! ### Rows of digits -/

/-- **A row of digits is read as the number nearest to the natural number that it denotes**, by
`readChars`. -/
theorem readChars_digits (hne : cs ≠ []) (hcs : ∀ c ∈ cs, c.isDigit = true) :
    readChars cs
      = some (.ofUnits false (nearestWhole (Nat.ofDigitChars 10 cs 0) * unitsPerOne)) := by
  have hread := readDecimal_digits hne fun c hc => isDigit_of_isDigit (hcs c hc)
  rw [valueOfChars_eq hcs] at hread
  have hsigned := readChars_signed false (fun c hc => .inl (isDigit_of_isDigit (hcs c hc))) hread
  rwa [Decimal.units_natural] at hsigned

end Governance.Number
