import Governance.Number.Numeral
import Governance.Number.Style

/-!
# Numbers read back from their texts

However a number is written, its digits stand for a decimal that rounds to the number again. So no
two numbers have one text, except for the two zeros where a style hides the sign.

* `units_shortest`: the decimal that is chosen for a number rounds to it.
* `readDecimal_unsigned`: what a style writes is read as a decimal that rounds to the number.
* `Style.equal_of_write_eq`: numbers with one text are equal.
-/

namespace Governance.Number

/-! ### Rounding -/

/-- Rounding by `nearestUnits` looks at the fraction only, not at the terms in which it is given. -/
theorem nearestUnits_mul {k : Nat} (hk : 0 < k) (num den : Nat) :
    nearestUnits (num * k) (den * k) = nearestUnits num den := by
  have hscale (a b : Nat) : a * k < b * k ↔ a < b := Nat.mul_lt_mul_right hk
  unfold nearestUnits
  simp only [Nat.mul_div_mul_right num den hk]
  generalize Nat.pow 2 ((num / den).log2 - 52) = step
  have hden : den * k * step = den * step * k := Nat.mul_right_comm den k step
  have hrest : 2 * (num % (den * step) * k) = 2 * (num % (den * step)) * k :=
    (Nat.mul_assoc 2 _ k).symm
  simp only [hden, Nat.mul_div_mul_right _ _ hk, Nat.mul_mod_mul_right, hrest, hscale]

namespace Decimal

theorem units_ofNat (n e : Nat) :
    units ⟨n, .ofNat e⟩ = nearestUnits (n * Nat.pow 10 e * unitsPerOne) 1 := rfl

theorem units_negSucc (n e : Nat) :
    units ⟨n, .negSucc e⟩ = nearestUnits (n * unitsPerOne) (Nat.pow 10 (e + 1)) := rfl

/-- A zero at the end of the digits may go into the power of ten, without a change of `units`. -/
theorem units_shift (n : Nat) (e : Int) : units ⟨n, e + 1⟩ = units ⟨n * 10, e⟩ := by
  cases e with
  | ofNat e =>
    have hpower : Nat.pow 10 (e + 1) = 10 * Nat.pow 10 e := Nat.pow_succ'
    rw [show Int.ofNat e + 1 = .ofNat (e + 1) from rfl, units_ofNat, units_ofNat, hpower,
      Nat.mul_assoc n 10]
  | negSucc e =>
    cases e with
    | zero =>
      have hscaled := nearestUnits_mul (k := 10) (by decide) (n * unitsPerOne) 1
      rw [show Int.negSucc 0 + 1 = .ofNat 0 from rfl, units_ofNat, units_negSucc,
        Nat.mul_right_comm n 10]
      exact (congrArg (nearestUnits · 1) (congrArg (· * unitsPerOne) (Nat.mul_one n))).trans
        hscaled.symm
    | succ e =>
      have hscaled := nearestUnits_mul (k := 10) (by decide) (n * unitsPerOne) (Nat.pow 10 (e + 1))
      rw [show Int.negSucc (e + 1) + 1 = .negSucc e from rfl, units_negSucc, units_negSucc,
        Nat.mul_right_comm n 10, ← hscaled]
      rfl

theorem units_normalize (fuel : Nat) (d : Decimal) : (d.normalize fuel).units = d.units := by
  induction fuel generalizing d with
  | zero => rfl
  | succ fuel ih =>
    obtain ⟨n, e⟩ := d
    rw [normalize]
    split
    · next h =>
      have hn : n / 10 * 10 = n := Nat.div_mul_cancel (Nat.dvd_of_mod_eq_zero h.2)
      rw [ih, units_shift, hn]
    · rfl

end Decimal

/-- Halvings are tenths of fives, so the expansion of a count of units ends in the decimal `d`. The
exponents are variables here, for the powers are too large to be computed on the way. -/
theorem units_expansion {units m n : Nat} {d : Decimal} (h : Representable units)
    (hd : d = ⟨units * Nat.pow 5 n, .negSucc m⟩) (hm : n = m + 1) (hn : unitExponent = n) :
    d.units = units := by
  have hone : unitsPerOne = Nat.pow 2 n := by
    unfold unitsPerOne
    rw [hn]
  have hpower : Nat.pow 5 n * Nat.pow 2 n = Nat.pow 10 n := (Nat.mul_pow 5 2 n).symm
  rw [hd, Decimal.units_negSucc, hone, ← hm, Nat.mul_assoc, hpower]
  exact nearestUnits_of_representable (Nat.pow_pos (by decide)) h

theorem units_exactDecimal {units : Nat} (h : Representable units) :
    (exactDecimal units).units = units := by
  have hd : exactDecimal units = ⟨units * Nat.pow 5 1074, .negSucc 1073⟩ := rfl
  exact units_expansion h hd rfl rfl

theorem shortest_cases (tie : Tie) (units : Nat) :
    (∃ count d, onGrid tie units count = some d ∧ shortest tie units = d.normalize 20)
      ∨ shortest tie units = exactDecimal units := by
  rw [shortest]
  cases hfound : (List.range 17).findSome? fun n => onGrid tie units (n + 1) with
  | some d =>
    obtain ⟨n, -, hgrid⟩ := List.exists_of_findSome?_eq_some hfound
    exact .inl ⟨n + 1, d, hgrid, rfl⟩
  | none => exact .inr rfl

/-- **The shortest decimal rounds to the number**: `shortest` gives one with the same `units`. -/
theorem units_shortest (tie : Tie) {units : Nat} (h : Representable units) :
    (shortest tie units).units = units := by
  rcases shortest_cases tie units with ⟨count, d, hgrid, hshortest⟩ | hshortest
  · rw [hshortest, Decimal.units_normalize]
    exact beq_iff_eq.1 (readsBack_of_onGrid hgrid)
  · rw [hshortest, units_exactDecimal h]

/-! ### Rows of digits -/

theorem digitValue?_eq_some {c : Char} (h : c.isDigit = true) :
    digitValue? c = some (c.toNat - '0'.toNat) := by
  have hbounds : '0' ≤ c ∧ c ≤ '9' := by simpa [Char.isDigit, Char.le_def] using h
  rw [digitValue?, if_pos hbounds]

theorem isDigit_of_isDigit {c : Char} (h : c.isDigit = true) : isDigit c = true := by
  rw [isDigit, digitValue?_eq_some h]
  rfl

theorem isDigit_of_mem_digitChars {n : Nat} {c : Char} (h : c ∈ digitChars n) :
    isDigit c = true :=
  isDigit_of_isDigit (Nat.isDigit_of_mem_toDigits (by decide) (by decide) h)

theorem digitChars_ne_nil (n : Nat) : digitChars n ≠ [] := Nat.toDigits_ne_nil

/-- By `valueOfChars`, the value of digits is that of the first ones, `cs`, moved up, and of the
last, `ds`. -/
theorem valueOfChars_append (cs ds : List Char) :
    valueOfChars (cs ++ ds)
      = (ds.filterMap digitValue?).foldl (fun n d => n * 10 + d) (valueOfChars cs) := by
  rw [valueOfChars, valueOfDigits, List.filterMap_append, List.foldl_append]
  rfl

/-- Characters `cs` that are all digits write the number that they denote. -/
theorem valueOfChars_eq {cs : List Char} (hcs : ∀ c ∈ cs, c.isDigit = true) :
    valueOfChars cs = Nat.ofDigitChars 10 cs 0 := by
  have hfold (cs : List Char) (hcs : ∀ c ∈ cs, c.isDigit = true) (init : Nat) :
      (cs.filterMap digitValue?).foldl (fun n d => n * 10 + d) init
        = Nat.ofDigitChars 10 cs init := by
    induction cs generalizing init with
    | nil => rfl
    | cons c cs ih =>
      rw [List.forall_mem_cons] at hcs
      rw [List.filterMap_cons_some (digitValue?_eq_some hcs.1), List.foldl_cons, ih hcs.2,
        Nat.mul_comm init 10]
      rfl
  exact hfold cs hcs 0

theorem valueOfChars_digitChars (n : Nat) : valueOfChars (digitChars n) = n := by
  have hdigits : ∀ c ∈ digitChars n, c.isDigit = true := fun c hc =>
    Nat.isDigit_of_mem_toDigits (by decide) (by decide) hc
  calc valueOfChars (digitChars n)
      = Nat.ofDigitChars 10 (digitChars n) 0 := valueOfChars_eq hdigits
    _ = n := Nat.ofDigitChars_toDigits (by decide) (by decide)

/-- Zeros after the digits `cs` are powers of ten. -/
theorem valueOfChars_append_zeros (cs : List Char) (count : Nat) :
    valueOfChars (cs ++ List.replicate count '0') = valueOfChars cs * Nat.pow 10 count := by
  have hzero : digitValue? '0' = some 0 := by decide
  rw [valueOfChars_append]
  generalize valueOfChars cs = n
  induction count generalizing n with
  | zero => exact (Nat.mul_one n).symm
  | succ count ih =>
    have hpower : Nat.pow 10 (count + 1) = 10 * Nat.pow 10 count := Nat.pow_succ'
    rw [List.replicate_succ, List.filterMap_cons_some hzero, List.foldl_cons, ih, hpower,
      Nat.add_zero, Nat.mul_assoc]

/-- Zeros before the digits `cs` count for nothing. -/
theorem valueOfChars_zeros_append (cs : List Char) (count : Nat) :
    valueOfChars (List.replicate count '0' ++ cs) = valueOfChars cs := by
  have hzeros : valueOfChars (List.replicate count '0') = 0 := by
    have h := valueOfChars_append_zeros [] count
    rw [List.nil_append] at h
    rw [h]
    exact Nat.zero_mul _
  rw [valueOfChars_append, hzeros]
  rfl

/-! ### Reading decimals -/

section Parts

variable {whole fraction rest : List Char} {power : Int}

/-- Digits are taken up to the first character of `rest`, which is none. -/
theorem takeWhile_digits (hwhole : ∀ c ∈ whole, isDigit c = true)
    (hrest : ∀ c ∈ rest.head?, isDigit c = false) :
    (whole ++ rest).takeWhile isDigit = whole ∧ (whole ++ rest).dropWhile isDigit = rest := by
  have hstop : rest.takeWhile isDigit = [] ∧ rest.dropWhile isDigit = rest := by
    cases rest with
    | nil => exact ⟨rfl, rfl⟩
    | cons c rest => simp [hrest c rfl]
  rw [List.takeWhile_append_of_pos hwhole, List.dropWhile_append_of_pos hwhole, hstop.1, hstop.2,
    List.append_nil]
  exact ⟨rfl, rfl⟩

theorem readDecimal_whole (hne : whole ≠ []) (hwhole : ∀ c ∈ whole, isDigit c = true)
    (hrest : ∀ c ∈ rest.head?, isDigit c = false ∧ c ≠ '.') (hpower : readPower rest = some power) :
    readDecimal (whole ++ rest) = some ⟨valueOfChars whole, power⟩ := by
  obtain ⟨htake, hdrop⟩ := takeWhile_digits hwhole fun c hc => (hrest c hc).1
  unfold readDecimal
  simp only [htake, hdrop]
  split
  · exact absurd rfl (hrest '.' rfl).2
  · simp [hne, hpower]

theorem readDecimal_point (hne : whole ≠ []) (hwhole : ∀ c ∈ whole, isDigit c = true)
    (hfraction : ∀ c ∈ fraction, isDigit c = true) (hrest : ∀ c ∈ rest.head?, isDigit c = false)
    (hpower : readPower rest = some power) :
    readDecimal (whole ++ '.' :: (fraction ++ rest))
      = some ⟨valueOfChars (whole ++ fraction), power - fraction.length⟩ := by
  have hpoint : isDigit '.' = false := by decide
  have hstop : ∀ c ∈ ('.' :: (fraction ++ rest)).head?, isDigit c = false := fun c hc => by
    obtain rfl := Option.some.inj hc
    exact hpoint
  obtain ⟨htake, hdrop⟩ := takeWhile_digits hwhole hstop
  obtain ⟨htakeMore, hdropMore⟩ := takeWhile_digits hfraction hrest
  unfold readDecimal
  simp [htake, hdrop, htakeMore, hdropMore, hne, hpower]

/-- By `readDecimal` digits are read as a whole number. -/
theorem readDecimal_digits (hne : whole ≠ []) (hwhole : ∀ c ∈ whole, isDigit c = true) :
    readDecimal whole = some ⟨valueOfChars whole, 0⟩ := by
  have hread := @readDecimal_whole whole [] 0 hne hwhole (by simp) rfl
  rwa [List.append_nil] at hread

/-- By `readDecimal` digits with a point have a fraction, and no power of ten. -/
theorem readDecimal_fraction (hne : whole ≠ []) (hwhole : ∀ c ∈ whole, isDigit c = true)
    (hfraction : ∀ c ∈ fraction, isDigit c = true) :
    readDecimal (whole ++ '.' :: fraction)
      = some ⟨valueOfChars (whole ++ fraction), -fraction.length⟩ := by
  have hread := @readDecimal_point whole fraction [] 0 hne hwhole hfraction (by simp) rfl
  rwa [List.append_nil, Int.zero_sub] at hread

end Parts

theorem readPower_mark (power : Int) :
    readPower ((if power < 0 then ['e', '-'] else ['e', '+']) ++ digitChars power.natAbs)
      = some power := by
  have hdigits (n : Nat) : natOfChars? (digitChars n) = some n := by
    have hall : (digitChars n).all isDigit = true :=
      List.all_eq_true.2 fun c hc => isDigit_of_mem_digitChars hc
    rw [natOfChars?, if_pos ⟨digitChars_ne_nil n, hall⟩, valueOfChars_digitChars]
  have hdown (n : Nat) : readPower (['e', '-'] ++ digitChars n) = some (-(n : Int)) := by
    change ((natOfChars? (digitChars n)).bind fun k => some (k : Int)).map (fun k => -k) = _
    rw [hdigits, Option.bind_some, Option.map_some]
  have hup (n : Nat) : readPower (['e', '+'] ++ digitChars n) = some (n : Int) := by
    change ((natOfChars? (digitChars n)).bind fun k => some (k : Int)).map (fun k => k) = _
    rw [hdigits, Option.bind_some, Option.map_some]
  split
  · next h => rw [hdown, Int.ofNat_natAbs_of_nonpos (Int.le_of_lt h), Int.neg_neg]
  · next h => rw [hup, Int.natAbs_of_nonneg (Int.not_lt.1 h)]

theorem Decimal.units_zero (e : Nat) : units ⟨0, .ofNat e⟩ = 0 := by
  have hzero := nearestUnits_of_representable Nat.one_pos Binary64.representable_zero
  rw [Nat.zero_mul] at hzero
  rw [units_ofNat, Nat.zero_mul, Nat.zero_mul, hzero]

/-- The power of ten may be written out in zeros, without a change of `units`. -/
theorem Decimal.units_mul_power (n e : Nat) : units ⟨n * Nat.pow 10 e, 0⟩ = units ⟨n, .ofNat e⟩ :=
  congrArg (fun m => nearestUnits (m * unitsPerOne) 1) (Nat.mul_one (n * Nat.pow 10 e))

theorem isDigit_of_mem_zeros (count : Nat) :
    ∀ c ∈ List.replicate count '0', isDigit c = true := by
  intro c hc
  rw [List.eq_of_mem_replicate hc]
  decide

/-- A whole number is `writtenOut` as a row of digits, and `.0` perhaps. -/
theorem exists_whole (pointZero : Bool) (n e : Nat) : ∃ whole : List Char,
    (∀ c ∈ whole, isDigit c = true) ∧ whole ≠ [] ∧ valueOfChars whole = n * Nat.pow 10 e
      ∧ writtenOut pointZero ⟨n, .ofNat e⟩ = whole ++ if pointZero then ['.', '0'] else [] := by
  have hdigits : ∀ c ∈ digitChars n, isDigit c = true := fun c hc => isDigit_of_mem_digitChars hc
  refine ⟨digitChars n ++ if n = 0 then [] else List.replicate e '0', ?_, ?_, ?_, rfl⟩
  · split
    · simpa using hdigits
    · exact List.forall_mem_append.2 ⟨hdigits, isDigit_of_mem_zeros e⟩
  · simp [digitChars_ne_nil]
  · split
    · next hn => simp [valueOfChars_digitChars, hn]
    · rw [valueOfChars_append_zeros, valueOfChars_digitChars]

theorem readDecimal_writtenOut_whole (pointZero : Bool) (n e : Nat) :
    ∃ r, readDecimal (writtenOut pointZero ⟨n, .ofNat e⟩) = some r
      ∧ r.units = Decimal.units ⟨n, .ofNat e⟩ := by
  obtain ⟨whole, hall, hne, hvalue, hwritten⟩ := exists_whole pointZero n e
  rw [hwritten]
  cases pointZero with
  | false =>
    have hread := readDecimal_digits hne hall
    rw [hvalue] at hread
    exact ⟨_, by simpa using hread, Decimal.units_mul_power n e⟩
  | true =>
    have hread := readDecimal_fraction hne hall (isDigit_of_mem_zeros 1)
    have htenth : valueOfChars (whole ++ List.replicate 1 '0') = n * Nat.pow 10 e * 10 := by
      rw [valueOfChars_append_zeros, hvalue]
    have hshift := Decimal.units_shift (n * Nat.pow 10 e) (-1)
    rw [← htenth] at hshift
    exact ⟨_, hread, hshift.symm.trans (Decimal.units_mul_power n e)⟩

/-- In `writtenOut` the point stands among the digits, or in front of zeros and the digits. -/
theorem readDecimal_writtenOut_fraction (pointZero : Bool) (n e : Nat) :
    readDecimal (writtenOut pointZero ⟨n, .negSucc e⟩) = some ⟨n, .negSucc e⟩ := by
  have hdigits : ∀ c ∈ digitChars n, isDigit c = true := fun c hc => isDigit_of_mem_digitChars hc
  simp only [writtenOut]
  split
  · next hlt =>
    generalize hpoint : (digitChars n).length - (e + 1) = point
    have hne : (digitChars n).take point ≠ [] := by
      rw [Ne, List.take_eq_nil_iff]
      rintro (hzero | hnil)
      · omega
      · exact digitChars_ne_nil n hnil
    have hdropped : ∀ c ∈ (digitChars n).drop point, isDigit c = true := fun c hc =>
      hdigits c (List.mem_of_mem_drop hc)
    have hread := readDecimal_fraction hne (fun c hc => hdigits c (List.mem_of_mem_take hc))
      hdropped
    have hplaces : -(((digitChars n).drop point).length : Int) = .negSucc e := by
      rw [List.length_drop, Int.negSucc_eq]
      omega
    rwa [List.take_append_drop, valueOfChars_digitChars, hplaces] at hread
  · next hle =>
    generalize hcount : e + 1 - (digitChars n).length = count
    have hread := readDecimal_fraction (List.cons_ne_nil '0' [])
      (isDigit_of_mem_zeros 1)
      (List.forall_mem_append.2 ⟨isDigit_of_mem_zeros count, hdigits⟩)
    have hvalue : valueOfChars (['0'] ++ (List.replicate count '0' ++ digitChars n)) = n := by
      have h := valueOfChars_zeros_append (digitChars n) (count + 1)
      rwa [valueOfChars_digitChars] at h
    have hplaces : -((List.replicate count '0' ++ digitChars n).length : Int) = .negSucc e := by
      rw [List.length_append, List.length_replicate, Int.negSucc_eq]
      omega
    rwa [hvalue, hplaces] at hread

/-- A decimal `d` whose digits are `writtenOut` is read as one that rounds to the same number. -/
theorem readDecimal_writtenOut (pointZero : Bool) (d : Decimal) :
    ∃ r, readDecimal (writtenOut pointZero d) = some r ∧ r.units = d.units := by
  obtain ⟨n, exponent⟩ := d
  cases exponent with
  | ofNat e => exact readDecimal_writtenOut_whole pointZero n e
  | negSucc e => exact ⟨_, readDecimal_writtenOut_fraction pointZero n e, rfl⟩

/-- A decimal `d` written by `withPower` is read as itself. -/
theorem readDecimal_withPower {power : Int} {d : Decimal}
    (hpower : power = (digitChars d.digits).length + d.exponent - 1) :
    readDecimal (withPower power d) = some d := by
  obtain ⟨n, exponent⟩ := d
  have hdigits : ∀ c ∈ digitChars n, isDigit c = true := fun c hc => isDigit_of_mem_digitChars hc
  have hvalue := valueOfChars_digitChars n
  have hmark := readPower_mark power
  simp only [withPower, List.append_assoc]
  generalize hrest : (if power < 0 then ['e', '-'] else ['e', '+']) ++ digitChars power.natAbs
    = rest at hmark
  have hstop : ∀ c ∈ rest.head?, isDigit c = false ∧ c ≠ '.' := by
    have he : isDigit 'e' = false ∧ 'e' ≠ '.' := by decide
    intro c hc
    rw [← hrest] at hc
    obtain rfl : c = 'e' := by split at hc <;> exact (Option.some.inj hc).symm
    exact he
  have hlast (count : Nat) (h : (digitChars n).length = count + 1) :
      power - count = exponent := by
    have hsum : power = (digitChars n).length + exponent - 1 := hpower
    omega
  match hchars : digitChars n with
  | [] => exact absurd hchars (digitChars_ne_nil n)
  | [c] =>
    rw [hchars] at hdigits hvalue
    have hread := readDecimal_whole (List.cons_ne_nil c []) hdigits hstop hmark
    rw [hvalue, ← Int.sub_zero power, ← Int.natCast_zero, hlast 0 (by rw [hchars]; rfl)] at hread
    exact hread
  | c :: c' :: cs =>
    rw [hchars] at hdigits hvalue
    have hread := readDecimal_point (List.cons_ne_nil c []) (by simp [hdigits])
      (fun x hx => hdigits x (List.mem_cons_of_mem c hx)) (fun x hx => (hstop x hx).1) hmark
    rw [show [c] ++ c' :: cs = c :: c' :: cs from rfl, hvalue, hlast _ (by rw [hchars]; rfl)]
      at hread
    exact hread

/-- **Every text of a number is read as a decimal that rounds to it**, whatever the `style`. -/
theorem readDecimal_unsigned (style : Style) {units : Nat} (h : Representable units) :
    ∃ r, readDecimal (style.unsigned units) = some r ∧ r.units = units := by
  unfold Style.unsigned
  split
  · next hzero =>
    obtain ⟨r, hread, hunits⟩ := readDecimal_writtenOut style.pointZero ⟨0, 0⟩
    refine ⟨r, hread, hunits.trans ?_⟩
    rw [hzero]
    exact Decimal.units_zero 0
  · dsimp only
    split
    · obtain ⟨r, hread, hunits⟩ := readDecimal_writtenOut style.pointZero (shortest style.tie units)
      exact ⟨r, hread, hunits.trans (units_shortest style.tie h)⟩
    · exact ⟨_, readDecimal_withPower rfl, units_shortest style.tie h⟩

/-! ### Texts of numbers -/

/-- A digit, or one of the other characters in a text of a finite number. -/
def IsNumeral (c : Char) : Prop := isDigit c = true ∨ c ∈ ['.', 'e', '+', '-']

instance (c : Char) : Decidable (IsNumeral c) := inferInstanceAs (Decidable (_ ∨ _))

theorem isNumeral_of_mem_digitChars {n : Nat} {c : Char} (h : c ∈ digitChars n) : IsNumeral c :=
  .inl (isDigit_of_mem_digitChars h)

theorem isNumeral_of_mem_zeros {count : Nat} {c : Char} (h : c ∈ List.replicate count '0') :
    IsNumeral c :=
  .inl (isDigit_of_mem_zeros count c h)

theorem isNumeral_of_mem_writtenOut {pointZero : Bool} {d : Decimal} :
    ∀ c ∈ writtenOut pointZero d, IsNumeral c := by
  have hzero : IsNumeral '0' := .inl (by decide)
  have hpoint : IsNumeral '.' := .inr (by decide)
  have hdigits : ∀ c ∈ digitChars d.digits, IsNumeral c := fun c => isNumeral_of_mem_digitChars
  unfold writtenOut
  split
  · simp only [List.forall_mem_append]
    refine ⟨⟨hdigits, ?_⟩, ?_⟩
    · split
      · simp
      · exact fun c => isNumeral_of_mem_zeros
    · split <;> simp [hpoint, hzero]
  · dsimp only
    split
    · rw [List.forall_mem_append, List.forall_mem_cons]
      exact ⟨fun c hc => hdigits c (List.mem_of_mem_take hc), hpoint,
        fun c hc => hdigits c (List.mem_of_mem_drop hc)⟩
    · rw [List.forall_mem_append, List.forall_mem_cons, List.forall_mem_cons]
      exact ⟨⟨hzero, hpoint, fun c => isNumeral_of_mem_zeros⟩, hdigits⟩

theorem isNumeral_of_mem_withPower {power : Int} {d : Decimal} :
    ∀ c ∈ withPower power d, IsNumeral c := by
  have hpoint : IsNumeral '.' := .inr (by decide)
  have hdigits : ∀ c ∈ digitChars d.digits, IsNumeral c := fun c => isNumeral_of_mem_digitChars
  unfold withPower
  dsimp only
  rw [List.forall_mem_append, List.forall_mem_append]
  refine ⟨⟨?_, ?_⟩, fun c => isNumeral_of_mem_digitChars⟩
  · split
    · simp
    · next c hc => rwa [hc] at hdigits
    · next c cs _ hc =>
      rw [hc, List.forall_mem_cons] at hdigits
      rw [List.forall_mem_cons, List.forall_mem_cons]
      exact ⟨hdigits.1, hpoint, hdigits.2⟩
  · have he : IsNumeral 'e' := .inr (by decide)
    have hsign : IsNumeral '-' ∧ IsNumeral '+' := by decide
    split
    · exact List.forall_mem_cons.2 ⟨he, List.forall_mem_singleton.2 hsign.1⟩
    · exact List.forall_mem_cons.2 ⟨he, List.forall_mem_singleton.2 hsign.2⟩

theorem isNumeral_of_mem_unsigned (style : Style) (units : Nat) :
    ∀ c ∈ style.unsigned units, IsNumeral c := by
  unfold Style.unsigned
  split
  · exact isNumeral_of_mem_writtenOut
  · dsimp only
    split
    · exact isNumeral_of_mem_writtenOut
    · exact isNumeral_of_mem_withPower

theorem readDecimal_minus (cs : List Char) : readDecimal ('-' :: cs) = none := by
  have hminus : isDigit '-' = false := by decide
  simp [readDecimal, hminus]

theorem unsigned_ne_minus (style : Style) {units : Nat} (h : Representable units)
    (cs : List Char) : style.unsigned units ≠ '-' :: cs := by
  intro hminus
  obtain ⟨r, hread, -⟩ := readDecimal_unsigned style h
  rw [hminus, readDecimal_minus] at hread
  exact absurd hread (by simp)

theorem unsigned_inj (style : Style) {m n : Nat} (hm : Representable m) (hn : Representable n)
    (h : style.unsigned m = style.unsigned n) : m = n := by
  obtain ⟨r, hread, hunits⟩ := readDecimal_unsigned style hm
  obtain ⟨r', hread', hunits'⟩ := readDecimal_unsigned style hn
  obtain rfl : r = r' := Option.some.inj (hread.symm.trans ((congrArg readDecimal h).trans hread'))
  exact hunits.symm.trans hunits'

namespace Binary64

theorem exists_finite {x : Binary64} (h : x.isFinite = true) :
    ∃ negative units, ∃ fits : Representable units, x = finite negative units fits := by
  cases x with
  | finite negative units fits => exact ⟨negative, units, fits, rfl⟩
  | infinite negative => exact absurd h (by simp [isFinite])
  | nan => exact absurd h (by simp [isFinite])

theorem equal_finite_iff {negative negative' : Bool} {m n : Nat} {hm : Representable m}
    {hn : Representable n} : (finite negative m hm).equal (finite negative' n hn) = true
      ↔ m = n ∧ (negative = negative' ∨ m = 0) := by
  rw [equal_iff]
  cases negative <;> cases negative' <;> simp [place?] <;> omega

end Binary64

namespace Style

/-- Whether a text in the `style` starts with a minus sign. -/
def showsMinus (style : Style) (negative : Bool) (units : Nat) : Bool :=
  negative && (style.signedZero || units != 0)

theorem toList_write (style : Style) (negative : Bool) {units : Nat} (fits : Representable units) :
    (style.write (.finite negative units fits)).toList
      = if style.showsMinus negative units then '-' :: style.unsigned units
        else style.unsigned units := by
  rw [write, String.toList_ofList, showsMinus]
  split <;> rfl

/-- By `showsMinus`, the sign shows unless the number is zero. -/
theorem showsMinus_of_ne_zero (style : Style) (negative : Bool) {units : Nat} (h : units ≠ 0) :
    style.showsMinus negative units = negative := by
  simp [showsMinus, h]

variable {style : Style} {x y : Binary64}

theorem isNumeral_of_mem_write (hx : x.isFinite = true) :
    ∀ c ∈ (style.write x).toList, IsNumeral c := by
  obtain ⟨negative, units, fits, rfl⟩ := Binary64.exists_finite hx
  rw [toList_write]
  split
  · exact List.forall_mem_cons.2 ⟨.inr (by decide), isNumeral_of_mem_unsigned style units⟩
  · exact isNumeral_of_mem_unsigned style units

theorem toList_write_ne_nil (hx : x.isFinite = true) : (style.write x).toList ≠ [] := by
  obtain ⟨negative, units, fits, rfl⟩ := Binary64.exists_finite hx
  rw [toList_write]
  split
  · exact List.cons_ne_nil _ _
  · intro hnil
    obtain ⟨r, hread, -⟩ := readDecimal_unsigned style fits
    rw [hnil] at hread
    exact absurd hread (by simp [readDecimal])

/-- **Numbers with one text are equal**, whatever the `style` in which `write` writes them. -/
theorem equal_of_write_eq (hx : x.isFinite = true) (hy : y.isFinite = true)
    (h : style.write x = style.write y) : x.equal y = true := by
  obtain ⟨negative, m, hm, rfl⟩ := Binary64.exists_finite hx
  obtain ⟨negative', n, hn, rfl⟩ := Binary64.exists_finite hy
  have htexts := congrArg String.toList h
  rw [toList_write, toList_write] at htexts
  obtain ⟨hsign, hunsigned⟩ : style.showsMinus negative m = style.showsMinus negative' n
      ∧ style.unsigned m = style.unsigned n := by
    cases hleft : style.showsMinus negative m <;> cases hright : style.showsMinus negative' n <;>
      simp only [hleft, hright, Bool.false_eq_true, if_true, if_false, List.cons.injEq, true_and]
        at htexts
    · exact ⟨rfl, htexts⟩
    · exact absurd htexts (unsigned_ne_minus style hm _)
    · exact absurd htexts.symm (unsigned_ne_minus style hn _)
    · exact ⟨rfl, htexts⟩
  obtain rfl := unsigned_inj style hm hn hunsigned
  refine Binary64.equal_finite_iff.2 ⟨rfl, ?_⟩
  by_cases hzero : m = 0
  · exact .inr hzero
  · rw [showsMinus_of_ne_zero style negative hzero, showsMinus_of_ne_zero style negative' hzero]
      at hsign
    exact .inl hsign

/-- **In a style that hides the sign of zero, equal numbers have one text**: `write` decides
`equal`. -/
theorem write_eq_iff_equal (hsigned : style.signedZero = false) (hx : x.isFinite = true)
    (hy : y.isFinite = true) : style.write x = style.write y ↔ x.equal y = true := by
  refine ⟨equal_of_write_eq hx hy, fun h => ?_⟩
  obtain ⟨negative, m, hm, rfl⟩ := Binary64.exists_finite hx
  obtain ⟨negative', n, hn, rfl⟩ := Binary64.exists_finite hy
  obtain ⟨rfl, rfl | rfl⟩ := Binary64.equal_finite_iff.1 h
  · rfl
  · simp [write, hsigned]

end Style

end Governance.Number
