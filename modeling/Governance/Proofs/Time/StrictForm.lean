import Mathlib.Data.List.Basic
import Mathlib.Data.List.Induction
import Governance.Proofs.Except
import Governance.Proofs.Time.ReadBack

/-!
# The strict form of timestamps

A text has the strict form when it writes a date and a time of day with every number in its width,
then a fraction, if there is one, and an offset. The strict reader takes the texts of that form and
no others, and what it takes the lenient reader takes to be the same.

* `fixedDigits_eq_ok_iff`: a number in its width is read as the number, and nothing else is.
* `readStrictChars_eq_ok_iff`: the strict reader takes what has the strict form.
* `StrictForm.readLenientChars`: so does the lenient reader.
-/

namespace Governance.Timestamp

open Time Number

/-! ### Numbers in their width -/

section Width

variable {cs ds : List Char}

/-- A digit `c` is told by its value `n`. -/
theorem exists_digitValue {c : Char} (h : isDigit c = true) :
    ∃ n < 10, digitValue? c = some n ∧ c.toNat = n + 48 := by
  obtain ⟨hle, hge⟩ := toNat_bounds_of_isDigit h
  obtain ⟨n, hn⟩ := Option.isSome_iff_exists.1 h
  have hvalue : n = c.toNat - 48 := by
    unfold digitValue? at hn
    split at hn
    · exact (Option.some.inj hn).symm
    · exact absurd hn (by simp)
  exact ⟨n, by omega, hn, by omega⟩

theorem valueOfChars_snoc (cs : List Char) {c : Char} {n : Nat} (h : digitValue? c = some n) :
    valueOfChars (cs ++ [c]) = valueOfChars cs * 10 + n := by
  rw [valueOfChars_append, List.filterMap_cons_some h]
  rfl

/-- A row of digits `ds` writes a number that fits its width. -/
theorem valueOfChars_lt (h : ∀ c ∈ ds, isDigit c = true) : valueOfChars ds < 10 ^ ds.length := by
  induction ds using List.reverseRecOn with
  | nil => decide
  | append_singleton ds d ih =>
    obtain ⟨hds, hd⟩ := List.forall_mem_append.1 h
    obtain ⟨n, hn, hvalue, -⟩ := exists_digitValue (hd d List.mem_cons_self)
    have hrest := ih hds
    rw [valueOfChars_snoc ds hvalue, List.length_append, List.length_singleton, Nat.pow_succ]
    omega

/-- Rows of digits `cs` and `ds` of one width that write one number are the same. -/
theorem eq_of_valueOfChars_eq (hlength : cs.length = ds.length)
    (hcs : ∀ c ∈ cs, isDigit c = true) (hds : ∀ d ∈ ds, isDigit d = true)
    (h : valueOfChars cs = valueOfChars ds) : cs = ds := by
  induction cs using List.reverseRecOn generalizing ds with
  | nil => exact (List.length_eq_zero_iff.1 hlength.symm).symm
  | append_singleton cs c ih =>
    rcases List.eq_nil_or_concat' ds with rfl | ⟨ds, d, rfl⟩
    · exact absurd hlength (by simp)
    · obtain ⟨hcs, hc⟩ := List.forall_mem_append.1 hcs
      obtain ⟨hds, hd⟩ := List.forall_mem_append.1 hds
      obtain ⟨m, hm, hmvalue, hmchar⟩ := exists_digitValue (hc c List.mem_cons_self)
      obtain ⟨n, hn, hnvalue, hnchar⟩ := exists_digitValue (hd d List.mem_cons_self)
      rw [valueOfChars_snoc cs hmvalue, valueOfChars_snoc ds hnvalue] at h
      have hsame : c.toNat = d.toNat := by omega
      rw [ih (by simpa using hlength) hcs hds (by omega), Char.toNat_inj.1 hsame]

/-- **A number in its width is read as the number, and nothing else is**, by `fixedDigits`. -/
theorem fixedDigits_eq_ok_iff {count n : Nat} {rest : List Char} (hcount : 0 < count) :
    fixedDigits count cs = .ok (n, rest) ↔ n < 10 ^ count ∧ cs = padded count n ++ rest := by
  simp only [fixedDigits]
  constructor
  · intro h
    split at h
    · next hdigits =>
      obtain ⟨hlength, hall⟩ := hdigits
      rw [List.all_eq_true] at hall
      obtain ⟨rfl, rfl⟩ := Prod.mk.inj (Except.ok.inj h)
      have hlt := valueOfChars_lt hall
      rw [hlength] at hlt
      have hrow : cs.take count = padded count (valueOfChars (cs.take count)) :=
        eq_of_valueOfChars_eq (hlength.trans (length_padded hcount hlt).symm) hall
          (fun c hc => isDigit_of_mem_padded hc) (valueOfChars_padded _ _).symm
      rw [← hrow, List.take_append_drop]
      exact ⟨hlt, rfl⟩
    · exact absurd h (by simp)
  · rintro ⟨hlt, rfl⟩
    have hlength := length_padded hcount hlt
    have htake : (padded count n ++ rest).take count = padded count n := List.take_left' hlength
    have hdrop : (padded count n ++ rest).drop count = rest := List.drop_left' hlength
    rw [htake, hdrop, valueOfChars_padded,
      if_pos ⟨hlength, List.all_eq_true.2 fun c hc => isDigit_of_mem_padded hc⟩]

theorem fixedDigits_padded {count n : Nat} {rest : List Char} (hcount : 0 < count)
    (hn : n < 10 ^ count) : fixedDigits count (padded count n ++ rest) = .ok (n, rest) :=
  (fixedDigits_eq_ok_iff hcount).2 ⟨hn, rfl⟩

end Width

/-- A text `cs` has as many bytes as characters at least. -/
theorem length_le_utf8ByteSize (cs : List Char) : cs.length ≤ (String.ofList cs).utf8ByteSize := by
  induction cs with
  | nil => exact Nat.zero_le _
  | cons c cs ih =>
    have hc := Char.utf8Size_pos c
    rw [String.ofList_cons, String.utf8ByteSize_append, String.utf8ByteSize_singleton,
      List.length_cons]
    omega

theorem hasBytes_of_length {n : Nat} {cs : List Char} (h : n ≤ cs.length) :
    hasBytes n cs = true := by
  refine decide_eq_true (Nat.le_trans ?_ (length_le_utf8ByteSize _))
  rw [List.length_take]
  omega

theorem expectChar_eq_ok_iff {c : Char} {cs rest : List Char} :
    expectChar c cs = .ok rest ↔ cs = c :: rest := by
  cases cs with
  | nil => simp [expectChar]
  | cons d cs => by_cases h : d = c <;> simp [expectChar, h]

theorem dateTimeMark_eq_ok_iff {cs rest : List Char} :
    dateTimeMark cs = .ok rest ↔
      ∃ mark, (mark = 'T' ∨ mark = 't' ∨ mark = ' ') ∧ cs = mark :: rest := by
  cases cs with
  | nil => simp [dateTimeMark]
  | cons c cs =>
    constructor
    · intro h
      by_cases hmark : c = 'T' ∨ c = 't' ∨ c = ' '
      · exact ⟨c, hmark, congrArg (c :: ·) (Except.ok.inj ((if_pos hmark).symm.trans h))⟩
      · exact absurd ((if_neg hmark).symm.trans h) (by simp)
    · rintro ⟨mark, hmark, h⟩
      obtain ⟨rfl, rfl⟩ := List.cons.inj h
      exact if_pos hmark

/-! ### Texts of the strict form -/

/-- A `year` of the strict form is shown without a sign. -/
theorem yearChars_natCast {year : Nat} (h : year < 10 ^ 4) : yearChars year = padded 4 year :=
  if_pos (by omega)

/-- The text `cs` writes the parts `p` in the strict form. -/
inductive StrictForm : List Char → Parts → Prop
  | mk (p : Parts) {mark : Char} {tail zone : List Char}
      (hyear : 0 ≤ p.date.year ∧ p.date.year ≤ 9999) (hdate : p.date.isValid = true)
      (htime : p.timeIsValid = true) (hmark : mark = 'T' ∨ mark = 't' ∨ mark = ' ')
      (hfraction : fraction tail = .ok (p.nanos, zone))
      (hoffset : readOffset (expectChar ':') zone = .ok (p.offset, []))
      (hroom : p.offset.natAbs ≤ greatestOffset) : StrictForm (p.written mark tail) p

theorem le_length_padded (width n : Nat) : width ≤ (padded width n).length := by
  rw [padded, List.length_append, List.length_replicate]
  omega

theorem le_length_yearChars (year : Int) : 4 ≤ (yearChars year).length := by
  have h := le_length_padded 4 year.natAbs
  unfold yearChars
  split
  · exact h
  · exact Nat.le_succ_of_le h

/-- Date and time of day, as `p.written` gives them, fill the fixed places. -/
theorem le_length_written (p : Parts) (mark : Char) (rest : List Char) :
    19 ≤ (p.written mark rest).length := by
  have hyear := le_length_yearChars p.date.year
  have hmonth := le_length_padded 2 p.date.month
  have hday := le_length_padded 2 p.date.day
  have hhour := le_length_padded 2 p.hour
  have hminute := le_length_padded 2 p.minute
  have hsecond := le_length_padded 2 p.second
  simp only [Parts.written, List.length_append, List.length_cons]
  omega

section Strict

variable {cs : List Char} {p : Parts} {t : Timestamp}

/-- What `readStrictChars` takes has the `StrictForm` of some parts. -/
theorem exists_strictForm (h : readStrictChars cs = .ok t) :
    ∃ p, StrictForm cs p ∧ p.settle = .ok t := by
  unfold readStrictChars at h
  obtain ⟨-, h⟩ := guard_eq_ok_iff.1 h
  obtain ⟨⟨year, cs₁⟩, hyear, h⟩ := bind_eq_ok_iff.1 h
  obtain ⟨cs₂, hdash, h⟩ := bind_eq_ok_iff.1 h
  obtain ⟨⟨month, cs₃⟩, hmonth, h⟩ := bind_eq_ok_iff.1 h
  obtain ⟨cs₄, hdash', h⟩ := bind_eq_ok_iff.1 h
  obtain ⟨⟨day, cs₅⟩, hday, h⟩ := bind_eq_ok_iff.1 h
  obtain ⟨hdate, h⟩ := guard_eq_ok_iff.1 h
  obtain ⟨cs₆, hbetween, h⟩ := bind_eq_ok_iff.1 h
  obtain ⟨⟨hour, cs₇⟩, hhour, h⟩ := bind_eq_ok_iff.1 h
  obtain ⟨cs₈, hcolon, h⟩ := bind_eq_ok_iff.1 h
  obtain ⟨⟨minute, cs₉⟩, hminute, h⟩ := bind_eq_ok_iff.1 h
  obtain ⟨cs₁₀, hcolon', h⟩ := bind_eq_ok_iff.1 h
  obtain ⟨⟨second, tail⟩, hsecond, h⟩ := bind_eq_ok_iff.1 h
  obtain ⟨⟨nanos, zone⟩, hfraction, h⟩ := bind_eq_ok_iff.1 h
  obtain ⟨hclock, h⟩ := guard_eq_ok_iff.1 h
  obtain ⟨⟨offset, rest⟩, hoffset, h⟩ := bind_eq_ok_iff.1 h
  obtain ⟨hroom, h⟩ := guard_eq_ok_iff.1 h
  obtain ⟨hend, hsettle⟩ := guard_eq_ok_iff.1 h
  -- Each step tells what stood before its rest, so the text is put together from the front.
  have htwo : 0 < 2 := by decide
  obtain ⟨hfour, rfl⟩ := (fixedDigits_eq_ok_iff (by decide)).1 hyear
  obtain rfl := expectChar_eq_ok_iff.1 hdash
  obtain ⟨-, rfl⟩ := (fixedDigits_eq_ok_iff htwo).1 hmonth
  obtain rfl := expectChar_eq_ok_iff.1 hdash'
  obtain ⟨-, rfl⟩ := (fixedDigits_eq_ok_iff htwo).1 hday
  obtain ⟨mark, hmark, rfl⟩ := dateTimeMark_eq_ok_iff.1 hbetween
  obtain ⟨-, rfl⟩ := (fixedDigits_eq_ok_iff htwo).1 hhour
  obtain rfl := expectChar_eq_ok_iff.1 hcolon
  obtain ⟨-, rfl⟩ := (fixedDigits_eq_ok_iff htwo).1 hminute
  obtain rfl := expectChar_eq_ok_iff.1 hcolon'
  obtain ⟨-, rfl⟩ := (fixedDigits_eq_ok_iff htwo).1 hsecond
  obtain rfl : rest = [] := by simpa using hend
  have hplain : 0 ≤ (year : Int) ∧ (year : Int) ≤ 9999 := by omega
  have htime : Parts.timeIsValid ⟨⟨year, month, day⟩, hour, minute, second, nanos, 0⟩ = true := by
    simpa using hclock
  rw [← yearChars_natCast hfour]
  exact ⟨_, .mk ⟨⟨year, month, day⟩, hour, minute, second, nanos, offset⟩ hplain
    (by simpa using hdate) htime hmark hfraction hoffset (Nat.not_lt.1 hroom), hsettle⟩

/-- What has the `StrictForm` of `p`, `readStrictChars` takes, part by part. -/
theorem StrictForm.readStrictChars (h : StrictForm cs p) (hsettle : p.settle = .ok t) :
    readStrictChars cs = .ok t := by
  obtain @⟨⟨⟨year, month, day⟩, hour, minute, second, nanos, offset⟩, mark, tail, zone, hyear,
    hdate, htime, hmark, hfraction, hoffset, hroom⟩ := h
  have hbytes := hasBytes_of_length
    (le_length_written ⟨⟨year, month, day⟩, hour, minute, second, nanos, offset⟩ mark tail)
  obtain ⟨year, rfl⟩ := Int.eq_ofNat_of_zero_le hyear.1
  have hfour : year < 10 ^ 4 := by
    have hle : (year : Int) ≤ 9999 := hyear.2
    omega
  obtain ⟨⟨-, hmonth⟩, -, hday⟩ := Date.bounds_of_isValid hdate
  obtain ⟨hhour, hminute, hsecond⟩ := of_decide_eq_true htime
  have hclock : Parts.timeIsValid ⟨⟨year, month, day⟩, hour, minute, second, nanos, 0⟩ = true :=
    htime
  have htwo : 0 < 2 := by decide
  unfold Timestamp.readStrictChars
  refine guard_eq_ok_iff.2 ⟨by simp [hbytes], ?_⟩
  rw [Parts.written, yearChars_natCast hfour]
  refine bind_eq_ok_iff.2 ⟨_, fixedDigits_padded (by decide) hfour, ?_⟩
  refine bind_eq_ok_iff.2 ⟨_, rfl, bind_eq_ok_iff.2 ⟨_, fixedDigits_padded htwo (by omega), ?_⟩⟩
  refine bind_eq_ok_iff.2 ⟨_, rfl, bind_eq_ok_iff.2 ⟨_, fixedDigits_padded htwo (by omega), ?_⟩⟩
  refine guard_eq_ok_iff.2 ⟨by simpa using hdate, bind_eq_ok_iff.2 ⟨_, if_pos hmark, ?_⟩⟩
  refine bind_eq_ok_iff.2 ⟨_, fixedDigits_padded htwo (by omega), ?_⟩
  refine bind_eq_ok_iff.2 ⟨_, rfl, bind_eq_ok_iff.2 ⟨_, fixedDigits_padded htwo (by omega), ?_⟩⟩
  refine bind_eq_ok_iff.2 ⟨_, rfl, bind_eq_ok_iff.2 ⟨_, fixedDigits_padded htwo (by omega), ?_⟩⟩
  refine bind_eq_ok_iff.2 ⟨_, hfraction, guard_eq_ok_iff.2 ⟨by simp [hclock], ?_⟩⟩
  refine bind_eq_ok_iff.2 ⟨_, hoffset, guard_eq_ok_iff.2 ⟨Nat.not_lt.2 hroom, ?_⟩⟩
  exact guard_eq_ok_iff.2 ⟨by simp, hsettle⟩

/-- **The strict reader takes what has the strict form, and nothing else**: `readStrictChars` by
`StrictForm`. -/
theorem readStrictChars_eq_ok_iff :
    readStrictChars cs = .ok t ↔ ∃ p, StrictForm cs p ∧ p.settle = .ok t :=
  ⟨exists_strictForm, fun ⟨_, hform, hsettle⟩ => hform.readStrictChars hsettle⟩

end Strict

theorem read_of_readStrictChars {s : String} {t : Timestamp}
    (h : readStrictChars s.toList = .ok t) : read s = .ok t.truncate := by
  rw [read, h]

/-- What `read` gives is an instant that was settled, without its fraction. -/
theorem read_eq_ok_iff {s : String} {t : Timestamp} :
    read s = .ok t ↔ ∃ p, StrictForm s.toList p ∧ ∃ u, p.settle = .ok u ∧ u.truncate = t := by
  constructor
  · intro h
    unfold read at h
    split at h
    · next u hu =>
      obtain ⟨p, hform, hsettle⟩ := readStrictChars_eq_ok_iff.1 hu
      exact ⟨p, hform, u, hsettle, Except.ok.inj h⟩
    · exact absurd h (by simp)
  · rintro ⟨p, hform, u, hsettle, rfl⟩
    exact read_of_readStrictChars (readStrictChars_eq_ok_iff.2 ⟨p, hform, hsettle⟩)

/-! ### What the lenient reader makes of them -/

section Offset

variable {afterHours afterHours' : List Char → Except Fault (List Char)} {zone : List Char}
  {r : Int × List Char}

/-- An offset that `readOffset` reads starts with a mark or a sign, which no digit, blank or name of
a zone starts with. -/
theorem exists_start_of_readOffset (h : readOffset afterHours zone = .ok r) :
    ∃ c cs, zone = c :: cs ∧ isDigit c = false ∧ Text.isBlank c = false ∧ c.toLower ≠ 'u' := by
  unfold readOffset at h
  split at h
  · exact ⟨'Z', _, rfl, by decide⟩
  · exact ⟨'z', _, rfl, by decide⟩
  · obtain ⟨_, hsign, -⟩ := bind_eq_ok_iff.1 h
    unfold offsetSign at hsign
    split at hsign
    · exact absurd hsign (by simp)
    · exact ⟨'+', _, rfl, by decide⟩
    · exact ⟨'-', _, rfl, by decide⟩
    · exact ⟨'\u2212', _, rfl, by decide⟩
    · exact absurd hsign (by simp)

/-- A reader `afterHours'` that passes over the colon of an offset in its own way reads the offset
the same. -/
theorem readOffset_congr
    (hafter : ∀ cs rest, afterHours cs = .ok rest → (twoDigits rest).isSome →
      afterHours' cs = .ok rest)
    (h : readOffset afterHours zone = .ok r) : readOffset afterHours' zone = .ok r := by
  unfold readOffset at h ⊢
  split at h
  · exact h
  · exact h
  · obtain ⟨⟨negative, cs⟩, hsign, h⟩ := bind_eq_ok_iff.1 h
    refine bind_eq_ok_iff.2 ⟨(negative, cs), hsign, ?_⟩
    dsimp only at h ⊢
    by_cases hbytes : (!hasBytes 2 cs) = true
    · exact absurd ((if_pos hbytes).symm.trans h) (by simp)
    rw [if_neg hbytes] at h ⊢
    split at h
    · exact absurd h (by simp)
    · obtain ⟨rest, hcolon, h⟩ := bind_eq_ok_iff.1 h
      refine bind_eq_ok_iff.2 ⟨rest, hafter _ _ hcolon ?_, h⟩
      cases hminutes : twoDigits rest with
      | some _ => rfl
      | none =>
        rw [hminutes] at h
        split at h <;> exact absurd h (by simp)

/-- By `twoDigits`, two digits are no colon and no blank. -/
theorem dropWhile_twoDigits {cs : List Char} (h : (twoDigits cs).isSome) :
    cs.dropWhile (fun c => c = ':' || Text.isBlank c) = cs := by
  match cs with
  | [] => rfl
  | [_] => exact absurd h (by simp [twoDigits])
  | c :: d :: cs =>
    have hdigit : isDigit c = true := by
      cases hc : digitValue? c with
      | some _ => rw [isDigit, hc]; rfl
      | none => exact absurd h (by simp [twoDigits, hc])
    have hcolon : c ≠ ':' := by
      rintro rfl
      exact absurd hdigit (by decide)
    exact List.dropWhile_cons_of_neg (by simp [hcolon, not_isBlank_of_isDigit hdigit])

/-- An offset of the strict form is one that `looseOffset` reads. -/
theorem looseOffset_of_readOffset (h : readOffset (expectChar ':') zone = .ok r) :
    looseOffset zone = .ok r := by
  obtain ⟨c, cs, rfl, -, hblank, hname⟩ := exists_start_of_readOffset h
  have htrim : Text.trimStartChars (c :: cs) = c :: cs :=
    List.dropWhile_cons_of_neg (by simp [hblank])
  have hutc : ¬ ((c :: cs).take 3).map Char.toLower = ['u', 't', 'c'] := by
    simp [hname]
  simp only [looseOffset]
  rw [htrim, if_neg hutc]
  refine readOffset_congr (fun ds rest hcolon hminutes => ?_) h
  obtain rfl := expectChar_eq_ok_iff.1 hcolon
  exact congrArg Except.ok ((List.dropWhile_cons_of_pos (by decide)).trans
    (dropWhile_twoDigits hminutes))

end Offset

/-- What follows the seconds is no digit, be it a `fraction` or an offset. -/
theorem not_isDigit_head?_of_fraction {tail zone : List Char} {nanos : Nat} {r : Int × List Char}
    {afterHours : List Char → Except Fault (List Char)}
    (hfraction : fraction tail = .ok (nanos, zone)) (hoffset : readOffset afterHours zone = .ok r) :
    ∀ c ∈ tail.head?, isDigit c = false := by
  intro c hc
  unfold fraction at hfraction
  split at hfraction
  · obtain rfl := Option.some.inj hc
    decide
  · obtain ⟨-, rfl⟩ := Prod.mk.inj (Except.ok.inj hfraction)
    obtain ⟨d, ds, rfl, hdigit, -⟩ := exists_start_of_readOffset hoffset
    obtain rfl := Option.some.inj hc
    exact hdigit

/-- **What the strict reader takes the lenient reader settles to the same instant**: on a text of
`StrictForm`, `readLenientChars` settles `p`. -/
theorem StrictForm.readLenientChars {cs : List Char} {p : Parts} (h : StrictForm cs p) :
    readLenientChars cs = p.settle := by
  obtain ⟨_, -, hdate, htime, hmark, hfraction, hoffset, -⟩ := h
  exact readLenientChars_written hdate htime hmark hfraction
    (not_isDigit_head?_of_fraction hfraction hoffset) (looseOffset_of_readOffset hoffset)

end Governance.Timestamp
