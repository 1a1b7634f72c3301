import Governance.Proofs.Number.Texts
import Governance.Proofs.Operator.Comparison
import Governance.Pattern.Program

/-!
# Scalars and their texts

A truth value or a finite number and its text have the same place in the order of numbers, the same
texts and the same truth value. So no operator tells them apart, and a text decides by itself
whether a value is a number. Equality compares places or texts, never one with the other, and is an
equivalence.

* `FieldValue.exists_alike_text`: what a scalar has in common with its text.
* `text_interchangeable`: a scalar and its text are interchangeable in every judgement.
* `FieldValue.looselyEqual_iff`: equality is equality of keys.
* `equals_equivalence`: equality is an equivalence on scalars.
-/

namespace Governance

open Number

/-! ### What judgements depend on -/

/-- What the operator `op` says, with the code of a refusal in place of its reasons. -/
def Operator.coded? [Pattern.Library] (op : Operator) (env : Surroundings)
    (actual expected : FieldValue) : Option (Except String Bool) :=
  (op.answer? env actual expected).map (Except.mapError EvaluationError.code)

theorem Operator.exists_coded? [Pattern.Library] {op : Operator} (hop : op.isLogical = false)
    (env : Surroundings) (actual expected : FieldValue) :
    ∃ verdict, op.coded? env actual expected = some verdict := by
  cases hjudgement : op.judgement? with
  | none => exact absurd (Operator.judgement?_eq_none_iff.1 hjudgement) (by simp [hop])
  | some judgement =>
    refine ⟨Except.mapError EvaluationError.code (judgement env actual expected), ?_⟩
    rw [coded?, answer?, hjudgement, Option.map_some, Option.map_some]

/-- Two values `v` and `w` that coercions do not tell apart. -/
structure FieldValue.Alike (v w : FieldValue) : Prop where
  place : v.place? = w.place?
  text : v.toText = w.toText
  texts : v.toTexts = w.toTexts
  truth : v.asBool = w.asBool

namespace FieldValue.Alike

variable {v w : FieldValue}

theorem isNull_eq (h : Alike v w) : v.isNull = w.isNull := by
  rw [← Bool.not_inj_iff, ← FieldValue.toText_isSome, ← FieldValue.toText_isSome, h.text]

theorem looselyEqual_eq (h : Alike v w) (expected : FieldValue) :
    looselyEqual v expected = looselyEqual w expected := by
  rw [Governance.looselyEqual_eq, Governance.looselyEqual_eq, h.place, h.text]

theorem textTest_eq (h : Alike v w) (test : List Char → List Char → Bool) (expected : FieldValue) :
    textTest test v expected = textTest test w expected := by
  rw [textTest, textTest, h.text]

theorem matchesPattern_eq [Pattern.Library] (h : Alike v w) (env : Surroundings)
    (expected : FieldValue) : matchesPattern env v expected = matchesPattern env w expected := by
  unfold matchesPattern
  rw [h.text]

theorem foldedTexts_eq (h : Alike v w) : foldedTexts v = foldedTexts w := by
  rw [foldedTexts, foldedTexts, h.texts]

/-- What is `Alike` stands in the same order with every value, or is refused alike. -/
theorem ordered_alike [Pattern.Library] (h : Alike v w) (env : Surroundings)
    (expected : FieldValue) {op : Operator} {r : Int → Int → Bool} (hop : op.isOrdering = true)
    (hr : op.comparison? = some r) :
    op.coded? env v expected = op.coded? env w expected := by
  have hplace := h.place
  unfold Operator.coded?
  cases hw : w.place? with
  | none =>
    rw [answer?_of_context env hop (hplace.trans hw), answer?_of_context env hop hw]
    rfl
  | some m =>
    rw [hw] at hplace
    cases he : expected.place? with
    | none =>
      rw [answer?_of_operand env hop hplace he, answer?_of_operand env hop hw he]
      rfl
    | some n => rw [answer?_of_places env hr hplace he, answer?_of_places env hr hw he]

/-- **Judgements do not tell apart what coercions do not tell apart**, but for what a refusal says
of the value: `coded?` is the same for what is `Alike`. -/
theorem coded?_eq [Pattern.Library] (h : Alike v w) (op : Operator) (env : Surroundings)
    (expected : FieldValue) : op.coded? env v expected = op.coded? env w expected := by
  cases op with
  | greaterThan | lessThan | greaterThanOrEqual | lessThanOrEqual =>
    exact h.ordered_alike env expected rfl rfl
  | _ =>
    simp only [Operator.coded?, Operator.answer?, Operator.judgement?, Option.map_some,
      Option.map_none, h.looselyEqual_eq, hasWithin, hasAtStart, hasAtEnd, h.textTest_eq,
      h.matchesPattern_eq, sharesAny, sharesAll, h.foldedTexts_eq, h.truth, h.isNull_eq]

end FieldValue.Alike

/-! ### Scalars and their texts -/

namespace FieldValue

variable {x : Binary64}

theorem numberOfText_text (hx : x.isFinite = true) :
    ∃ y, numberOfText (Number.text x) = some y ∧ y.place? = x.place? := by
  obtain ⟨y, hread, hy, hplace⟩ := read?_text hx
  refine ⟨y, ?_, hplace⟩
  rw [numberOfText, trim_of_isNumeral (isNumeral_of_mem_text hx), hread, Option.bind_some, finite?,
    if_pos hy]

/-- A text in characters of numerals is no truth value by `asBool`. -/
theorem asBool_of_isNumeral {s : String} (h : ∀ c ∈ s.toList, IsNumeral c) :
    (text s).asBool = none := by
  have hword (word : String) (hodd : ∃ c ∈ word.toList.map Char.toLower, ¬IsNumeral c) :
      Text.sameIgnoringAsciiCase s word = false := by
    rw [Text.sameIgnoringAsciiCase, map_toLower_of_isNumeral h, beq_eq_false_iff_ne]
    intro heq
    obtain ⟨c, hc, hnot⟩ := hodd
    exact hnot (h c (heq ▸ hc))
  have htrue := hword "true" ⟨'t', by decide, by decide⟩
  have hfalse := hword "false" ⟨'f', by decide, by decide⟩
  simp only [asBool, trim_of_isNumeral h, htrue, hfalse, Bool.false_eq_true, if_false]

/-- **A finite number is like its text**: `x` and `Number.text x` are `Alike`. -/
theorem alike_number (hx : x.isFinite = true) : Alike (number x) (text (Number.text x)) where
  place := by
    obtain ⟨y, hy, hplace⟩ := numberOfText_text hx
    rw [place?, place?, asNumber, asNumber, hy, Option.bind_some, hplace, finite?, if_pos hx,
      Option.bind_some]
  text := rfl
  texts := rfl
  truth := (asBool_of_isNumeral (isNumeral_of_mem_text hx)).symm

/-- **A truth value is like its text**, `true` or `false`. -/
theorem alike_bool (b : Bool) : Alike (bool b) (text (if b then "true" else "false")) where
  place := by cases b <;> decide +kernel
  text := rfl
  texts := rfl
  truth := by cases b <;> decide +kernel

/-- A truth value, a finite number or a text. -/
def IsScalar : FieldValue → Prop
  | bool _ | text _ => True
  | number x => x.isFinite = true
  | null | texts _ => False

/-- **Every scalar is like its text**, that of `toText`. -/
theorem exists_alike_text {v : FieldValue} (hv : v.IsScalar) :
    ∃ s, v.toText = some s ∧ Alike v (text s) := by
  cases v with
  | bool b => exact ⟨_, rfl, alike_bool b⟩
  | number x => exact ⟨_, rfl, alike_number hv⟩
  | text s => exact ⟨s, rfl, ⟨rfl, rfl, rfl, rfl⟩⟩
  | null | texts items => exact hv.elim

/-- The text of a scalar decides whether it is a number, and which: `toText` decides `place?`. -/
theorem place?_eq_of_toText_eq {v w : FieldValue} (hv : v.IsScalar) (hw : w.IsScalar)
    (h : v.toText = w.toText) : v.place? = w.place? := by
  obtain ⟨s, hs, hlike⟩ := exists_alike_text hv
  obtain ⟨t, ht, hlike'⟩ := exists_alike_text hw
  obtain rfl : s = t := Option.some.inj (hs.symm.trans (h.trans ht))
  exact hlike.place.trans hlike'.place.symm

/-- What equality compares: the place of `v`, or its text if it has none. -/
def key (v : FieldValue) : Int ⊕ Option String :=
  match v.place? with
  | some m => .inl m
  | none => .inr v.toText

/-- **Scalars are equal if their keys are**: `looselyEqual` compares them by `key`. -/
theorem looselyEqual_iff {v w : FieldValue} (hv : v.IsScalar) (hw : w.IsScalar) :
    looselyEqual v w = true ↔ v.key = w.key := by
  rw [looselyEqual_eq, key, key]
  have hmixed (h : v.place? ≠ w.place?) : ¬(v.toText == w.toText) = true := fun htext =>
    h (place?_eq_of_toText_eq hv hw (beq_iff_eq.1 htext))
  cases hvplace : v.place? <;> cases hwplace : w.place? <;> simp_all

end FieldValue

/-! ### The two laws -/

/-- **A scalar and its text are interchangeable**: every operator `op` that judges fields gives the
same answer for both, or refuses both with the same code (`coded?`). -/
theorem text_interchangeable [Pattern.Library] (op : Operator) (hop : op.isLogical = false)
    (env : Surroundings) (expected : FieldValue) :
    (∀ x : Binary64, x.isFinite = true → ∃ verdict,
        op.coded? env (.number x) expected = some verdict
          ∧ op.coded? env (.text (Number.text x)) expected = some verdict)
      ∧ ∀ b : Bool, ∃ verdict,
        op.coded? env (.bool b) expected = some verdict
          ∧ op.coded? env (.text (if b then "true" else "false")) expected = some verdict := by
  have hboth {v w : FieldValue} (hlike : v.Alike w) : ∃ verdict,
      op.coded? env v expected = some verdict ∧ op.coded? env w expected = some verdict := by
    obtain ⟨verdict, hverdict⟩ := Operator.exists_coded? hop env v expected
    exact ⟨verdict, hverdict, (hlike.coded?_eq op env expected).symm.trans hverdict⟩
  exact ⟨fun x hx => hboth (FieldValue.alike_number hx), fun b => hboth (FieldValue.alike_bool b)⟩

/-- The negative zero, whose text has no sign, against an operand that writes it with one. -/
theorem text_interchangeable_negativeZero :
    let negativeZero : Binary64 := .finite true 0 Binary64.representable_zero
    let env : Surroundings := ⟨.default, .still⟩
    negativeZero.isFinite = true ∧ Number.text negativeZero = "0"
      ∧ ∃ verdict, Operator.equals.coded? env (.number negativeZero) (.text "-0.0") = some verdict
        ∧ Operator.equals.coded? env (.text (Number.text negativeZero)) (.text "-0.0")
          = some verdict := by
  intro negativeZero env
  exact ⟨rfl, by decide +kernel,
    (text_interchangeable .equals rfl env (.text "-0.0")).1 negativeZero rfl⟩

/-- A value that is a scalar. -/
abbrev Scalar := { v : FieldValue // v.IsScalar }

/-- **Equality is an equivalence on scalars**, as `equals` answers, and a number is never equal to
what is none. -/
theorem equals_equivalence [Pattern.Library] (env : Surroundings) :
    Equivalence (fun v w : Scalar => Operator.equals.answer? env v.1 w.1 = some (.ok true))
      ∧ ∀ v w : Scalar, v.1.asNumber.isSome = true → w.1.asNumber = none →
          Operator.equals.answer? env v.1 w.1 = some (.ok false)
            ∧ Operator.equals.answer? env w.1 v.1 = some (.ok false) := by
  have hanswer (v w : Scalar) (b : Bool) :
      Operator.equals.answer? env v.1 w.1 = some (.ok b) ↔ looselyEqual v.1 w.1 = b := by
    simp [Operator.answer?, Operator.judgement?]
  have hkey (v w : Scalar) :
      Operator.equals.answer? env v.1 w.1 = some (.ok true) ↔ v.1.key = w.1.key :=
    (hanswer v w true).trans (FieldValue.looselyEqual_iff v.2 w.2)
  constructor
  · exact {
      refl := fun v => (hkey v v).2 rfl
      symm := fun {v w} h => (hkey w v).2 ((hkey v w).1 h).symm
      trans := fun {u v w} h h' => (hkey u w).2 (((hkey u v).1 h).trans ((hkey v w).1 h')) }
  · intro v w hv hw
    have hplace : w.1.place? = none := FieldValue.place?_eq_none_iff.2 hw
    have hne : v.1.key ≠ w.1.key := by
      rw [FieldValue.key, FieldValue.key, hplace]
      cases hnone : v.1.place? with
      | none => simp [FieldValue.place?_eq_none_iff.1 hnone] at hv
      | some m => exact Sum.inl_ne_inr
    rw [hanswer, hanswer, ← Bool.not_eq_true, ← Bool.not_eq_true,
      FieldValue.looselyEqual_iff v.2 w.2, FieldValue.looselyEqual_iff w.2 v.2]
    exact ⟨hne, hne.symm⟩

/-- An infinity is no number here, so a text that writes one is equal to no text of a number. -/
theorem equals_equivalence_infinity :
    let env : Surroundings := ⟨.default, .still⟩
    (FieldValue.text "1e308").asNumber.isSome = true ∧ (FieldValue.text "1e309").asNumber = none
      ∧ Operator.equals.answer? env (.text "1e308") (.text "1e309") = some (.ok false)
      ∧ Operator.equals.answer? env (.text "1e309") (.text "1e308") = some (.ok false) := by
  intro env
  have hfinite : (FieldValue.text "1e308").asNumber.isSome = true := by decide +kernel
  have hinfinite : (FieldValue.text "1e309").asNumber = none := by
    rw [← Option.isNone_iff_eq_none]
    decide +kernel
  exact ⟨hfinite, hinfinite,
    (equals_equivalence env).2 ⟨.text "1e308", trivial⟩ ⟨.text "1e309", trivial⟩ hfinite hinfinite⟩

end Governance
