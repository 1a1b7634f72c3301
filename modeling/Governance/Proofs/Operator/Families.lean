import Governance.Proofs.Evaluation.Finding
import Governance.Proofs.Operator.Comparison
import Governance.Pattern.Program

/-!
# Laws between operators

Three operators deny what three others say; what stands at an end of a text occurs in it; the
ordering operators refuse the same values and otherwise order all others, in accord with equality.
A missing value fails every operator that asks for something present.

* `ordered_or_refused`: two values have places, or every ordering refuses the same side.
* `Setting.visit_of_missing`: what a visit of a leaf without a value finds.
* `families_agree`: the laws between operators.
-/

namespace Governance

variable {actual expected : FieldValue}

section Library

variable [Pattern.Library]

/-- The operator `op` gives an answer and `denial` denies it. -/
def Opposed (op denial : Operator) (env : Surroundings) (actual expected : FieldValue) : Prop :=
  ∃ b, op.answer? env actual expected = some (.ok b)
    ∧ denial.answer? env actual expected = some (.ok !b)

/-! ### Texts -/

omit [Pattern.Library] in
/-- A `test` of texts that implies `test'` of any two texts implies it of any two values, by
`textTest`. -/
theorem textTest_mono {test test' : List Char → List Char → Bool}
    (hmono : ∀ hay needle, test hay needle = true → test' hay needle = true)
    (h : textTest test actual expected = true) : textTest test' actual expected = true := by
  unfold textTest at h ⊢
  split at h
  · exact hmono _ _ h
  · exact absurd h Bool.false_ne_true

omit [Pattern.Library] in
theorem hasWithin_of_hasAtStart (h : hasAtStart actual expected = true) :
    hasWithin actual expected = true :=
  textTest_mono (fun _ _ hstart => occursIn_iff.2 (List.isPrefixOf_iff_prefix.1 hstart).isInfix) h

omit [Pattern.Library] in
theorem hasWithin_of_hasAtEnd (h : hasAtEnd actual expected = true) :
    hasWithin actual expected = true :=
  textTest_mono (fun _ _ hend => occursIn_iff.2 (List.isSuffixOf_iff_suffix.1 hend).isInfix) h

/-! ### Orderings -/

/-- **Two values have places, or every ordering refuses the same side.** -/
theorem ordered_or_refused (env : Surroundings) (actual expected : FieldValue) :
    (∃ side, ∀ op : Operator, op.isOrdering = true →
        op.answer? env actual expected = some (.error (.unordered op side actual expected)))
      ∨ ∃ m n, actual.place? = some m ∧ expected.place? = some n := by
  cases ha : actual.place? with
  | none => exact .inl ⟨.context, fun op hop => answer?_of_context env hop ha⟩
  | some m =>
    cases he : expected.place? with
    | none => exact .inl ⟨.operand, fun op hop => answer?_of_operand env hop ha he⟩
    | some n => exact .inr ⟨m, n, rfl, rfl⟩

omit [Pattern.Library] in
/-- Of the integers `m` and `n` one is less, or they are equal, and only one of these is so. -/
theorem count_comparisons (m n : Int) :
    [decide (m < n), decide (m = n), decide (n < m)].count true = 1 := by
  rcases Int.lt_trichotomy m n with hless | rfl | hmore
  · simp [hless, Int.ne_of_lt hless, Int.not_lt.2 (Int.le_of_lt hless)]
  · simp
  · simp [hmore, Int.ne_of_gt hmore, Int.not_lt.2 (Int.le_of_lt hmore)]

/-! ### Missing values -/

omit [Pattern.Library] in
theorem Operator.eq_isNotNull {op : Operator} (h : op.definedForMissing = true)
    (hne : op ≠ .isNull) : op = .isNotNull := by
  cases op with
  | isNull => exact absurd rfl hne
  | isNotNull => rfl
  | _ => exact absurd h (by decide)

/-- **A missing value fails every operator but the one that asks for it**, `isNull`, whatever the
operand is, and leaves no warning. -/
theorem Setting.visit_of_missing (s : Setting) (l : Leaf)
    (hmissing : (s.context.valueOf l.field).isNull = true) (hjudges : l.operator.isLogical = false)
    (hne : l.operator ≠ .isNull) :
    s.visit l = .ok ⟨.fails, [s.resultOf l false none], [], 1⟩ := by
  cases hjudgement : l.operator.judgement? with
  | none => exact absurd (Operator.judgement?_eq_none_iff.1 hjudgement) (by simp [hjudges])
  | some judgement =>
    have hanswer : s.answer l judgement = .ok false := by
      unfold answer
      split
      · rfl
      · next hdefined =>
        rw [hmissing, Bool.true_and, Bool.not_eq_true', Bool.not_eq_false] at hdefined
        rw [Operator.eq_isNotNull hdefined hne] at hjudgement
        obtain rfl := Option.some.inj hjudgement
        exact congrArg (fun missing => Except.ok !missing) hmissing
    rw [visit, hjudgement]
    simp only [hanswer, findingOf]

/-! ### The laws -/

/-- **The families of operators are consistent**, for every value `actual` and every operand
`expected`. -/
theorem families_agree (env : Surroundings) (actual expected : FieldValue) :
    Opposed .equals .notEquals env actual expected
      ∧ Opposed .contains .notContains env actual expected
      ∧ Opposed .containsAny .notContainsAny env actual expected
      ∧ (Operator.startsWith.answer? env actual expected = some (.ok true)
            ∨ Operator.endsWith.answer? env actual expected = some (.ok true) →
          Operator.contains.answer? env actual expected = some (.ok true))
      ∧ ((∃ side, ∀ op : Operator, op.isOrdering = true →
            op.answer? env actual expected = some (.error (.unordered op side actual expected)))
          ∨ ∃ less equal greater : Bool, [less, equal, greater].count true = 1
            ∧ Operator.lessThan.answer? env actual expected = some (.ok less)
            ∧ Operator.equals.answer? env actual expected = some (.ok equal)
            ∧ Operator.greaterThan.answer? env actual expected = some (.ok greater)
            ∧ Operator.greaterThanOrEqual.answer? env actual expected = some (.ok !less)
            ∧ Operator.lessThanOrEqual.answer? env actual expected = some (.ok !greater))
      ∧ ∀ (s : Setting) (l : Leaf), (s.context.valueOf l.field).isNull = true →
          l.operator.isLogical = false → l.operator ≠ .isNull →
          s.visit l = .ok ⟨.fails, [s.resultOf l false none], [], 1⟩ := by
  refine ⟨⟨_, rfl, rfl⟩, ⟨_, rfl, rfl⟩, ⟨_, rfl, rfl⟩, ?_, ?_, fun s l => s.visit_of_missing l⟩
  · have hanswer (b : Bool) :
        (some (.ok b) : Option (Except EvaluationError Bool)) = some (.ok true) ↔ b = true := by
      simp
    simp only [Operator.answer?, Operator.judgement?, Option.map_some, hanswer]
    exact fun h => h.elim hasWithin_of_hasAtStart hasWithin_of_hasAtEnd
  · refine (ordered_or_refused env actual expected).imp id ?_
    rintro ⟨m, n, ha, he⟩
    have hatLeast : (!decide (m < n)) = decide (n ≤ m) := by
      rw [← decide_not, decide_eq_decide, Int.not_lt]
    have hatMost : (!decide (n < m)) = decide (m ≤ n) := by
      rw [← decide_not, decide_eq_decide, Int.not_lt]
    refine ⟨decide (m < n), decide (m = n), decide (n < m), count_comparisons m n,
      answer?_of_places (r := fun a b => decide (a < b)) env rfl ha he,
      answer?_of_places (r := fun a b => decide (a = b)) env rfl ha he,
      answer?_of_places (r := fun a b => decide (b < a)) env rfl ha he, ?_, ?_⟩
    · rw [hatLeast]
      exact answer?_of_places (r := fun a b => decide (b ≤ a)) env rfl ha he
    · rw [hatMost]
      exact answer?_of_places (r := fun a b => decide (a ≤ b)) env rfl ha he

end Library

/-- A `region` that starts as the operand does, and a leaf whose operand no pattern can be, on a
`region` that is missing. -/
theorem families_agree_region :
    let env : Surroundings := ⟨.default, .still⟩
    let s : Setting := ⟨env, .empty, 32⟩
    let l : Leaf := ⟨"region", .regexMatch, .bool true⟩
    (Operator.startsWith.answer? env (.text "EU-West") (.text "eu") = some (.ok true)
        ∧ Operator.contains.answer? env (.text "EU-West") (.text "eu") = some (.ok true))
      ∧ Operator.regexMatch.answer? env (.text "EU-West") l.value
          = some (.error (.invalidOperand .regexMatch "boolean"))
      ∧ ((s.context.valueOf l.field).isNull = true ∧ l.operator.isLogical = false
          ∧ l.operator ≠ .isNull ∧ s.visit l = .ok ⟨.fails, [s.resultOf l false none], [], 1⟩) := by
  intro env s l
  obtain ⟨-, -, -, hwithin, -, hmissing⟩ := families_agree env (.text "EU-West") (.text "eu")
  have hstart : hasAtStart (.text "EU-West") (.text "eu") = true := by decide +kernel
  have hstarts : Operator.startsWith.answer? env (.text "EU-West") (.text "eu") = some (.ok true) :=
    congrArg (fun b => some (Except.ok b)) hstart
  exact ⟨⟨hstarts, hwithin (.inl hstarts)⟩, rfl, rfl, rfl, by decide,
    hmissing s l rfl rfl (by decide)⟩

end Governance
