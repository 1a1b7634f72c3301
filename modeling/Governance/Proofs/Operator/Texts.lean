import Governance.Operator.Apply
import Governance.Proofs.Text.LowerCase
import Governance.Pattern.Program

/-!
# Tests of texts that occur verbatim

Texts are compared in the lower case of each as a whole. An operand that occurs in a value letter by
letter is found in it, unless a capital sigma ends a word in the one and not in the other.

* `occursIn_iff`: occurring is being a passage.
* `verbatim_found`: what the tests answer of an operand that occurs in a value verbatim.
* `verbatim_missed_sigma`: operands that occur verbatim and are not found.
-/

namespace Governance

open Text (KeepsSigmas)

section Library

variable [Pattern.Library]

/-- What the operator `op` says of the value `actual` of a field and an operand, if it judges
fields. -/
def Operator.answer? (op : Operator) (env : Surroundings) (actual expected : FieldValue) :
    Option (Except EvaluationError Bool) :=
  op.judgement?.map fun judgement => judgement env actual expected

omit [Pattern.Library] in
/-- By `occursIn`, occurring is being a passage. -/
theorem occursIn_iff {needle hay : List Char} : occursIn needle hay = true ↔ needle <:+: hay := by
  induction hay with
  | nil => simp [occursIn]
  | cons c rest ih =>
    rw [occursIn, Bool.or_eq_true, ih, List.isPrefixOf_iff_prefix, List.infix_cons_iff]

omit [Pattern.Library] in
/-- What `textTest` says where both sides have texts, `hay` and `needle`. -/
theorem textTest_eq {actual expected : FieldValue} {hay needle : String}
    (test : List Char → List Char → Bool) (hactual : actual.toText = some hay)
    (hexpected : expected.toText = some needle) :
    textTest test actual expected
      = test (Text.lowerChars hay.toList) (Text.lowerChars needle.toList) := by
  rw [textTest, hactual, hexpected]

/-- **What the tests of texts answer of an operand that occurs verbatim.** With the texts `hay` of
the value and `needle` of the operand: where it occurs, `contains` finds it when the value around it
changes none of its capital sigmas (`KeepsSigmas`). The tests at the start and at the end,
`startsWith` and `endsWith`, find it when and only when that is so. -/
theorem verbatim_found (env : Surroundings) (actual expected : FieldValue) (hay needle : String)
    (hactual : actual.toText = some hay) (hexpected : expected.toText = some needle) :
    (∀ before after, hay.toList = before ++ needle.toList ++ after →
        KeepsSigmas before needle.toList after →
          Operator.contains.answer? env actual expected = some (.ok true)
            ∧ Operator.notContains.answer? env actual expected = some (.ok false))
      ∧ (∀ after, hay.toList = needle.toList ++ after →
          (Operator.startsWith.answer? env actual expected = some (.ok true) ↔
            KeepsSigmas [] needle.toList after))
      ∧ ∀ before, hay.toList = before ++ needle.toList →
          (Operator.endsWith.answer? env actual expected = some (.ok true) ↔
            KeepsSigmas before needle.toList []) := by
  have hanswer (test b : Bool) :
      some (.ok test : Except EvaluationError Bool) = some (.ok b) ↔ test = b := by simp
  refine ⟨fun before after hhay hkeeps => ?_, fun after hhay => ?_, fun before hhay => ?_⟩
  · have hwithin : hasWithin actual expected = true := by
      rw [hasWithin, textTest_eq _ hactual hexpected, occursIn_iff, hhay]
      exact Text.lowerChars_infix hkeeps
    simp [Operator.answer?, Operator.judgement?, hwithin]
  · simp only [Operator.answer?, Operator.judgement?, Option.map_some, hanswer]
    rw [hasAtStart, textTest_eq _ hactual hexpected, List.isPrefixOf_iff_prefix, hhay,
      Text.lowerChars_prefix_iff]
  · simp only [Operator.answer?, Operator.judgement?, Option.map_some, hanswer]
    rw [hasAtEnd, textTest_eq _ hactual hexpected, List.isSuffixOf_iff_suffix, hhay,
      Text.lowerChars_suffix_iff]

end Library

/-- A sigma that ends a word is found where a word of the value ends with it. -/
theorem verbatim_found_words :
    let env : Surroundings := ⟨.default, .still⟩
    Operator.contains.answer? env (.text "ΑΣ ΑΣ") (.text "ΑΣ") = some (.ok true)
      ∧ Operator.notContains.answer? env (.text "ΑΣ ΑΣ") (.text "ΑΣ") = some (.ok false)
      ∧ Operator.startsWith.answer? env (.text "ΑΣ ΑΣ") (.text "ΑΣ") = some (.ok true)
      ∧ Operator.endsWith.answer? env (.text "ΑΣ ΑΣ") (.text "ΑΣ") = some (.ok true) := by
  intro env
  obtain ⟨hwithin, hstart, hend⟩ := verbatim_found env (.text "ΑΣ ΑΣ") (.text "ΑΣ") _ _ rfl rfl
  have hfirst : KeepsSigmas [] "ΑΣ".toList " ΑΣ".toList :=
    Text.keepsSigmas_of_apart rfl (by decide +kernel)
  have hlast : KeepsSigmas "ΑΣ ".toList "ΑΣ".toList [] :=
    Text.keepsSigmas_of_apart (by decide +kernel) rfl
  obtain ⟨hcontains, hlacks⟩ := hwithin [] " ΑΣ".toList (by decide) hfirst
  exact ⟨hcontains, hlacks, (hstart _ (by decide)).2 hfirst, (hend _ (by decide)).2 hlast⟩

/-- **Operands that occur verbatim and are not found**: the sigma of the first ends a word that goes
on in the value, and that of the second ends one that begins in the value only. -/
theorem verbatim_missed_sigma :
    let env : Surroundings := ⟨.default, .still⟩
    ("ΑΣΑ" = "ΑΣ" ++ "Α" ∧ "ΑΣ" = "Α" ++ "Σ")
      ∧ Operator.contains.answer? env (.text "ΑΣΑ") (.text "ΑΣ") = some (.ok false)
      ∧ Operator.notContains.answer? env (.text "ΑΣΑ") (.text "ΑΣ") = some (.ok true)
      ∧ Operator.startsWith.answer? env (.text "ΑΣΑ") (.text "ΑΣ") = some (.ok false)
      ∧ Operator.endsWith.answer? env (.text "ΑΣ") (.text "Σ") = some (.ok false) := by
  intro env
  have hwithin : hasWithin (.text "ΑΣΑ") (.text "ΑΣ") = false := by decide +kernel
  have hstart : hasAtStart (.text "ΑΣΑ") (.text "ΑΣ") = false := by decide +kernel
  have hend : hasAtEnd (.text "ΑΣ") (.text "Σ") = false := by decide +kernel
  simp [Operator.answer?, Operator.judgement?, hwithin, hstart, hend]

end Governance
