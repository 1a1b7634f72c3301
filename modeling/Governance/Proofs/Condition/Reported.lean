import Governance.Proofs.Condition.Nodes
import Governance.Pattern.Program

/-!
# Which faulty operands are reported

An operand is faulty when it cannot be read, or when it does not suit the operator of its leaf. The
first is reported whatever else is wrong. The second is looked for only in a leaf that has a field
and no nodes below, so one that also lacks its field hides it.

* `exists_invalidOperand_iff`: when the issues of a leaf tell of its operand.
* `operand_reported_iff`: the same of a leaf anywhere in a written condition, whatever is wrong with
  the other nodes.
* `operand_unreported_nameless`: a faulty operand that is not reported.
-/

namespace Governance.WrittenCondition

variable {patternSize : Nat} {op : Operator} {w : WrittenCondition}

section Library

variable [Pattern.Library]

/-- With something wrong about its parts, `leafIssues` looks for nothing more in a leaf. -/
theorem leafIssues_of_ne_nil (h : leafShapeIssues op w ≠ []) :
    leafIssues patternSize op w = leafShapeIssues op w := by
  unfold leafIssues
  split
  · next hnil => exact absurd hnil h
  · rfl

omit [Pattern.Library] in
/-- An operand that cannot be read shows in `leafShapeIssues`. -/
theorem mem_leafShapeIssues_of_error {cause : FieldValue.Unsupported}
    (h : w.operand = .error cause) :
    ⟨.root .value, .unsupportedValue cause⟩ ∈ leafShapeIssues op w := by
  rw [leafShapeIssues, h]
  exact List.mem_append_right _ (List.mem_singleton_self _)

omit [Pattern.Library] in
/-- An operand that can be read does not show in `leafShapeIssues`. -/
theorem place_of_mem_leafShapeIssues {v : FieldValue} (h : w.operand = .ok v) {i : Issue}
    (hi : i ∈ leafShapeIssues op w) : i.place ≠ .root .value := by
  rw [leafShapeIssues, h, List.append_nil, List.mem_append] at hi
  rcases hi with hi | hi <;> split at hi <;> simp_all [Place.root]

/-- **When a leaf tells of its operand**: `w.operand` cannot be read, or it does not suit `op` and
the leaf is sound apart from it. -/
theorem exists_invalidOperand_iff (hop : op.isLogical = false) :
    (∃ problem, ⟨.root .value, problem⟩ ∈ leafIssues patternSize op w
        ∧ problem.kind = .invalidOperand) ↔
      (∃ cause, w.operand = .error cause)
        ∨ w.conditions = none ∧ w.fieldName.isEmpty = false
          ∧ ∃ v, w.operand = .ok v ∧ ¬op.Suits patternSize v := by
  cases hoperand : w.operand with
  | error cause =>
    have hmem : ⟨.root .value, .unsupportedValue cause⟩ ∈ leafShapeIssues op w :=
      mem_leafShapeIssues_of_error hoperand
    rw [leafIssues_of_ne_nil (List.ne_nil_of_mem hmem)]
    exact ⟨fun _ => .inl ⟨cause, rfl⟩, fun _ => ⟨_, hmem, rfl⟩⟩
  | ok v =>
    by_cases hshape : leafShapeIssues op w = []
    · obtain ⟨hconditions, hfield, -⟩ := leafShapeIssues_eq_nil_iff.1 hshape
      rw [leafIssues, hshape, hoperand]
      cases hfault : operandFault? patternSize op v with
      | none => simp [← operandFault?_eq_none_iff hop, hfault]
      | some fault =>
        simp [← operandFault?_eq_none_iff hop, hfault, hconditions, hfield, Problem.kind]
    · rw [leafIssues_of_ne_nil hshape]
      constructor
      · rintro ⟨problem, hmem, -⟩
        exact absurd rfl (place_of_mem_leafShapeIssues hoperand hmem)
      · rintro (⟨cause, hcause⟩ | ⟨hconditions, hfield, -⟩)
        · exact absurd hcause (by simp)
        · exact absurd (leafShapeIssues_eq_nil_iff.2 ⟨hconditions, hfield, v, hoperand⟩) hshape

/-- What `w.issues` says of the node `n` that a check comes to is what `issuesWithin` finds at the
root of `n`. -/
theorem mem_issues_at_iff {limits : ValidationLimits} {n : WrittenCondition} {way : List Nat}
    (h : Reaches w way n) (hroom : way.length ≤ limits.maxDepth) {part : NodePart}
    {problem : Problem} :
    ⟨⟨way, part⟩, problem⟩ ∈ w.issues limits ↔
      ⟨.root part, problem⟩ ∈ issuesWithin limits (limits.maxDepth - way.length) n := by
  have hat : (⟨⟨way, part⟩, problem⟩ : Issue) = Issue.below way ⟨.root part, problem⟩ := by
    rw [Issue.below, Place.root, List.append_nil]
  have hbelow : ⟨⟨way, part⟩, problem⟩ ∈ w.issues limits ↔
      ⟨⟨way, part⟩, problem⟩ ∈ (w.issues limits).filter (Issue.isBelow way) := by
    simp [Issue.isBelow]
  have hinjective : Function.Injective (Issue.below way) := by
    rintro ⟨⟨a, _⟩, _⟩ ⟨⟨b, _⟩, _⟩ hab
    simp only [Issue.below, Issue.mk.injEq, Place.mk.injEq, List.append_cancel_left_eq] at hab
    obtain ⟨⟨rfl, rfl⟩, rfl⟩ := hab
    rfl
  rw [hbelow, issues, filter_issuesWithin h hroom, hat, List.mem_map_of_injective hinjective]

/-- **Which faulty operands are reported.** Let a check of `w` come to a leaf `n` whose operand
cannot be read or does not suit its operator `op`. Then an issue is reported at the leaf, whatever
is wrong with other nodes. It is reported at the value that the operand is invalid
(`invalidOperand`) if and only if the operand cannot be read, or the leaf has a field and no nodes
below. -/
theorem operand_reported_iff (limits : ValidationLimits) (w n : WrittenCondition) (way : List Nat)
    (op : Operator) (hreach : Reaches w way n) (hroom : way.length < limits.maxDepth)
    (hread : Operator.read? n.operator = some op) (hop : op.isLogical = false)
    (hfaulty : ¬∃ v, n.operand = .ok v ∧ op.Suits limits.patternSize v) :
    (∃ part problem, ⟨⟨way, part⟩, problem⟩ ∈ w.issues limits)
      ∧ ((∃ problem, ⟨⟨way, .value⟩, problem⟩ ∈ w.issues limits
            ∧ problem.kind = .invalidOperand) ↔
          (∃ cause, n.operand = .error cause)
            ∨ n.conditions = none ∧ n.fieldName.isEmpty = false) := by
  obtain ⟨room, hleft⟩ : ∃ room, limits.maxDepth - way.length = room + 1 :=
    ⟨limits.maxDepth - way.length - 1, by omega⟩
  have hat {part problem} : ⟨⟨way, part⟩, problem⟩ ∈ w.issues limits ↔
      ⟨.root part, problem⟩ ∈ leafIssues limits.patternSize op n := by
    rw [mem_issues_at_iff hreach (Nat.le_of_lt hroom), hleft, issuesWithin_of_leaf hread hop]
  simp only [hat]
  constructor
  · have hsome : leafIssues limits.patternSize op n ≠ [] := fun hnil =>
      hfaulty ((leafIssues_eq_nil_iff hop).1 hnil).2.2
    obtain ⟨⟨⟨way', part⟩, problem⟩, hi⟩ := List.exists_mem_of_ne_nil _ hsome
    obtain rfl : way' = [] := (isOwn_of_mem_leafIssues hi).1
    exact ⟨part, problem, hi⟩
  · rw [exists_invalidOperand_iff hop]
    cases hoperand : n.operand with
    | error cause => simp
    | ok v =>
      have hbad : ¬op.Suits limits.patternSize v := fun hsuits => hfaulty ⟨v, hoperand, hsuits⟩
      simp [hbad]

/-- Written rule with two leaves whose operands are no numbers. The first of them has no field. -/
def namelessRule : WrittenCondition :=
  ⟨none, "OR", none,
    some [⟨some " ", "GREATER_THAN", some (.text "high"), none⟩,
      ⟨some "risk", "GREATER_THAN", some (.text "high"), none⟩]⟩

theorem not_suits_high (patternSize : Nat) :
    ¬Operator.greaterThan.Suits patternSize (.text "high") :=
  show ¬(FieldValue.text "high").asNumber.isSome = true by decide +kernel

end Library

/-- Beside a leaf without a field, the operand of the second leaf is reported. -/
theorem operand_reported_besideNameless :
    let n : WrittenCondition := ⟨some "risk", "GREATER_THAN", some (.text "high"), none⟩
    Reaches namelessRule [1] n
      ∧ (¬∃ v, n.operand = .ok v
        ∧ Operator.greaterThan.Suits ValidationLimits.default.patternSize v)
      ∧ ∃ problem, ⟨⟨[1], .value⟩, problem⟩ ∈ namelessRule.issues .default
        ∧ problem.kind = .invalidOperand := by
  intro n
  have hreach : Reaches namelessRule [1] n := .down (by decide) rfl (.here n)
  have hfaulty : ¬∃ v, n.operand = .ok v
      ∧ Operator.greaterThan.Suits ValidationLimits.default.patternSize v := by
    rintro ⟨v, hv, hsuits⟩
    cases hv
    exact not_suits_high _ hsuits
  obtain ⟨-, hreported⟩ := operand_reported_iff .default namelessRule n [1] .greaterThan hreach
    (by decide) (by decide) rfl hfaulty
  exact ⟨hreach, hfaulty, hreported.2 (.inr ⟨rfl, by decide⟩)⟩

/-- **A faulty operand that is not reported**: at the first leaf of `namelessRule` the operand does
not suit the operator either, and only the missing field is told. -/
theorem operand_unreported_nameless :
    ∃ n, Reaches namelessRule [0] n
      ∧ Operator.read? n.operator = some .greaterThan
      ∧ n.operand = .ok (.text "high")
      ∧ ¬Operator.greaterThan.Suits ValidationLimits.default.patternSize (.text "high")
      ∧ (namelessRule.issues .default).map (fun i => (i.place.text, i.problem.message))
        = [("/conditions/0/field", "GREATER_THAN requires a non-empty field"),
          ("/conditions/1/value", "GREATER_THAN requires a numeric value, found string high")]
      ∧ ∀ i ∈ namelessRule.issues .default, i.place ≠ ⟨[0], .value⟩ :=
  ⟨_, .down (by decide) rfl (.here _), by decide, rfl, not_suits_high _, by decide +kernel,
    by decide +kernel⟩

end Governance.WrittenCondition
