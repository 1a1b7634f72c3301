import Governance.Config
import Governance.Proofs.Condition.Acceptance
import Governance.Proofs.Evaluation.Errors
import Governance.Pattern.Program

/-!
# Accepted conditions evaluate

Checking and evaluating are two walks that know nothing of each other: each counts depth and looks
operators up on its own. What joins them is that an operand in which `operandFault?` finds nothing
leaves its operator two ways to err, `EvaluationError.External`: a pattern runs out of time, or the
context gives no number to order.

* `external_of_judgement`: so it is for every operator.
* `evaluate_of_check`: an accepted condition is evaluated to the end, and all its warnings are of
  those two sorts.
-/

namespace Governance

open Number EvaluationError

/-! ### Operands without faults -/

section Library

variable [Pattern.Library]

/-- An operand `v` without a fault for an ordering `op` is a number. -/
theorem asNumber_of_operandFault? {patternSize : Nat} {op : Operator} {v : FieldValue}
    (h : operandFault? patternSize op v = none) (hop : op.isOrdering = true) :
    ∃ x, v.asNumber = some x := by
  unfold operandFault? at h
  split at h
  · exact absurd h (by simp)
  · split at h
    · exact absurd h (by simp)
    · next hnumber =>
      rw [hop, Bool.true_and, Bool.not_eq_true, Option.isNone_eq_false_iff] at hnumber
      exact Option.isSome_iff_exists.1 hnumber

/-- An operand `v` without a fault for `regexMatch` is a pattern that compiles. -/
theorem check_of_operandFault? {patternSize : Nat} {v : FieldValue}
    (h : operandFault? patternSize .regexMatch v = none) :
    ∃ pattern, v = .text pattern ∧ Pattern.check pattern patternSize = .ok () := by
  cases v with
  | text pattern =>
    refine ⟨pattern, rfl, ?_⟩
    rw [operandFault?, if_neg (by simp [FieldValue.isNull]), if_neg (by simp [Operator.isOrdering]),
      if_pos rfl] at h
    cases hcheck : Pattern.check pattern patternSize with
    | ok _ => rfl
    | error failure =>
      rw [hcheck] at h
      exact absurd h (by simp)
  | _ => exact absurd h (by simp [operandFault?, Operator.requiresOperand, Operator.group,
      FieldValue.isNull, Operator.isOrdering])

/-! ### What may go wrong -/

/-- An error for which the context or the clock is to blame, of the operator `op` that judges
`actual`. -/
inductive EvaluationError.External (budgetMs : Nat) (op : Operator) (actual : FieldValue) :
    EvaluationError → Prop
  | timeout (pattern : String) (hop : op = .regexMatch) :
      External budgetMs op actual (.pattern (.timeout pattern budgetMs))
  | context (hop : op.isOrdering = true) (hnumber : actual.asNumber = none) :
      External budgetMs op actual (.notNumeric op .context actual.kind actual.display)

omit [Pattern.Library] in
/-- By an `expected` that is a number, `ordering` errs on the side of the context only. -/
theorem external_of_ordering {budgetMs : Nat} {op : Operator} {holds : Binary64 → Binary64 → Bool}
    {actual expected : FieldValue} {e : EvaluationError} (hop : op.isOrdering = true)
    (hexpected : ∃ x, expected.asNumber = some x)
    (he : ordering op holds actual expected = .error e) : External budgetMs op actual e := by
  obtain ⟨x, hx⟩ := hexpected
  unfold ordering numericPair at he
  cases hactual : actual.asNumber with
  | none =>
    rw [hactual] at he
    obtain rfl := Except.error.inj he
    exact .context hop hactual
  | some a =>
    rw [hactual, hx] at he
    exact absurd he (by simp [Except.map])

/-- By a pattern that compiles, `matchesPattern` can only run out of time. -/
theorem external_of_matchesPattern {env : Surroundings} {actual expected : FieldValue}
    {e : EvaluationError}
    (hexpected : ∃ pattern, expected = .text pattern
      ∧ Pattern.check pattern env.limits.sizeLimit = .ok ())
    (he : matchesPattern env actual expected = .error e) :
    External env.limits.budgetMs .regexMatch actual e := by
  obtain ⟨pattern, rfl, hcheck⟩ := hexpected
  simp only [matchesPattern] at he
  split at he
  · exact absurd he (by simp)
  · split at he
    · exact absurd he (by simp)
    · next failure hfailure =>
      obtain rfl := Except.error.inj he
      rw [Pattern.matchWithin_of_check hcheck hfailure]
      exact .timeout pattern rfl

/-- **Checked operands are safe.** Whatever the operator `op`, its `judgement` errs only through the
context or the clock once `operandFault?` has found nothing. -/
theorem external_of_judgement {env : Surroundings} {op : Operator} {judgement : Judgement}
    {actual expected : FieldValue} {e : EvaluationError}
    (hop : op.judgement? = some judgement)
    (hfault : operandFault? env.limits.sizeLimit op expected = none)
    (he : judgement env actual expected = .error e) :
    External env.limits.budgetMs op actual e := by
  by_cases hordering : op.isOrdering = true
  · have hexpected := asNumber_of_operandFault? hfault hordering
    cases op with
    | greaterThan | lessThan | greaterThanOrEqual | lessThanOrEqual =>
      obtain rfl := Option.some.inj hop
      exact external_of_ordering hordering hexpected he
    | _ => exact absurd hordering (by decide)
  by_cases hregex : op = .regexMatch
  · subst hregex
    obtain rfl := Option.some.inj hop
    exact external_of_matchesPattern (check_of_operandFault? hfault) he
  -- The other operators have an answer for every pair of values.
  cases op with
  | greaterThan | lessThan | greaterThanOrEqual | lessThanOrEqual => exact absurd rfl hordering
  | regexMatch => exact absurd rfl hregex
  | and | or | not => exact absurd hop (by simp [Operator.judgement?])
  | _ =>
    obtain rfl := Option.some.inj hop
    exact absurd he (by simp)

theorem Setting.external_of_reply {s : Setting} {l : Leaf} {e : EvaluationError}
    (hfault : operandFault? s.surroundings.limits.sizeLimit l.operator l.value = none)
    (he : s.reply l = some (.error e)) :
    External s.surroundings.limits.budgetMs l.operator (s.context.valueOf l.field) e := by
  obtain ⟨judgement, hop, hanswer⟩ := Option.map_eq_some_iff.1 he
  unfold Setting.answer at hanswer
  split at hanswer
  · exact absurd hanswer (by simp)
  · exact external_of_judgement hop hfault hanswer

end Library

namespace EvaluationError

/-! ### What warnings show -/

/-- Messages of `notNumeric` tell the sides `context` and `operand` apart. -/
theorem message_context_ne_operand (op : Operator) (kind value kind' value' : String) :
    (notNumeric op .context kind value).message
      ≠ (notNumeric op .operand kind' value').message := by
  intro h
  simp only [message, Side.label, String.append_assoc, String.append_right_inj] at h
  exact absurd (congrArg (fun s => s.toList.head?) h) (by simp [String.toList_append])

/-- No operator's `label` begins like the message of a pattern that fails. -/
theorem exists_toList_label (op : Operator) :
    ∃ c cs, op.label.toList = c :: cs ∧ c ≠ 'p' := by
  cases op <;> exact ⟨_, _, rfl, by decide⟩

/-- No `timeout` reads like an operand that is no number. -/
theorem message_timeout_ne_operand (pattern : String) (budgetMs : Nat) (op : Operator)
    (kind value : String) :
    (EvaluationError.pattern (.timeout pattern budgetMs)).message
      ≠ (notNumeric op .operand kind value).message := by
  intro h
  obtain ⟨c, cs, hlabel, hc⟩ := exists_toList_label op
  simp only [message, Pattern.Failure.message, String.append_assoc] at h
  have hhead := congrArg (fun s => s.toList.head?) h
  simp only [String.toList_append, hlabel, List.cons_append, List.head?_cons] at hhead
  exact hc (Option.some.inj hhead).symm

namespace External

variable {budgetMs : Nat} {op : Operator} {actual : FieldValue} {e : EvaluationError}
  (h : External budgetMs op actual e)
include h

theorem code_eq :
    e.code = "REGEX_TIMEOUT"
      ∨ e.code = "NOT_NUMERIC"
        ∧ e.message = (notNumeric op .context actual.kind actual.display).message := by
  cases h with
  | timeout pattern hop => exact .inl rfl
  | context hop hnumber => exact .inr ⟨rfl, rfl⟩

theorem code_not_mem : e.code ∉ ["INVALID_PATTERN", "PATTERN_TOO_COMPLEX", "INVALID_OPERAND"] := by
  rcases h.code_eq with hcode | ⟨hcode, -⟩
  · rw [hcode]
    decide
  · rw [hcode]
    decide

theorem message_ne_operand (kind value : String) :
    e.message ≠ (notNumeric op .operand kind value).message := by
  cases h with
  | timeout pattern hop => exact message_timeout_ne_operand pattern budgetMs op kind value
  | context hop hnumber => exact message_context_ne_operand op _ _ kind value

end External

end EvaluationError

namespace Condition

/-- **Validation makes evaluation safe.** Under the limits of one `cfg`, a condition that `w.check`
accepts is evaluated to the end against every `context`, and each of `t.warnings` reports either a
pattern that ran out of time or a value of the context that is no number. -/
theorem evaluate_of_check [Pattern.Library] (cfg : Config) (w : WrittenCondition) (c : Condition)
    (h : w.check cfg.validationLimits = .ok c) (clock : Pattern.Clock) (context : Context) :
    ∃ t, c.evaluate clock cfg.evaluationLimits context = .ok t
      ∧ ∀ x ∈ t.warnings,
        (x.code = "REGEX_TIMEOUT"
          ∨ x.code = "NOT_NUMERIC"
            ∧ x.message = (notNumeric x.operator .context (context.valueOf x.field).kind
                (context.valueOf x.field).display).message)
        ∧ x.code ∉ ["INVALID_PATTERN", "PATTERN_TOO_COMPLEX", "INVALID_OPERAND"]
        ∧ ∀ kind value, x.message ≠ (notNumeric x.operator .operand kind value).message := by
  have hc := WrittenCondition.accepted_of_check h
  have hd : c.depth ≤ cfg.evaluationLimits.maxDepth := hc.depth_le
  obtain ⟨f, hf, ht⟩ := evaluate_isOk clock context hc.isWellFormed hd
  refine ⟨f.trace, ht, fun x hx => ?_⟩
  obtain ⟨l, hl, e, he, rfl⟩ := Setting.walk_warning hf hx
  -- The two sets of limits are read from the same two numbers of the configuration.
  have hfault : operandFault? cfg.regexSizeLimit l.operator l.value = none := hc.operands l hl
  have hexternal : External cfg.regexBudgetMs l.operator (context.valueOf l.field) e :=
    Setting.external_of_reply (s := cfg.evaluationLimits.setting clock context) hfault he
  exact ⟨hexternal.code_eq, hexternal.code_not_mem, hexternal.message_ne_operand⟩

/-- Condition with a low `risk`, and a `release` that a pattern matches. -/
def writtenReleaseRule : WrittenCondition :=
  ⟨none, "AND", none, some
    [⟨some "risk", "LESS_THAN", some (.float .zero), none⟩,
     ⟨some "release", "REGEX_MATCH", some (.text "rc"), none⟩]⟩

/-- A `risk` that is no number leaves a warning about the context. -/
theorem evaluate_of_check_writtenReleaseRule :
    ∃ c, writtenReleaseRule.check Config.default.validationLimits = .ok c
      ∧ ∃ t, c.evaluate .still Config.default.evaluationLimits
          (Context.empty.insert "risk" (.text "none")) = .ok t
        ∧ t.warnings.map Warning.code = ["NOT_NUMERIC"]
        ∧ ∀ x ∈ t.warnings,
          x.code ∉ ["INVALID_PATTERN", "PATTERN_TOO_COMPLEX", "INVALID_OPERAND"] := by
  have hcheck : writtenReleaseRule.check Config.default.validationLimits
      = .ok (.and [.leaf ⟨"risk", .lessThan, .number .zero⟩,
          .leaf ⟨"release", .regexMatch, .text "rc"⟩]) := by rfl
  refine ⟨_, hcheck, ?_⟩
  obtain ⟨t, ht, hsafe⟩ := evaluate_of_check Config.default writtenReleaseRule _ hcheck .still
    (Context.empty.insert "risk" (.text "none"))
  refine ⟨t, ht, ?_, fun x hx => (hsafe x hx).2.1⟩
  obtain rfl := Except.ok.inj ht
  rfl

end Condition

end Governance
