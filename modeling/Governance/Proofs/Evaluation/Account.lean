import Governance.Proofs.Evaluation.Reasons
import Governance.Pattern.Program

/-!
# The account of an evaluation

A trace tells of the leaves that were visited: those that are reached from the left when a
conjunction is left after its first child that does not hold, and a disjunction after its first
child that does. It counts them, warns of those among them that erred, and of no other leaf, and
takes the failing leaves from them.

* `walk_visited_ne_nil`: every walk visits a leaf.
* `walk_error_warned`: a leaf that is named with an error left a warning.
* `evaluate_accounts`: what a trace says of the leaves that were visited.
-/

namespace Governance

namespace Setting

variable {s : Setting} {c : Condition} {depth : Nat} {f : Finding}

/-- A leaf in `f.reasons` is one of `c.visited s.reading`. -/
theorem leaf_mem_visited [Pattern.Library] (h : s.walk depth c = .ok f) {x : LeafResult}
    (hx : x ∈ f.reasons) : x.leaf ∈ c.visited s.reading :=
  (walk_account h).reasons.subset (List.mem_map_of_mem hx)

/-- Every `walk` visits a leaf, so `c.visited s.reading` is not empty. -/
theorem walk_visited_ne_nil [Pattern.Library] (h : s.walk depth c = .ok f) :
    c.visited s.reading ≠ [] := by
  obtain ⟨x, hx⟩ := List.exists_mem_of_ne_nil _ (walk_reasons_ne_nil h)
  exact List.ne_nil_of_mem (leaf_mem_visited h hx)

/-- **A leaf that is named with an error left a warning**: `x.error` is what its operator said, and
`f.warnings` warns of whatever was visited and erred. -/
theorem walk_error_warned [Pattern.Library] (h : s.walk depth c = .ok f) {x : LeafResult}
    (hx : x ∈ f.reasons) {message : String} (herror : x.error = some message) :
    ∃ e, e.message = message ∧ x.leaf.warning e ∈ f.warnings := by
  have hvisited := leaf_mem_visited h hx
  have hback := walk_backs h x hx
  generalize f.truth = truth at hback
  cases hback with
  | holding _ hnone _ => exact absurd (hnone.symm.trans herror) (by simp)
  | failing _ _ hnone _ => exact absurd (hnone.symm.trans herror) (by simp)
  | erring e _ hsome _ hreply =>
    refine ⟨e, Option.some.inj (hsome.symm.trans herror), ?_⟩
    rw [(walk_account h).warnings]
    exact List.mem_filterMap.2 ⟨x.leaf, hvisited, warning?_eq_some_iff.2 ⟨e, hreply, rfl⟩⟩

end Setting

namespace Condition

/-- **What a trace says of the leaves that were visited.** `t.leavesEvaluated` is the number of the
leaves `c.visited s.reading`, one at least and `c.leafCount` at most. `t.warnings` has one warning
for each of them that erred, with its field and operator and the code and message of its error, in
the order of the visits, whether `c` holds or not; and there are no others. The `t.failingLeaves`
are some of them, from left to right, and one that is given with an error has a warning with its
field and operator and that message. One `clock` serves every visit (`Evaluator.Steady`), so a leaf
errs at all its visits or at none. -/
theorem evaluate_accounts [Pattern.Library] (clock : Pattern.Clock) (limits : EvaluationLimits)
    (context : Context) (c : Condition) (t : Trace) (ht : c.evaluate clock limits context = .ok t) :
    let s := limits.setting clock context
    let visited := c.visited s.reading
    t.leavesEvaluated = visited.length
      ∧ (1 ≤ t.leavesEvaluated ∧ t.leavesEvaluated ≤ c.leafCount)
      ∧ t.warnings = visited.filterMap s.warning?
      ∧ (t.failingLeaves.map LeafResult.leaf).Sublist visited
      ∧ ∀ x ∈ t.failingLeaves, ∀ message, x.error = some message →
        ∃ w ∈ t.warnings, w.field = x.field ∧ w.operator = x.operator ∧ w.message = message := by
  intro s visited
  obtain ⟨f, hf, rfl⟩ := evaluate_eq_ok_iff.1 ht
  have haccount : s.Accounts visited f := Setting.walk_account hf
  have hcount : f.trace.leavesEvaluated = visited.length := haccount.visited
  have hsome : 0 < visited.length := List.length_pos_iff.2 (Setting.walk_visited_ne_nil hf)
  have hall : visited.length ≤ c.leafCount := (visited_sublist s.reading c).length_le
  refine ⟨hcount, by omega, haccount.warnings, ?_, fun x hx message hmessage => ?_⟩
  · by_cases hholds : f.truth = .holds
    · have hnone : f.trace.failingLeaves = [] := if_pos hholds
      rw [hnone]
      exact List.nil_sublist visited
    · have hreasons : f.trace.failingLeaves = f.reasons := if_neg hholds
      rw [hreasons]
      exact haccount.reasons
  · have hreason := (Finding.mem_failingLeaves_iff.1 hx).2
    obtain ⟨e, he, hwarned⟩ := Setting.walk_error_warned hf hreason hmessage
    exact ⟨x.leaf.warning e, hwarned, rfl, rfl, he⟩

/-- Condition with a low `risk` or an `industry`, no high `risk`, and `oversight`. -/
def industryRiskRule : Condition :=
  .and
    [.or [.leaf ⟨"risk", .lessThan, .text "3"⟩, .leaf ⟨"industry", .isNotNull, .null⟩],
     .not (.leaf ⟨"risk", .greaterThan, .text "7"⟩), .leaf ⟨"oversight", .isTrue, .null⟩]

/-- A `risk` that is no number is warned of twice: below the disjunction, which holds all the same,
and below the negation, at which the conjunction is left. The leaf on `oversight` is not visited. -/
theorem evaluate_accounts_industryRiskRule :
    let context := (Context.empty.insert "risk" (.text "high")).insert "industry" (.text "health")
    let s := EvaluationLimits.default.setting .still context
    ∃ t, industryRiskRule.evaluate .still .default context = .ok t
      ∧ industryRiskRule.visited s.reading
        = [⟨"risk", .lessThan, .text "3"⟩, ⟨"industry", .isNotNull, .null⟩,
          ⟨"risk", .greaterThan, .text "7"⟩]
      ∧ t.leavesEvaluated = 3 ∧ industryRiskRule.leafCount = 4
      ∧ t.warnings.map (fun w => (w.field, w.operator, w.code))
        = [("risk", .lessThan, "NOT_NUMERIC"), ("risk", .greaterThan, "NOT_NUMERIC")]
      ∧ t.failingLeaves.map LeafResult.leaf = [⟨"risk", .greaterThan, .text "7"⟩]
      ∧ ∀ x ∈ t.failingLeaves, ∀ message, x.error = some message →
        ∃ w ∈ t.warnings, w.field = x.field ∧ w.operator = x.operator ∧ w.message = message := by
  intro context s
  obtain ⟨t, ht⟩ : ∃ t, industryRiskRule.evaluate .still .default context = .ok t := ⟨_, rfl⟩
  obtain ⟨hcount, -, hwarnings, -, hwarned⟩ :=
    evaluate_accounts .still .default context industryRiskRule t ht
  have hvisited : industryRiskRule.visited s.reading
      = [⟨"risk", .lessThan, .text "3"⟩, ⟨"industry", .isNotNull, .null⟩,
        ⟨"risk", .greaterThan, .text "7"⟩] := rfl
  have hfailing : t.failingLeaves.map LeafResult.leaf = [⟨"risk", .greaterThan, .text "7"⟩] := by
    obtain rfl := Except.ok.inj ht
    rfl
  refine ⟨t, ht, hvisited, ?_, rfl, ?_, hfailing, hwarned⟩
  · rw [hcount, hvisited]
    rfl
  · rw [hwarnings, hvisited]
    rfl

end Condition

end Governance
