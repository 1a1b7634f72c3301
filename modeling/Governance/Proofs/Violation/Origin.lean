import Governance.Outcome
import Governance.Proofs.Evaluation.Walk

/-!
# Where violations come from

A violation goes back from the outcome that holds it to a result of the trace, and from there to a
leaf of the policy's conditions, through every AND, OR and NOT above the leaf.

* `leaf_mem_of_evaluate`: the leaves that a trace blames are leaves of the condition.
* `judge_violation`: a violation carries the names, version and severity of the policy that was
  judged, and a leaf of its conditions.
-/

namespace Governance

variable [Pattern.Library]

/-- **Blamed leaves are leaves**: each result in `t.failingLeaves` is about one of `c.leaves`. -/
theorem leaf_mem_of_evaluate {clock : Pattern.Clock} {limits : EvaluationLimits}
    {context : Context} {c : Condition} {t : Trace}
    (h : c.evaluate clock limits context = .ok t) {r : LeafResult} (hr : r ∈ t.failingLeaves) :
    r.leaf ∈ c.leaves := by
  obtain ⟨f, hf, rfl⟩ := Condition.evaluate_eq_ok_iff.1 h
  have hreason : r ∈ f.reasons := (Finding.mem_failingLeaves_iff.1 hr).2
  exact (Setting.walk_reasons_sublist hf).subset (List.mem_map_of_mem hreason)

namespace LeafResult

omit [Pattern.Library] in
theorem mem_of_mem_distinctAfter {seen results : List LeafResult} {r : LeafResult}
    (h : r ∈ distinctAfter seen results) : r ∈ results := by
  induction results generalizing seen with
  | nil => exact h
  | cons first rest ih =>
    unfold distinctAfter at h
    split at h
    · exact List.mem_cons_of_mem first (ih h)
    · rcases List.mem_cons.1 h with rfl | hrest
      · exact List.mem_cons_self
      · exact List.mem_cons_of_mem first (ih hrest)

end LeafResult

/-- The leaf that the violation `v` records. -/
def Violation.leaf (v : Violation) : Leaf := ⟨v.data.field, v.data.operator, v.data.expected⟩

namespace Policy

variable {p : Policy} {assessmentId : AssessmentId} {now : Timestamp} {ids : IdSource}

omit [Pattern.Library] in
theorem exists_of_mem_openAll {results : List LeafResult} {v : Violation}
    (h : v ∈ p.openAll assessmentId now ids results) :
    ∃ id, ∃ r ∈ results, v = Violation.opened id now (p.detection assessmentId r) := by
  induction results generalizing ids with
  | nil => exact absurd h List.not_mem_nil
  | cons r rest ih =>
    rw [openAll] at h
    rcases List.mem_cons.1 h with rfl | hrest
    · exact ⟨_, r, List.mem_cons_self, rfl⟩
    · obtain ⟨id, s, hs, hv⟩ := ih hrest
      exact ⟨id, s, List.mem_cons_of_mem r hs, hv⟩

omit [Pattern.Library] in
theorem exists_of_mem_violations {trace : Trace} {v : Violation}
    (h : v ∈ p.violations assessmentId now ids trace) :
    ∃ id, ∃ r ∈ trace.failingLeaves,
      v = Violation.opened id now (p.detection assessmentId r) := by
  obtain ⟨id, r, hr, hv⟩ := exists_of_mem_openAll h
  unfold violatedLeaves at hr
  split at hr
  · exact absurd hr List.not_mem_nil
  · exact ⟨id, r, LeafResult.mem_of_mem_distinctAfter hr, hv⟩

end Policy

namespace Engine

/-- **Violations go back to the policy**: what `v` says is said of `p` as it is now. -/
theorem judge_violation {e : Engine} {ids : IdSource} {now : Timestamp} {a : Assessment}
    {p : Policy} {o : Outcome} (h : e.judge ids now a p = .ok o) {v : Violation}
    (hv : v ∈ o.violations) :
    v.policyId = p.id ∧ v.tenant = p.tenant ∧ v.policyVersion = p.version
      ∧ v.severity = p.content.severity ∧ v.leaf ∈ p.content.conditions.leaves := by
  unfold judge judgeIn at h
  split at h
  · exact absurd h (by simp)
  · next trace htrace =>
    obtain rfl := Except.ok.inj h
    obtain ⟨id, r, hr, rfl⟩ := Policy.exists_of_mem_violations hv
    exact ⟨rfl, rfl, rfl, rfl, leaf_mem_of_evaluate htrace hr⟩

end Engine

end Governance
