import Governance.Proofs.Violation.Origin

/-!
# The outcome of one judgement

Judging a policy mints identifiers and reads a clock. Apart from that its outcome depends on the
policy, the assessment and the limits only, and its parts agree: a policy that is kept has no
violation and asks for nothing, and a policy that is not kept has at least one.

* `judge_of_passed`, `judge_of_violated`: what goes with either answer.
* `judge_unminted`: the minted parts aside, a judgement is the same whenever it is made.
-/

namespace Governance

/-! ### Violated leaves -/

theorem LeafResult.distinct_ne_nil {results : List LeafResult} (h : results ≠ []) :
    distinct results ≠ [] := by
  cases results with
  | nil => exact absurd rfl h
  | cons r rest => exact List.cons_ne_nil _ _

section Evaluation

variable {clock : Pattern.Clock} {limits : EvaluationLimits} {context : Context} {c : Condition}
  {t : Trace}

variable [Pattern.Library]

/-- A trace `t` of a condition that holds blames nothing, so whether it holds need not be asked
before `failingLeaves`. -/
theorem violatedLeaves_of_evaluate (h : c.evaluate clock limits context = .ok t) :
    Policy.violatedLeaves t = LeafResult.distinct t.failingLeaves := by
  obtain ⟨f, -, rfl⟩ := Condition.evaluate_eq_ok_iff.1 h
  unfold Policy.violatedLeaves
  split
  · next hpassed =>
    have hnone : f.trace.failingLeaves = [] := if_pos (eq_of_beq hpassed)
    rw [hnone]
    rfl
  · rfl

/-- **A failure has its leaves**: `violatedLeaves` of a trace that fails is not empty. -/
theorem violatedLeaves_ne_nil (h : c.evaluate clock limits context = .ok t)
    (hfails : t.passed = false) : Policy.violatedLeaves t ≠ [] := by
  rw [violatedLeaves_of_evaluate h]
  obtain ⟨f, hf, rfl⟩ := Condition.evaluate_eq_ok_iff.1 h
  rw [Finding.failingLeaves_of_fails hfails]
  exact LeafResult.distinct_ne_nil (Setting.walk_reasons_ne_nil hf)

end Evaluation

namespace Engine

variable {e : Engine} {ids : IdSource} {now : Timestamp} {a : Assessment} {p : Policy} {o : Outcome}

/-! ### Agreement of the parts -/

variable [Pattern.Library]

theorem judge_eq_ok_iff :
    e.judge ids now a p = .ok o ↔
      ∃ trace, p.content.conditions.evaluate e.clock e.limits a.context = .ok trace
        ∧ o =
          { policyId := p.id
            policyVersion := p.version
            passed := trace.passed
            violations := p.violations a.id now ids trace
            decision := p.decide a.id trace.passed (p.violations a.id now ids trace)
            trace := trace } := by
  unfold judge judgeIn
  cases p.content.conditions.evaluate e.clock e.limits a.context with
  | error cause => simp
  | ok trace => simp [eq_comm]

/-- When `o.passed`, a policy has no violation, and its decision is `pass`. -/
theorem judge_of_passed (h : e.judge ids now a p = .ok o) (hpassed : o.passed = true) :
    o.violations = [] ∧ o.decision = .pass := by
  obtain ⟨trace, -, rfl⟩ := judge_eq_ok_iff.1 h
  have htrace : trace.passed = true := hpassed
  constructor
  · show p.openAll a.id now ids (Policy.violatedLeaves trace) = []
    rw [Policy.violatedLeaves, if_pos htrace]
    rfl
  · show p.decide a.id trace.passed _ = .pass
    rw [Policy.decide, if_pos htrace]

/-- **A policy that is not kept has a violation**, and its `enforcementMode` says what follows. -/
theorem judge_of_violated (h : e.judge ids now a p = .ok o) (hviolated : o.passed = false) :
    o.violations ≠ []
      ∧ o.decision.action = p.content.enforcementMode.action p.content.autoRemediate := by
  obtain ⟨trace, htrace, rfl⟩ := judge_eq_ok_iff.1 h
  have hfails : trace.passed = false := hviolated
  constructor
  · intro hnil
    have hlength := p.length_openAll a.id now ids (Policy.violatedLeaves trace)
    have hnone : p.openAll a.id now ids (Policy.violatedLeaves trace) = [] := hnil
    rw [hnone] at hlength
    exact violatedLeaves_ne_nil htrace hfails (List.length_eq_zero_iff.1 hlength.symm)
  · show (p.decide a.id trace.passed _).action = _
    rw [Policy.decide, if_neg (by rw [hfails]; decide)]

end Engine

/-! ### Minted parts -/

/-- Stands in for an identifier that is minted. -/
def ViolationId.blank : ViolationId := ⟨Uuid.ofNat 0⟩

/-- The violation `v` without its own identifier and the time of its detection. -/
def Violation.unminted (v : Violation) : Violation :=
  { v with
    id := .blank
    detectedAt := ⟨0, 0⟩ }

/-- A notification `n` that tells how many violations it is about, but not their identifiers. -/
def Notification.unminted (n : Notification) : Notification :=
  { n with violationIds := n.violationIds.map fun _ => .blank }

def Decision.unminted (d : Decision) : Decision :=
  { d with notifications := d.notifications.map Notification.unminted }

/-- The outcome `o` without what was minted for it. -/
def Outcome.unminted (o : Outcome) : Outcome :=
  { o with
    violations := o.violations.map Violation.unminted
    decision := o.decision.unminted }

namespace Policy

theorem openAll_unminted (p : Policy) (assessmentId : AssessmentId) (now : Timestamp)
    (ids : IdSource) (results : List LeafResult) :
    (p.openAll assessmentId now ids results).map Violation.unminted
      = results.map fun r => Violation.opened .blank ⟨0, 0⟩ (p.detection assessmentId r) := by
  induction results generalizing ids with
  | nil => rfl
  | cons r rest ih =>
    rw [openAll, List.map_cons, ih]
    rfl

theorem decide_unminted (p : Policy) (assessmentId : AssessmentId) (passed : Bool)
    (violations : List Violation) :
    (p.decide assessmentId passed violations).unminted
      = (p.decide assessmentId passed (violations.map Violation.unminted)).unminted := by
  unfold decide
  split
  · rfl
  · have hnotification : Notification.unminted ∘ p.notification assessmentId violations
        = Notification.unminted
          ∘ p.notification assessmentId (violations.map Violation.unminted) := by
      funext intent
      simp [Notification.unminted, notification, Function.comp_def]
    simp only [Decision.unminted, List.map_map, hnotification]

end Policy

variable [Pattern.Library]

/-- **A judgement is the same whenever it is made**, the minted parts aside: `judge` does not depend
on `ids` and `now`. -/
theorem Engine.judge_unminted (e : Engine) (a : Assessment) (p : Policy) (ids later : IdSource)
    (now then' : Timestamp) :
    (e.judge ids now a p).map Outcome.unminted
      = (e.judge later then' a p).map Outcome.unminted := by
  unfold judge judgeIn
  cases p.content.conditions.evaluate e.clock e.limits a.context with
  | error cause => rfl
  | ok trace =>
    have hviolations : (p.violations a.id now ids trace).map Violation.unminted
        = (p.violations a.id then' later trace).map Violation.unminted := by
      rw [Policy.violations, Policy.violations, Policy.openAll_unminted, Policy.openAll_unminted]
    have hdecision : (p.decide a.id trace.passed (p.violations a.id now ids trace)).unminted
        = (p.decide a.id trace.passed (p.violations a.id then' later trace)).unminted := by
      rw [Policy.decide_unminted, hviolations, ← Policy.decide_unminted]
    simp only [Except.map, Outcome.unminted, hviolations, hdecision]

/-- So an answer `o`, once given, is given `again`. -/
theorem Engine.exists_judge_again {e : Engine} {ids : IdSource} {now : Timestamp} {a : Assessment}
    {p : Policy} {o : Outcome} (h : e.judge ids now a p = .ok o) (later : IdSource)
    (then' : Timestamp) :
    ∃ again, e.judge later then' a p = .ok again ∧ again.passed = o.passed := by
  have hsame := e.judge_unminted a p later ids then' now
  rw [h] at hsame
  obtain ⟨again, hagain, hunminted⟩ := map_eq_ok_iff.1 hsame
  have hpassed : again.unminted.passed = o.unminted.passed := congrArg Outcome.passed hunminted
  exact ⟨again, hagain, hpassed⟩

end Governance
