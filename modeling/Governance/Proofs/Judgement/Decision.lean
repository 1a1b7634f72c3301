import Governance.Proofs.Judgement.Judged
import Governance.Proofs.Policy.Audit
import Governance.Pattern.Program

/-!
# What follows from a judgement

The decision about a policy, the violations of it and the trace of its conditions come from one
judgement, and say the same. A failure always has a leaf to name, through whatever AND, OR and NOT
the policy is made of; so nothing is blocked, and nobody is notified, without a violation on record.

* `exists_of_judge_violation`: a violation of an outcome has just been opened, for a leaf that the
  trace blames.
* `map_intent_decide`: a policy that is not kept sends its intents, each once and in their order.
* `judge_notification`: a notification speaks of the policy that was judged and of all violations.
* `judge_parts_agree`: all parts of an outcome in terms of each other.
-/

namespace Governance

/-- An action is `remediationTriggered` by the mode `remediate`, where it is automatic. -/
theorem EnforcementMode.action_eq_remediationTriggered_iff {autoRemediate : Bool}
    {mode : EnforcementMode} :
    mode.action autoRemediate = .remediationTriggered
      ↔ mode = .remediate ∧ autoRemediate = true := by
  cases mode <;> cases autoRemediate <;> decide

/-- The intent that the notification `n` was made from. -/
def Notification.intent (n : Notification) : ActionIntent := ⟨n.kind, n.params⟩

namespace Policy

variable {p : Policy} {assessmentId : AssessmentId} {passed : Bool} {violations : List Violation}

/-- When a policy `p` is not kept, `decide` sends its intents, as they are. -/
theorem map_intent_decide (p : Policy) (assessmentId : AssessmentId) (violations : List Violation) :
    (p.decide assessmentId false violations).notifications.map Notification.intent
      = p.content.onViolation := by
  show (p.content.onViolation.map (p.notification assessmentId violations)).map _ = _
  rw [List.map_map]
  exact List.map_id _

/-- Whatever `decide` sends was made from an intent of the policy. -/
theorem exists_of_mem_notifications {n : Notification}
    (h : n ∈ (p.decide assessmentId passed violations).notifications) :
    ∃ intent ∈ p.content.onViolation, n = p.notification assessmentId violations intent := by
  unfold decide at h
  split at h
  · exact absurd h List.not_mem_nil
  · obtain ⟨intent, hintent, hn⟩ := List.mem_map.1 h
    exact ⟨intent, hintent, hn.symm⟩

end Policy

namespace Engine

variable {e : Engine} {ids : IdSource} {now : Timestamp} {a : Assessment} {p : Policy} {o : Outcome}

section Library

variable [Pattern.Library]

/-- **Violations are opened for blamed leaves**: each `v` by `Violation.opened`, for a result `r`
among `o.trace.failingLeaves`. -/
theorem exists_of_judge_violation (h : e.judge ids now a p = .ok o) {v : Violation}
    (hv : v ∈ o.violations) :
    ∃ id, ∃ r ∈ o.trace.failingLeaves, v = Violation.opened id now (p.detection a.id r) := by
  obtain ⟨trace, -, rfl⟩ := judge_eq_ok_iff.1 h
  exact Policy.exists_of_mem_violations hv

/-- **Notifications go back to the policy**: what `n` says is said of `p`, and of the violations of
`o`. -/
theorem judge_notification (h : e.judge ids now a p = .ok o) {n : Notification}
    (hn : n ∈ o.decision.notifications) :
    n.policyId = p.id ∧ n.tenant = p.tenant ∧ n.assessmentId = a.id
      ∧ n.violationIds = o.violations.map Violation.id ∧ n.intent ∈ p.content.onViolation := by
  obtain ⟨trace, -, rfl⟩ := judge_eq_ok_iff.1 h
  obtain ⟨intent, hintent, rfl⟩ := Policy.exists_of_mem_notifications hn
  exact ⟨rfl, rfl, rfl, rfl, hintent⟩

/-- A policy is kept, by `o.passed`, when it has no violation. -/
theorem judge_passed_iff (h : e.judge ids now a p = .ok o) :
    o.passed = true ↔ o.violations = [] := by
  refine ⟨fun hpassed => (judge_of_passed h hpassed).1, fun hnone => ?_⟩
  cases hpassed : o.passed with
  | true => rfl
  | false => exact absurd hnone (judge_of_violated h hpassed).1

/-- The intents of a policy that is violated are sent, all of `p.content.onViolation`. -/
theorem judge_intents_of_violated (h : e.judge ids now a p = .ok o) (hviolated : o.passed = false) :
    o.decision.notifications.map Notification.intent = p.content.onViolation := by
  obtain ⟨trace, -, rfl⟩ := judge_eq_ok_iff.1 h
  have hfails : trace.passed = false := hviolated
  show (p.decide a.id trace.passed _).notifications.map _ = _
  rw [hfails]
  exact p.map_intent_decide a.id _

/-- **The parts of an outcome agree.** In the outcome `o` of judging `p` by `e.judge`, `o.passed`,
`o.decision.passed` and `o.trace.passed` give one answer. It is that `p` is kept if and only if
there is no violation, and then nothing is to be done and nobody is notified. Each of `o.violations`
has just been opened, for `p` as it is now and for the assessment `a`. A policy that is violated
sends a notification for each of its intents, in their order and with their types and parameters,
and each names all violations; it blocks if and only if its mode is to prevent, and triggers
remediation if and only if its mode is to remediate automatically. The clock of `e` is one for all
visits to leaves (`Evaluator.Steady`). -/
theorem judge_parts_agree (e : Engine) (ids : IdSource) (now : Timestamp) (a : Assessment)
    (p : Policy) (o : Outcome) (h : e.judge ids now a p = .ok o) :
    o.decision.passed = o.passed ∧ o.trace.passed = o.passed
      ∧ (o.passed = true ↔ o.violations = [])
      ∧ (o.passed = true → o.decision.action = .none ∧ o.decision.notifications = [])
      ∧ (∀ v ∈ o.violations,
        v.policyId = p.id ∧ v.policyVersion = p.version ∧ v.severity = p.content.severity
          ∧ v.tenant = p.tenant ∧ v.assessmentId = a.id ∧ v.status = .unresolved)
      ∧ (o.passed = false →
        o.decision.notifications.map (fun n => (n.kind, n.params))
            = p.content.onViolation.map (fun intent => (intent.kind, intent.params))
          ∧ (∀ n ∈ o.decision.notifications,
            n.policyId = p.id ∧ n.tenant = p.tenant ∧ n.assessmentId = a.id
              ∧ n.violationIds = o.violations.map Violation.id)
          ∧ (o.decision.action = .blocked ↔ p.content.enforcementMode = .prevent)
          ∧ (o.decision.action = .remediationTriggered
            ↔ p.content.enforcementMode = .remediate ∧ p.content.autoRemediate = true)) := by
  have hagree : o.decision.passed = o.passed ∧ o.trace.passed = o.passed := by
    obtain ⟨trace, -, rfl⟩ := judge_eq_ok_iff.1 h
    refine ⟨?_, rfl⟩
    show (p.decide a.id trace.passed _).passed = trace.passed
    unfold Policy.decide
    cases trace.passed <;> rfl
  refine ⟨hagree.1, hagree.2, judge_passed_iff h, fun hpassed => ?_, fun v hv => ?_,
    fun hviolated => ⟨?_, fun n hn => ?_, ?_, ?_⟩⟩
  · rw [(judge_of_passed h hpassed).2]
    exact ⟨rfl, rfl⟩
  · obtain ⟨id, r, -, rfl⟩ := exists_of_judge_violation h hv
    exact ⟨rfl, rfl, rfl, rfl, rfl, rfl⟩
  · rw [← judge_intents_of_violated h hviolated, List.map_map]
    rfl
  · obtain ⟨hid, htenant, hassessment, hids, -⟩ := judge_notification h hn
    exact ⟨hid, htenant, hassessment, hids⟩
  · rw [(judge_of_violated h hviolated).2, EnforcementMode.action_eq_blocked_iff]
  · rw [(judge_of_violated h hviolated).2, EnforcementMode.action_eq_remediationTriggered_iff]

/-- Rule that is remedied automatically and tells two parties. -/
def remedyRule : NewPolicy :=
  { Policy.oversightRule with
    content :=
      { Policy.oversightRule.content with
        enforcementMode := .remediate
        autoRemediate := true
        onViolation := [⟨"EMAIL", [("to", .text "dpo")]⟩, ⟨"TICKET", []⟩] } }

/-- Condition that there is an `industry`; it is asked for twice, and denied as a whole. -/
def deniedTwice : Condition :=
  .not (.and [.leaf ⟨"industry", .isNull, .null⟩, .leaf ⟨"industry", .isNull, .null⟩])

end Library

/-- In an assessment without an `industry` both leaves are blamed, one violation is opened, and both
parties are told of it. -/
theorem judge_parts_agree_deniedTwice :
    let p := Policy.initial ⟨Uuid.ofNat 1⟩ ⟨0, 0⟩ remedyRule deniedTwice
    let a := Assessment.bare ⟨⟨"system", by decide⟩⟩ p.tenant
    let e : Engine := ⟨.still, .default⟩
    ∃ o, e.judge ⟨Uuid.ofNat, 2⟩ ⟨0, 0⟩ a p = .ok o
      ∧ o.passed = false ∧ o.decision.passed = false ∧ o.trace.failingLeaves.length = 2
      ∧ (∃ v, o.violations = [v] ∧ v.policyId = p.id ∧ v.assessmentId = a.id
        ∧ v.status = .unresolved
        ∧ o.decision.notifications.map (fun n => (n.kind, n.params, n.violationIds))
          = [("EMAIL", [("to", .text "dpo")], [v.id]), ("TICKET", [], [v.id])])
      ∧ o.decision.action = .remediationTriggered := by
  intro p a e
  have hjudge : (e.judge ⟨Uuid.ofNat, 2⟩ ⟨0, 0⟩ a p).map (fun o =>
      (o.passed, o.trace.failingLeaves.length, o.violations.length)) = .ok (false, 2, 1) := by
    decide +kernel
  obtain ⟨o, ho, hcounts⟩ := map_eq_ok_iff.1 hjudge
  simp only [Prod.mk.injEq] at hcounts
  obtain ⟨hviolated, hleaves, hone⟩ := hcounts
  obtain ⟨v, hv⟩ : ∃ v, o.violations = [v] := List.length_eq_one_iff.1 hone
  obtain ⟨hdecision, -, -, -, hopened, hfollows⟩ := judge_parts_agree e _ _ a p o ho
  obtain ⟨hintents, htold, -, htriggered⟩ := hfollows hviolated
  obtain ⟨hid, -, -, -, hassessment, hstatus⟩ := hopened v (by simp [hv])
  refine ⟨o, ho, hviolated, hdecision.trans hviolated, hleaves,
    ⟨v, hv, hid, hassessment, hstatus, ?_⟩, htriggered.2 ⟨rfl, rfl⟩⟩
  have hids : ∀ n ∈ o.decision.notifications,
      (n.kind, n.params, n.violationIds) = (n.kind, n.params, [v.id]) := fun n hn => by
    rw [(htold n hn).2.2.2, hv]
    rfl
  have hlisted := congrArg (List.map fun k => (k.1, k.2, [v.id])) hintents
  rw [List.map_map] at hlisted
  rw [List.map_congr_left hids]
  exact hlisted

end Engine

end Governance
