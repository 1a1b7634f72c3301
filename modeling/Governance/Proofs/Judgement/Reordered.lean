import Governance.Proofs.Judgement.Decision
import Governance.Proofs.Judgement.Owned
import Governance.Pattern.Program

/-!
# The order of the policies does not matter

A bulk result is the same, the minted parts aside, in whatever order the policies come, as long as
no two of them share an identifier. Counts and the strongest action do not depend on an order at
all. Violations are sorted by severity and policy, and those of one policy come from one judgement,
in which they have their own order.

* `Judged.Coherent.unminted`: what holds of a judgement holds of it without its minted parts.
* `Tally.Sums.mergeSort_violations_eq`: the order of violations does not go back to that of
  policies.
* `judgeAll_reordered`: every part of a bulk result, for any two orders of the policies.
-/

namespace Governance

/-- There is one `Strongest` action, whatever the order. -/
theorem EnforcementAction.Strongest.eq_of_perm {as bs : List EnforcementAction}
    {a b : EnforcementAction} (ha : Strongest as a) (hb : Strongest bs b) (hperm : as.Perm bs) :
    a = b := by
  have hle {as bs : List EnforcementAction} {a b : EnforcementAction} (ha : Strongest as a)
      (hb : Strongest bs b) (hperm : as.Perm bs) : a.strength ≤ b.strength := by
    rcases ha.mem with rfl | hmem
    · exact Nat.zero_le _
    · exact hb.le a (hperm.mem_iff.1 hmem)
  have hsame : a.strength = b.strength :=
    Nat.le_antisymm (hle ha hb hperm) (hle hb ha hperm.symm)
  cases a <;> cases b <;> first | rfl | exact absurd hsame (by decide)

namespace Judged

/-- What is minted has no part in `Coherent`. -/
theorem Coherent.unminted {j : Judged} (h : j.Coherent) : j.unminted.Coherent := by
  obtain ⟨p, judgement⟩ := j
  cases judgement with
  | error e => exact h
  | ok o =>
    constructor
    · intro hpassed
      obtain ⟨hviolations, hnotifications, haction⟩ := h.kept hpassed
      exact ⟨by rw [violations_unminted, hviolations]; rfl,
        by rw [notifications_unminted, hnotifications]; rfl, haction⟩
    · intro hviolated hnone
      rw [violations_unminted, List.map_eq_nil_iff] at hnone
      exact h.violated hviolated hnone
    · intro v hv
      rw [violations_unminted] at hv
      obtain ⟨w, hw, rfl⟩ := List.mem_map.1 hv
      exact h.policyId w hw
    · exact h.action

end Judged

/-- Whether a violation `isOf` a severity and a policy is two questions. -/
theorem Violation.filter_isOf (severity : Severity) (policyId : PolicyId) (vs : List Violation) :
    vs.filter (isOf severity policyId)
      = (vs.filter fun v => v.policyId = policyId).filter fun v => v.severity = severity := by
  rw [List.filter_filter]
  refine List.filter_congr fun v _ => ?_
  rw [isOf, Bool.decide_and]

namespace Tally.Sums

variable {xs ys : List Judged} {t u : Tally}

/-- **The order of violations does not go back to that of policies**: sorted by `inOrder`, those of
`t` and of `u` are one list. -/
theorem mergeSort_violations_eq (ht : Sums xs t) (hu : Sums ys u) (hperm : xs.Perm ys)
    (hids : (xs.map fun j => j.1.id).Nodup) (hxs : ∀ j ∈ xs, j.Coherent) :
    t.violations.mergeSort inOrder = u.violations.mergeSort inOrder := by
  have hsorted := stablySorted_mergeSort t.violations
  have hsorted' := stablySorted_mergeSort u.violations
  refine StablySorted.eq_of_ordered hsorted.ordered hsorted'.ordered fun severity policyId => ?_
  have hsame : t.violations.filter (fun v => v.policyId = policyId)
      = u.violations.filter (fun v => v.policyId = policyId) := by
    rw [ht.violations, hu.violations]
    exact filter_flatMap_eq_of_perm hperm hids (fun j hj => (hxs j hj).policyId) policyId
  rw [hsorted.stable, hsorted'.stable, Violation.filter_isOf, Violation.filter_isOf, hsame]

/-- What is counted, and the strongest action, have no order; lists come in the order of the
policies `xs` or `ys`. -/
theorem agree_of_perm (ht : Sums xs t) (hu : Sums ys u) (hperm : xs.Perm ys) :
    t.passed = u.passed ∧ t.failed = u.failed ∧ t.errored = u.errored ∧ t.action = u.action
      ∧ t.errors.Perm u.errors ∧ t.notifications.Perm u.notifications := by
  refine ⟨?_, ?_, ?_, ht.action.eq_of_perm hu.action (hperm.filterMap _), ?_, ?_⟩
  · rw [ht.passed, hu.passed, hperm.countP_eq]
  · rw [ht.failed, hu.failed, hperm.countP_eq]
  · rw [ht.errored, hu.errored, hperm.countP_eq]
  · rw [ht.errors, hu.errors]
    exact hperm.filterMap _
  · rw [ht.notifications, hu.notifications]
    exact hperm.flatMap_right _

/-- The policies in `preventing`, those that prevent and are violated, are the same. -/
theorem contains_preventing_eq (ht : Sums xs t) (hu : Sums ys u) (hperm : xs.Perm ys)
    (policyId : PolicyId) : t.preventing.contains policyId = u.preventing.contains policyId := by
  have hlists : t.preventing.Perm u.preventing := by
    rw [ht.preventing, hu.preventing]
    exact (List.reverse_perm _).trans (((hperm.filter _).map _).trans (List.reverse_perm _).symm)
  rw [Bool.eq_iff_iff, List.contains_iff_mem, List.contains_iff_mem]
  exact hlists.mem_iff

end Tally.Sums

section Library

variable [Pattern.Library]

/-- **The order of the policies does not matter.** Let `policies`, no two of which share an
identifier, and the same policies `reordered` be judged by `judgeAll`, at two times and with
identifiers of their own. Both results have the same counts, the same status, the same action and
the same number of blocking violations. Minted parts aside (`unminted`), they have the same
violations at the same places, and each other's notifications. They list the same policies that
could not be judged. -/
theorem Engine.judgeAll_reordered (e : Engine) (a : Assessment) (policies reordered : List Policy)
    (hperm : policies.Perm reordered) (hids : (policies.map Policy.id).Nodup)
    (ids later : IdSource) (now then' : Timestamp) :
    let b := e.judgeAll ids now a policies
    let c := e.judgeAll later then' a reordered
    b.evaluatedPolicies = c.evaluatedPolicies ∧ b.passedPolicies = c.passedPolicies
      ∧ b.failedPolicies = c.failedPolicies ∧ b.erroredPolicies = c.erroredPolicies
      ∧ b.overallStatus = c.overallStatus ∧ b.enforcementAction = c.enforcementAction
      ∧ b.blockingViolations = c.blockingViolations
      ∧ b.violations.map Violation.unminted = c.violations.map Violation.unminted
      ∧ b.errors.Perm c.errors
      ∧ (b.notifications.map Notification.unminted).Perm
        (c.notifications.map Notification.unminted) := by
  intro b c
  let xs := (policies.filter Policy.isActive).map (e.judgeUnminted a)
  let ys := (reordered.filter Policy.isActive).map (e.judgeUnminted a)
  have hactive : (policies.filter Policy.isActive).Perm (reordered.filter Policy.isActive) :=
    hperm.filter _
  have hxy : xs.Perm ys := hactive.map _
  have hcoherent (ps : List Policy) : ∀ j ∈ ps.map (e.judgeUnminted a), j.Coherent := by
    intro j hj
    obtain ⟨p, -, rfl⟩ := List.mem_map.1 hj
    exact (e.coherent_judge _ _ a p).unminted
  have ht : Tally.Sums xs (Tally.ofJudged xs) := Tally.sums_ofJudged (hcoherent _)
  have hu : Tally.Sums ys (Tally.ofJudged ys) := Tally.sums_ofJudged (hcoherent _)
  have hnodup : (xs.map fun j => j.1.id).Nodup := by
    have hmap : xs.map (fun j => j.1.id) = (policies.filter Policy.isActive).map Policy.id := by
      rw [List.map_map]
      rfl
    rw [hmap]
    exact hids.sublist (List.filter_sublist.map _)
  obtain ⟨hpassed, hfailed, herrored, haction, herrors, hnotifications⟩ := ht.agree_of_perm hu hxy
  have hviolations := ht.mergeSort_violations_eq hu hxy hnodup (hcoherent _)
  -- The parts of the results are compared where nothing is minted.
  have hb : b.unminted = (Tally.ofJudged xs).result a.id _ :=
    e.judgeAll_unminted_eq a policies ids now
  have hc : c.unminted = (Tally.ofJudged ys).result a.id _ :=
    e.judgeAll_unminted_eq a reordered later then'
  have hsorted : b.violations.map Violation.unminted = c.violations.map Violation.unminted :=
    (congrArg BulkResult.violations hb).trans
      (hviolations.trans (congrArg BulkResult.violations hc).symm)
  have hcount (r : BulkResult) : r.blockingViolations = r.unminted.blockingViolations :=
    (List.length_map _).symm
  refine ⟨?_, ?_, ?_, ?_, ?_, ?_, ?_, hsorted, ?_, ?_⟩
  · show b.unminted.evaluatedPolicies = c.unminted.evaluatedPolicies
    rw [hb, hc]
    exact hactive.length_eq
  · show b.unminted.passedPolicies = c.unminted.passedPolicies
    rw [hb, hc]
    exact hpassed
  · show b.unminted.failedPolicies = c.unminted.failedPolicies
    rw [hb, hc]
    exact hfailed
  · show b.unminted.erroredPolicies = c.unminted.erroredPolicies
    rw [hb, hc]
    exact herrored
  · have hlength := congrArg List.isEmpty hsorted
    rw [List.isEmpty_map, List.isEmpty_map] at hlength
    rw [BulkResult.overallStatus, BulkResult.overallStatus, hlength]
  · show b.unminted.enforcementAction = c.unminted.enforcementAction
    rw [hb, hc]
    exact haction
  · rw [hcount b, hcount c, hb, hc]
    simp only [BulkResult.blockingViolations, Tally.result, hviolations,
      ht.contains_preventing_eq hu hxy]
  · show b.unminted.errors.Perm c.unminted.errors
    rw [hb, hc]
    exact herrors
  · show b.unminted.notifications.Perm c.unminted.notifications
    rw [hb, hc]
    exact hnotifications

end Library

/-- Two violated policies, of which the more severe one prevents, and one that cannot be judged,
from the first to the last and back again. -/
theorem Engine.judgeAll_reordered_threeRules :
    let rule (n : Nat) (severity : Severity) (mode : EnforcementMode) (c : Condition) : Policy :=
      Policy.initial ⟨Uuid.ofNat n⟩ ⟨0, 0⟩
        { remedyRule with
          content := { remedyRule.content with severity := severity, enforcementMode := mode } } c
    let mild := rule 1 .low .detect deniedTwice
    let grave := rule 2 .critical .prevent deniedTwice
    let broken := rule 3 .high .detect (.and [])
    let a := Assessment.bare ⟨⟨"system", by decide⟩⟩ remedyRule.tenant
    let e : Engine := ⟨.still, .default⟩
    let b := e.judgeAll ⟨Uuid.ofNat, 4⟩ ⟨0, 0⟩ a [mild, grave, broken]
    let c := e.judgeAll ⟨Uuid.ofNat, 9⟩ ⟨7, 0⟩ a [broken, grave, mild]
    [mild, grave, broken].Perm [broken, grave, mild]
      ∧ ([mild, grave, broken].map Policy.id).Nodup
      ∧ b.failedPolicies = 2 ∧ c.failedPolicies = 2 ∧ b.erroredPolicies = c.erroredPolicies
      ∧ b.blockingViolations = 1 ∧ c.blockingViolations = 1
      ∧ b.violations.map Violation.policyId = [grave.id, mild.id]
      ∧ b.violations.map Violation.unminted = c.violations.map Violation.unminted
      ∧ b.errors.Perm c.errors ∧ b.notifications.length = 4 := by
  intro rule mild grave broken a e b c
  let t := Tally.ofJudged
    (e.judgeEach ⟨7, 0⟩ a.id a.context ⟨Uuid.ofNat, 9⟩ [broken, grave, mild])
  have hc : c = t.result a.id 3 := e.judgeAll_eq _ _ a [broken, grave, mild]
  have hordered : c.violations = t.violations := by
    rw [hc]
    exact List.mergeSort_of_pairwise (by decide +kernel)
  have hperm : [mild, grave, broken].Perm [broken, grave, mild] :=
    (List.reverse_perm [mild, grave, broken]).symm
  have hids : ([mild, grave, broken].map Policy.id).Nodup := by decide +kernel
  obtain ⟨-, -, hfailed, herrored, -, -, hblocking, hviolations, herrors, -⟩ :=
    judgeAll_reordered e a _ _ hperm hids ⟨Uuid.ofNat, 4⟩ ⟨Uuid.ofNat, 9⟩ ⟨0, 0⟩ ⟨7, 0⟩
  have hone : c.blockingViolations = 1 := by
    have hblocking' : c.blockingViolations = ((c.violations.filter fun v =>
        t.preventing.contains v.policyId).map Violation.id).length := by
      rw [hc]
      rfl
    rw [hblocking', hordered]
    decide +kernel
  have hids' : b.violations.map Violation.policyId = [grave.id, mild.id] := by
    have hlater : c.violations.map Violation.policyId = [grave.id, mild.id] := by
      rw [hordered]
      decide +kernel
    have hsame := congrArg (List.map Violation.policyId) hviolations
    rw [List.map_map, List.map_map] at hsame
    exact hsame.trans hlater
  exact ⟨hperm, hids, by decide +kernel, hfailed.symm.trans (by decide +kernel), herrored,
    hblocking.trans hone, hone, hids', hviolations, herrors, by decide +kernel⟩

end Governance
