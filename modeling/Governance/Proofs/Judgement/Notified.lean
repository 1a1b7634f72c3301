import Governance.Proofs.Judgement.Decision
import Governance.Proofs.Judgement.Owned
import Governance.Pattern.Program

/-!
# What notifications name

Notifications are made when a policy is judged, before the violations of all policies are sorted
into one list. As long as no two policies share an identifier they fit the list all the same: each
names what the list holds of its policy, in the order of the list.

* `StablySorted.filter_policyId`: sorting leaves the violations of one policy in their order.
* `filter_violations_judgeAll`, `filter_notifications_judgeAll`: a merged result holds of a policy
  what its judgement gave.
* `judgeAll_notifies`: what is named, how often, and of whom nobody is told.
-/

namespace Governance

/-- **Sorting leaves the violations of one policy in their order**, for they all have `severity`. -/
theorem StablySorted.filter_policyId {xs ys : List Violation} (h : StablySorted xs ys)
    {policyId : PolicyId} (severity : Severity)
    (hsevere : ∀ v ∈ xs, v.policyId = policyId → v.severity = severity) :
    ys.filter (fun v => v.policyId = policyId) = xs.filter (fun v => v.policyId = policyId) := by
  have hisOf {vs : List Violation} (hvs : ∀ v ∈ vs, v.policyId = policyId → v.severity = severity) :
      vs.filter (fun v => v.policyId = policyId)
        = vs.filter (Violation.isOf severity policyId) := by
    refine List.filter_congr fun v hv => ?_
    rw [Bool.eq_iff_iff, decide_eq_true_iff, Violation.isOf_iff]
    exact ⟨fun hid => ⟨hvs v hv hid, hid⟩, fun hboth => hboth.2⟩
  rw [hisOf hsevere, hisOf fun v hv => hsevere v (h.perm.mem_iff.1 hv), h.stable]

namespace Engine

variable {e : Engine} {ids : IdSource} {now : Timestamp} {a : Assessment} {ps : List Policy}
  {j : Judged}

/-! ### Judgements in a row -/

section Library

variable [Pattern.Library]

theorem severity_of_mem_judgeEach (hj : j ∈ e.judgeEach now a.id a.context ids ps) {v : Violation}
    (hv : v ∈ j.violations) : v.severity = j.1.content.severity := by
  obtain ⟨p, -, own, ⟨cause, -, rfl⟩ | ⟨o, ho, rfl⟩⟩ := cases_of_mem_judgeEach hj
  · exact absurd hv List.not_mem_nil
  · exact (judge_violation ho hv).2.2.2.1

/-- In a row, only a violated policy notifies, and each notification `n` names all its
violations. -/
theorem notification_of_mem_judgeEach (hj : j ∈ e.judgeEach now a.id a.context ids ps)
    {n : Notification} (hn : n ∈ j.notifications) :
    j.violated = true ∧ n.policyId = j.1.id ∧ n.violationIds = j.violations.map Violation.id := by
  obtain ⟨p, -, own, ⟨cause, -, rfl⟩ | ⟨o, ho, rfl⟩⟩ := cases_of_mem_judgeEach hj
  · exact absurd hn List.not_mem_nil
  · obtain ⟨hid, -, -, hnames, -⟩ := judge_notification ho hn
    refine ⟨?_, hid, hnames⟩
    cases hpassed : o.passed with
    | false => simp [Judged.violated, hpassed]
    | true =>
      have hmem : n ∈ o.decision.notifications := hn
      rw [(judge_of_passed ho hpassed).2] at hmem
      exact absurd hmem List.not_mem_nil

/-- A violated policy notifies as often as it has intents in `onViolation`. -/
theorem length_notifications_of_mem_judgeEach (hj : j ∈ e.judgeEach now a.id a.context ids ps)
    (hviolated : j.violated = true) :
    j.notifications.length = j.1.content.onViolation.length := by
  obtain ⟨p, -, own, ⟨cause, -, rfl⟩ | ⟨o, ho, rfl⟩⟩ := cases_of_mem_judgeEach hj
  · exact absurd hviolated Bool.false_ne_true
  · have hfails : o.passed = false := by simpa [Judged.violated] using hviolated
    have hintents := congrArg List.length (judge_intents_of_violated ho hfails)
    rwa [List.length_map] at hintents

/-! ### Merged results -/

section Merged

variable {policies : List Policy} (hids : (policies.map Policy.id).Nodup)
  (hj : j ∈ e.judgeEach now a.id a.context ids (policies.filter Policy.isActive))
include hids

theorem nodup_ids_judgeEach :
    ((e.judgeEach now a.id a.context ids (policies.filter Policy.isActive)).map
      fun j => j.1.id).Nodup := by
  have hmap := congrArg (List.map Policy.id)
    (e.map_policy_judgeEach ids now a (policies.filter Policy.isActive))
  rw [List.map_map] at hmap
  show (List.map (Policy.id ∘ Prod.fst) _).Nodup
  rw [hmap]
  exact hids.sublist (List.filter_sublist.map _)

include hj

/-- **The violations of a policy in a merged result are those that its judgement gave**, by
`judgeAll`. -/
theorem filter_violations_judgeAll :
    (e.judgeAll ids now a policies).violations.filter (fun v => v.policyId = j.1.id)
      = j.violations := by
  have hsums := e.sums_judgeEach ids now a (policies.filter Policy.isActive)
  have hown : ((e.judgeEach now a.id a.context ids (policies.filter Policy.isActive)).flatMap
      Judged.violations).filter (fun v => v.policyId = j.1.id) = j.violations :=
    filter_flatMap_eq (nodup_ids_judgeEach hids)
      (fun k hk => (coherent_of_mem_judgeEach hk).policyId) hj
  rw [← hsums.violations] at hown
  rw [← hown, violations_judgeAll]
  refine (stablySorted_mergeSort _).filter_policyId j.1.content.severity ?_
  intro v hv hid
  have hmem : v ∈ j.violations := by
    rw [← hown]
    exact List.mem_filter.2 ⟨hv, decide_eq_true hid⟩
  exact severity_of_mem_judgeEach hj hmem

/-- **So are its notifications**, by `judgeAll`. -/
theorem filter_notifications_judgeAll :
    (e.judgeAll ids now a policies).notifications.filter (fun n => n.policyId = j.1.id)
      = j.notifications := by
  have hsums := e.sums_judgeEach ids now a (policies.filter Policy.isActive)
  have hown : ((e.judgeEach now a.id a.context ids (policies.filter Policy.isActive)).flatMap
      Judged.notifications).filter (fun n => n.policyId = j.1.id) = j.notifications :=
    filter_flatMap_eq (nodup_ids_judgeEach hids)
      (fun k hk n hn => (notification_of_mem_judgeEach hk hn).2.1) hj
  rw [notifications_judgeAll, hsums.notifications]
  exact hown

end Merged

/-- **Notifications name what is on the list.** Let no two of `policies` share an identifier, and no
two violations of the result `b` of `judgeAll`. Every notification of `b` names at least one
violation, none twice, and exactly those that `b` holds of its policy, in the order of
`b.violations`. A violation is named by as many notifications as its policy has intents. Of a policy
that is kept or could not be judged nobody is told. -/
theorem judgeAll_notifies (e : Engine) (ids : IdSource) (now : Timestamp) (a : Assessment)
    (policies : List Policy) (hids : (policies.map Policy.id).Nodup)
    (hminted : ((e.judgeAll ids now a policies).violations.map Violation.id).Nodup) :
    let b := e.judgeAll ids now a policies
    (∀ n ∈ b.notifications,
        n.violationIds ≠ [] ∧ n.violationIds.Nodup
          ∧ n.violationIds = (b.violations.filter fun v => v.policyId = n.policyId).map Violation.id)
      ∧ (∀ v ∈ b.violations, ∃ p ∈ policies, p.id = v.policyId
        ∧ b.notifications.countP (fun n => v.id ∈ n.violationIds) = p.content.onViolation.length)
      ∧ ∀ p ∈ policies, ∀ own then',
        (∀ o, e.judge own then' a p = .ok o → o.passed = true) →
          ∀ n ∈ b.notifications, n.policyId ≠ p.id := by
  intro b
  let judged : List Judged := e.judgeEach now a.id a.context ids (policies.filter Policy.isActive)
  have hsums : Tally.Sums judged (Tally.ofJudged judged) := e.sums_judgeEach ids now a _
  have hnotified {n : Notification} (hn : n ∈ b.notifications) :
      ∃ j ∈ judged, n ∈ j.notifications := by
    rw [← List.mem_flatMap, ← hsums.notifications, ← notifications_judgeAll]
    exact hn
  have hnames {n : Notification} (hn : n ∈ b.notifications) :
      n.violationIds = (b.violations.filter fun v => v.policyId = n.policyId).map Violation.id := by
    obtain ⟨j, hj, hmem⟩ := hnotified hn
    obtain ⟨-, hid, hown⟩ := notification_of_mem_judgeEach hj hmem
    rw [hid, filter_violations_judgeAll hids hj, hown]
  refine ⟨fun n hn => ⟨?_, ?_, hnames hn⟩, fun v hv => ?_, fun p hp own then' hkept n hn hid => ?_⟩
  · obtain ⟨j, hj, hmem⟩ := hnotified hn
    obtain ⟨hviolated, -, hown⟩ := notification_of_mem_judgeEach hj hmem
    rw [hown, Ne, List.map_eq_nil_iff]
    exact (coherent_of_mem_judgeEach hj).violated hviolated
  · rw [hnames hn]
    exact hminted.sublist (List.filter_sublist.map _)
  · have hmem : v ∈ judged.flatMap Judged.violations := by
      rw [← hsums.violations]
      refine (List.mergeSort_perm _ Tally.inOrder).mem_iff.1 ?_
      rw [← violations_judgeAll]
      exact hv
    obtain ⟨j, hj, hvj⟩ := List.mem_flatMap.1 hmem
    have hcoherent := coherent_of_mem_judgeEach hj
    have hviolated := hcoherent.violations_ne_nil_iff.1 (List.ne_nil_of_mem hvj)
    -- Since no identifier is minted twice, only the notifications of its policy name the violation.
    have hnamed : ∀ n ∈ b.notifications, v.id ∈ n.violationIds ↔ n.policyId = j.1.id := by
      intro n hn
      rw [hnames hn, List.mem_map, ← hcoherent.policyId v hvj]
      constructor
      · rintro ⟨w, hw, hid⟩
        obtain ⟨hwb, hwn⟩ := List.mem_filter.1 hw
        obtain rfl := List.inj_on_of_nodup_map hminted hwb hv hid
        exact (of_decide_eq_true hwn).symm
      · exact fun hid => ⟨v, List.mem_filter.2 ⟨hv, decide_eq_true hid.symm⟩, rfl⟩
    refine ⟨j.1, ?_, (hcoherent.policyId v hvj).symm, ?_⟩
    · have hfst : j.1 ∈ judged.map Prod.fst := List.mem_map_of_mem hj
      rw [e.map_policy_judgeEach ids now a] at hfst
      exact List.mem_of_mem_filter hfst
    · have hcount : b.notifications.countP (fun n => v.id ∈ n.violationIds)
          = b.notifications.countP (fun n => n.policyId = j.1.id) :=
        List.countP_congr fun n hn => by simpa using hnamed n hn
      rw [hcount, List.countP_eq_length_filter, filter_notifications_judgeAll hids hj,
        length_notifications_of_mem_judgeEach hj hviolated]
  · obtain ⟨q, hq, -, earlier, o, ho, hno⟩ := exists_of_mem_notifications_judgeAll hn
    obtain ⟨hqid, -⟩ := judge_notification ho hno
    obtain rfl := List.inj_on_of_nodup_map hids hq hp (hqid.symm.trans hid)
    obtain ⟨again, hagain, hpassed⟩ := exists_judge_again ho own then'
    rw [hkept again hagain] at hpassed
    rw [(judge_of_passed ho hpassed.symm).2] at hno
    exact List.not_mem_nil hno

/-- Condition that somebody has `oversight` of the system, or its level of risk is known. -/
def overseen : Condition :=
  .or [.leaf ⟨"humanOversight", .isTrue, .null⟩, .leaf ⟨"riskLevel", .isNotNull, .null⟩]

end Library

/-- Of three policies that tell two parties each, one is violated twice, one is kept, and one cannot
be judged: both parties are told of both violations of the first, and of nothing else. -/
theorem judgeAll_notifies_overseen :
    let rule (n : Nat) (c : Condition) : Policy :=
      Policy.initial ⟨Uuid.ofNat n⟩ ⟨0, 0⟩ remedyRule c
    let policies := [rule 1 overseen, rule 2 (.not overseen), rule 3 (.and [])]
    let a := Assessment.bare ⟨⟨"system", by decide⟩⟩ remedyRule.tenant
    let e : Engine := ⟨.still, .default⟩
    let b := e.judgeAll ⟨Uuid.ofNat, 4⟩ ⟨0, 0⟩ a policies
    (policies.map Policy.id).Nodup ∧ (b.violations.map Violation.id).Nodup
      ∧ b.passedPolicies = 1 ∧ b.erroredPolicies = 1
      ∧ ∃ v w, b.violations = [v, w] ∧ b.notifications.length = 2
        ∧ (∀ n ∈ b.notifications, n.violationIds = [v.id, w.id] ∧ n.policyId ≠ ⟨Uuid.ofNat 2⟩)
        ∧ b.notifications.countP (fun n => w.id ∈ n.violationIds) = 2 := by
  intro rule policies a e b
  let t := Tally.ofJudged (e.judgeEach ⟨0, 0⟩ a.id a.context ⟨Uuid.ofNat, 4⟩ policies)
  have hordered : b.violations = t.violations :=
    (e.violations_judgeAll _ _ a policies).trans (List.mergeSort_of_pairwise (by decide +kernel))
  have hids : (policies.map Policy.id).Nodup := by decide +kernel
  have hminted : (b.violations.map Violation.id).Nodup := by
    rw [hordered]
    decide +kernel
  obtain ⟨v, w, hvw⟩ : ∃ v w, b.violations = [v, w] := by
    rw [hordered]
    exact List.length_eq_two.1 (by decide +kernel)
  obtain ⟨hnames, hoften, hsilent⟩ := judgeAll_notifies e _ _ a policies hids hminted
  have hof : ∀ x ∈ b.violations, x.policyId = ⟨Uuid.ofNat 1⟩ := by
    rw [hordered]
    decide +kernel
  have hto : ∀ n ∈ b.notifications, n.policyId = ⟨Uuid.ofNat 1⟩ := by decide +kernel
  have hsecond : rule 2 (.not overseen) ∈ policies := List.mem_cons_of_mem _ List.mem_cons_self
  have hkept : ∀ o, e.judge ⟨Uuid.ofNat, 9⟩ ⟨7, 0⟩ a (rule 2 (.not overseen)) = .ok o →
      o.passed = true := by
    intro o ho
    have hanswer : (e.judge ⟨Uuid.ofNat, 9⟩ ⟨7, 0⟩ a (rule 2 (.not overseen))).map Outcome.passed
        = .ok true := by decide +kernel
    rw [ho] at hanswer
    exact Except.ok.inj hanswer
  refine ⟨hids, hminted, by decide +kernel, by decide +kernel, v, w, hvw, by decide +kernel,
    fun n hn => ⟨?_, hsilent _ hsecond _ _ hkept n hn⟩, ?_⟩
  · rw [(hnames n hn).2.2, hto n hn, List.filter_eq_self.2 fun x hx => decide_eq_true (hof x hx),
      hvw]
    rfl
  · have hw : w ∈ b.violations := by simp [hvw]
    obtain ⟨p, hp, hid, hcount⟩ := hoften w hw
    rw [hof w hw] at hid
    obtain rfl := List.inj_on_of_nodup_map hids hp (List.mem_cons_self) hid
    exact hcount

end Engine

end Governance
