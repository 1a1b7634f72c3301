import Governance.Proofs.Judgement.Bulk
import Governance.Proofs.Judgement.Decision
import Governance.Pattern.Program

/-!
# The workers of a bulk evaluation

A `BulkEvaluator` has several workers judge policies. Which of them judges what, and whose report
arrives first, is left to chance (`BulkEvaluator.MayGive`); what the result says is not.

* `runs_end`: the workers come to an end, whatever the schedule.
* `exists_judgements`: a result is merged from one judgement of each active policy.
* `mayGive_judgeAll`: `Engine.judgeAll` is the result of a schedule.
* `results_agree`: every result says of the policies what single judgements say of them.
-/

namespace Governance

namespace BulkEvaluator

variable {b : BulkEvaluator} {a : Assessment} {policies : List Policy} {r : BulkResult}

section Library

variable [Pattern.Library]

/-- By `Judges`, work on a policy always ends in a report. -/
theorem not_judges_none (p : Policy) : ¬ b.Judges a p none := nofun

theorem exists_judges (p : Policy) : ∃ report, b.Judges a p report :=
  ⟨_, ⟨Uuid.ofNat, 0⟩, ⟨0, 0⟩, rfl⟩

omit [Pattern.Library] in
/-- There are workers in the pool of `b` when policies are active. -/
theorem workers_pos (b : BulkEvaluator) (h : policies.filter Policy.isActive ≠ []) :
    0 < min (policies.filter Policy.isActive).length b.maxWorkers :=
  Nat.lt_min.2 ⟨List.length_pos_iff.2 h, b.maxWorkers_pos⟩

/-- **The workers come to an end**: the length `n` of a run is bounded by the number of active
policies, and as long as the pool has not `Finished` there is a next step. -/
theorem runs_end {n : Nat} {q : Pool Policy (Except Unjudged Outcome)}
    (h : Pool.Runs (b.Judges a) (b.pool policies) n q) :
    n ≤ 4 * (policies.filter Policy.isActive).length
      ∧ (q.Finished ∨ ∃ next, Pool.Step (b.Judges a) q next) := by
  have hlength := Pool.length_of_runs_start h
  refine ⟨by omega, ?_⟩
  by_cases hfinished : q.Finished
  · exact .inl hfinished
  · exact .inr (Pool.exists_step_of_not_finished exists_judges hfinished)

/-- **Each result is merged from judgements**: what `b` may give is the result of some `judged`, one
of each active policy. -/
theorem exists_judgements (h : b.MayGive a policies r) :
    ∃ judged : List Judged, b.engine.AreJudgements a (policies.filter Policy.isActive) judged
      ∧ r = (Tally.ofJudged judged).result a.id judged.length := by
  cases h with
  | idle h => exact ⟨[], ⟨h.symm, fun _ hj => absurd hj List.not_mem_nil⟩, BulkResult.empty_eq a.id⟩
  | @merged n last h hruns hlast =>
    obtain ⟨reports, hslots, hreports⟩ :=
      Pool.slots_of_finished not_judges_none (b.workers_pos h) hruns hlast
    have hjudged : b.engine.AreJudgements a _ _ := Engine.areJudgements_zip
      (hreports.imp fun p report ⟨ids, now, heq⟩ => ⟨ids, now, Option.some.inj heq⟩)
    refine ⟨_, hjudged, ?_⟩
    rw [← merge_judged, hjudged.policies, hslots,
      List.map_snd_zip (Nat.le_of_eq hreports.length_eq.symm)]

/-- **Judging the policies in their order is one of the runs**, with any number of workers: `b` may
give what `judgeAll` gives. -/
theorem mayGive_judgeAll (b : BulkEvaluator) (a : Assessment) (policies : List Policy)
    (ids : IdSource) (now : Timestamp) :
    b.MayGive a policies (b.engine.judgeAll ids now a policies) := by
  have hjudged := b.engine.areJudgements_judgeEach now a ids (policies.filter Policy.isActive)
  rw [b.engine.judgeAll_eq]
  by_cases hactive : policies.filter Policy.isActive = []
  · rw [hactive]
    show b.MayGive a policies ((Tally.ofJudged []).result a.id 0)
    rw [← BulkResult.empty_eq]
    exact .idle hactive
  · generalize b.engine.judgeEach now a.id a.context ids (policies.filter Policy.isActive)
      = judged at hjudged ⊢
    have hlength : (policies.filter Policy.isActive).length = judged.length := by
      rw [← hjudged.policies, List.length_map]
    have hreports : List.Forall₂ (fun p report => b.Judges a p (some report))
        (policies.filter Policy.isActive) (judged.map Prod.snd) := by
      rw [← hjudged.policies, List.forall₂_map_left_iff, List.forall₂_map_right_iff,
        List.forall₂_same]
      intro j hj
      obtain ⟨own, then', hmade⟩ := hjudged.made j hj
      exact ⟨own, then', congrArg some hmade⟩
    obtain ⟨n, last, hruns, hlast, hslots⟩ :=
      Pool.exists_runs_of_reports (b.workers_pos hactive) hreports
    have hmerged := MayGive.merged hactive hruns hlast
    rw [hslots, ← hjudged.policies, merge_judged, ← hlength] at hmerged
    exact hmerged

/-- **Judging many policies is judging each.** Let the active ones among `policies` be judged by
the workers of `b`, and let `b.engine.judgeSingly` judge each of them by itself, with identifiers
and at a time of its own. Every run of the workers ends; `judgeAll` is what one of them gives; and
whatever worker has judged a policy and whenever its report has arrived, the result `Agrees` with
the single judgements. -/
theorem results_agree (b : BulkEvaluator) (a : Assessment) (policies : List Policy)
    (sources : Nat → IdSource) (times : Nat → Timestamp) :
    let active := policies.filter Policy.isActive
    let single := b.engine.judgeSingly sources times a active
    single.map Prod.fst = active
      ∧ (∀ n q, Pool.Runs (b.Judges a) (b.pool policies) n q →
        n ≤ 4 * active.length ∧ (q.Finished ∨ ∃ next, Pool.Step (b.Judges a) q next))
      ∧ (∀ ids now, b.MayGive a policies (b.engine.judgeAll ids now a policies))
      ∧ ∀ r, b.MayGive a policies r → r.assessmentId = a.id ∧ r.Agrees single := by
  intro active single
  have hsingle := b.engine.areJudgements_judgeSingly sources times a active
  refine ⟨hsingle.policies, fun n q hruns => runs_end hruns,
    fun ids now => b.mayGive_judgeAll a policies ids now, fun r hr => ?_⟩
  obtain ⟨judged, hjudged, rfl⟩ := exists_judgements hr
  exact ⟨rfl, hjudged.agrees hsingle a.id⟩

/-- With two workers, the report on the later policy `q` may be made first and arrive first. It goes
into its own slot all the same. -/
theorem mayGive_outOfOrder (b : BulkEvaluator) (hb : 2 ≤ b.maxWorkers) (a : Assessment)
    (p q : Policy) (hp : p.isActive = true) (hq : q.isActive = true) (ids later : IdSource)
    (now then' : Timestamp) :
    b.MayGive a [p, q] (merge a.id [p.entry, q.entry]
      [some (b.engine.judge later then' a p), some (b.engine.judge ids now a q)]) := by
  have hactive : [p, q].filter Policy.isActive = [p, q] := by simp [hp, hq]
  have hpool : b.pool [p, q] = Pool.start 2 [p, q] := by
    rw [pool, hactive]
    exact congrArg (Pool.start · [p, q]) (Nat.min_eq_left hb)
  have hfirst : b.Judges a p (some (b.engine.judge later then' a p)) := ⟨later, then', rfl⟩
  have hsecond : b.Judges a q (some (b.engine.judge ids now a q)) := ⟨ids, now, rfl⟩
  have hruns : Pool.Runs (b.Judges a) (.start 2 [p, q]) 8
      ⟨[], [.ended, .ended], [],
        [some (b.engine.judge later then' a p), some (b.engine.judge ids now a q)]⟩ :=
    Pool.Runs.here
      |>.step (@Pool.Step.take _ _ _ (.start 2 [p, q]) 0 (p, 0) [(q, 1)] rfl rfl)
      |>.step (@Pool.Step.take _ _ _ _ 1 (q, 1) [] rfl rfl)
      |>.step (@Pool.Step.send _ _ _ _ 1 1 q _ rfl hsecond)
      |>.step (@Pool.Step.send _ _ _ _ 0 0 p _ rfl hfirst)
      |>.step (@Pool.Step.receive _ _ _ _ _ _ rfl)
      |>.step (@Pool.Step.leave _ _ _ _ 1 rfl rfl)
      |>.step (@Pool.Step.receive _ _ _ _ _ _ rfl)
      |>.step (@Pool.Step.leave _ _ _ _ 0 rfl rfl)
  have hmerged : b.MayGive a [p, q] _ := .merged (by rw [hactive]; nofun) (hpool ▸ hruns)
    ⟨by simp, rfl⟩
  rwa [hactive] at hmerged

end Library

/-- Nobody is said to oversee the system; the first policy minds that, and the second one does not.
The sixteen workers of the default configuration report on the second one first. -/
theorem results_agree_outOfOrder :
    let b : BulkEvaluator := .ofConfig .still .default
    let rule (n : Nat) (c : Condition) : Policy :=
      Policy.initial ⟨Uuid.ofNat n⟩ ⟨0, 0⟩ Policy.oversightRule c
    let p := rule 1 (.leaf ⟨"humanOversight", .isNotNull, .null⟩)
    let q := rule 2 (.leaf ⟨"humanOversight", .isNull, .null⟩)
    let a := Assessment.bare ⟨⟨"system", by decide⟩⟩ p.tenant
    ∃ r, b.MayGive a [p, q] r ∧ r.evaluatedPolicies = 2 ∧ r.failedPolicies = 1
      ∧ r.violations.map Violation.policyId = [p.id]
      ∧ r.Agrees (b.engine.judgeSingly (fun n => ⟨Uuid.ofNat, n⟩) (fun _ => ⟨0, 0⟩) a [p, q]) := by
  intro b rule p q a
  have hp : p.isActive = true := by decide +kernel
  have hq : q.isActive = true := by decide +kernel
  have hgive := b.mayGive_outOfOrder (by decide) a p q hp hq ⟨Uuid.ofNat, 3⟩ ⟨Uuid.ofNat, 4⟩
    ⟨0, 0⟩ ⟨7, 0⟩
  generalize merge a.id _ _ = r at hgive
  have hactive : [p, q].filter Policy.isActive = [p, q] := by
    rw [List.filter_cons_of_pos hp, List.filter_cons_of_pos hq, List.filter_nil]
  obtain ⟨-, -, -, hagree⟩ :=
    b.results_agree a [p, q] (fun n => ⟨Uuid.ofNat, n⟩) fun _ => ⟨0, 0⟩
  rw [hactive] at hagree
  obtain ⟨-, hagrees⟩ := hagree r hgive
  refine ⟨r, hgive, hagrees.evaluated.trans (by decide +kernel),
    hagrees.failed.trans (by decide +kernel), ?_, hagrees⟩
  have hperm := hagrees.violations.perm.map Violation.policyId
  have hone : ((b.engine.judgeSingly (fun n => ⟨Uuid.ofNat, n⟩) (fun _ => ⟨0, 0⟩) a
      [p, q]).flatMap Judged.violations).map Violation.policyId = [p.id] := by decide +kernel
  rw [List.map_map, List.map_map] at hperm
  exact List.perm_singleton.1 (hperm.trans (List.Perm.of_eq hone))

end BulkEvaluator

end Governance
