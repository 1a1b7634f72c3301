import Mathlib.Data.List.Induction
import Governance.Proofs.Judgement.Judged
import Governance.Proofs.Pool

/-!
# Judging many policies is judging each

A `BulkResult` is made of judgements of the active policies, one report for each, whatever worker
has made it and whenever it has arrived. What the result counts and collects is what these
judgements give when each is made by itself, and the order of its violations is that of severity
and policy.

* `Tally.Sums.add`, `Tally.sums_ofJudged`: what one more judgement adds to a `Tally`, and what all
  of them come to.
* `stablySorted_mergeSort`, `StablySorted.unique`: violations are put in order, what is alike keeps
  its own, and there is one way to do so.
* `merge_counts`: each policy is counted once, also when some slots are empty.
* `merge_judged`, `judgeAll_eq`: merging full slots is adding up the judgements that they hold.
* `AreJudgements.agrees`: every part of a result in terms of single judgements.
-/

namespace Governance

/-! ### Sums -/

namespace EnforcementAction

/-- The action `a` is the strongest of `actions`; nothing is to be done when there are none. -/
structure Strongest (actions : List EnforcementAction) (a : EnforcementAction) : Prop where
  le : ∀ b ∈ actions, b.strength ≤ a.strength
  mem : a = .none ∨ a ∈ actions

theorem strongest_nil : Strongest [] .none := ⟨fun _ h => absurd h List.not_mem_nil, .inl rfl⟩

theorem Strongest.concat {actions : List EnforcementAction} {a : EnforcementAction}
    (h : Strongest actions a) (b : EnforcementAction) :
    Strongest (actions ++ [b]) (a.stronger b) := by
  have hmax := strength_stronger a b
  constructor
  · intro c hc
    rcases List.mem_append.1 hc with hold | hnew
    · have hle := h.le c hold
      omega
    · obtain rfl := List.mem_singleton.1 hnew
      omega
  · unfold stronger
    split
    · exact .inr (List.mem_append_right _ (List.mem_singleton.2 rfl))
    · exact h.mem.imp_right (List.mem_append_left _)

theorem stronger_none (a : EnforcementAction) : a.stronger .none = a := by
  cases a <;> rfl

/-- A `Strongest` action is `blocked` as soon as one of them is. -/
theorem Strongest.eq_blocked_iff {actions : List EnforcementAction} {a : EnforcementAction}
    (h : Strongest actions a) : a = .blocked ↔ .blocked ∈ actions := by
  constructor
  · rintro rfl
    exact h.mem.resolve_left (by decide)
  · intro hmem
    have hle := h.le _ hmem
    cases a <;> revert hle <;> decide

end EnforcementAction

namespace Tally

/-- The tally `t` counts and collects what each of `judged` gives. -/
structure Sums (judged : List Judged) (t : Tally) : Prop where
  passed : t.passed = judged.countP Judged.passed
  failed : t.failed = judged.countP Judged.violated
  errored : t.errored = judged.countP Judged.fatal
  violations : t.violations = judged.flatMap Judged.violations
  preventing : t.preventing = ((judged.filter Judged.blocking).map fun j => j.1.id).reverse
  action : EnforcementAction.Strongest (judged.filterMap Judged.action?) t.action
  notifications : t.notifications = judged.flatMap Judged.notifications
  errors : t.errors = judged.filterMap Judged.failure?

namespace Sums

variable {judged : List Judged} {t : Tally} {p : Policy}

theorem empty : Sums [] .empty where
  passed := rfl
  failed := rfl
  errored := rfl
  violations := rfl
  preventing := rfl
  action := EnforcementAction.strongest_nil
  notifications := rfl
  errors := rfl

/-- A policy that is kept is counted by `add`, and nothing else. -/
theorem add_passed (h : Sums judged t) {o : Outcome} (hj : Judged.Coherent (p, .ok o))
    (hpassed : o.passed = true) :
    Sums (judged ++ [(p, .ok o)]) (t.add p.entry (some (.ok o))) := by
  obtain ⟨hviolations, hnotifications, haction⟩ := hj.kept hpassed
  rw [add, if_pos hpassed]
  constructor
  · simp [h.passed, Judged.passed, hpassed]
  · simp [h.failed, Judged.violated, hpassed]
  · simp [h.errored, Judged.fatal]
  · simp [h.violations, hviolations]
  · simp [h.preventing, Judged.blocking, Judged.violated, hpassed]
  · have hstrongest := h.action.concat .none
    rw [EnforcementAction.stronger_none] at hstrongest
    simpa [haction] using hstrongest
  · simp [h.notifications, hnotifications]
  · simp [h.errors, Judged.failure?]

/-- What a violated policy brings in by `add`. -/
theorem add_violated (h : Sums judged t) {o : Outcome} (hviolated : o.passed = false) :
    Sums (judged ++ [(p, .ok o)]) (t.add p.entry (some (.ok o))) := by
  rw [add, if_neg (by rw [hviolated]; decide), addFailed, Policy.entry]
  constructor
  · simp [h.passed, Judged.passed, hviolated]
  · simp [h.failed, Judged.violated, hviolated]
  · simp [h.errored, Judged.fatal]
  · simp [h.violations, Judged.violations]
  · by_cases hprevent : p.content.enforcementMode = .prevent <;>
      simp [h.preventing, Judged.blocking, Judged.violated, hviolated, hprevent]
  · simpa [Judged.action?] using h.action.concat o.decision.action
  · simp [h.notifications, Judged.notifications]
  · simp [h.errors, Judged.failure?]

/-- A policy that could not be judged is listed apart by `add`. -/
theorem add_fatal (h : Sums judged t) (e : Unjudged) :
    Sums (judged ++ [(p, .error e)]) (t.add p.entry (some (.error e))) := by
  rw [add, addErrored, Policy.entry]
  constructor
  · simp [h.passed, Judged.passed]
  · simp [h.failed, Judged.violated]
  · simp [h.errored, Judged.fatal]
  · simp [h.violations, Judged.violations]
  · simp [h.preventing, Judged.blocking, Judged.violated]
  · simpa [Judged.action?, List.filterMap_cons] using h.action
  · simp [h.notifications, Judged.notifications]
  · simp [h.errors, Judged.failure?]

/-- **One more judgement adds what it gives**: `Sums` goes on from `judged` to `judged ++ [j]`. -/
theorem add (h : Sums judged t) {j : Judged} (hj : j.Coherent) :
    Sums (judged ++ [j]) (t.add j.1.entry (some j.2)) := by
  obtain ⟨p, judgement⟩ := j
  cases judgement with
  | error e => exact h.add_fatal e
  | ok o =>
    cases hpassed : o.passed with
    | true => exact h.add_passed hj hpassed
    | false => exact h.add_violated hpassed

end Sums

/-- The tally of judged policies, in their order. -/
def ofJudged (judged : List Judged) : Tally :=
  judged.foldl (fun t j => t.add j.1.entry (some j.2)) empty

/-- **The tally of some judgements is the sum of what each of them gives**, as `Sums` says. -/
theorem sums_ofJudged {judged : List Judged} (h : ∀ j ∈ judged, j.Coherent) :
    Sums judged (ofJudged judged) := by
  induction judged using List.reverseRecOn with
  | nil => exact .empty
  | append_singleton judged j ih =>
    have hsums := ih fun k hk => h k (List.mem_append_left _ hk)
    rw [ofJudged, List.foldl_append]
    exact hsums.add (h j (List.mem_append_right _ (List.mem_singleton.2 rfl)))

end Tally

/-! ### Order -/

namespace Violation

/-- The violation `v` is more severe than `w`, or as severe and of no later policy. -/
def MayPrecede (v w : Violation) : Prop :=
  v.severity.rank < w.severity.rank ∨ v.severity = w.severity ∧ ¬ w.policyId < v.policyId

/-- Whether `v` has the severity and names the policy. -/
def isOf (severity : Severity) (policyId : PolicyId) (v : Violation) : Bool :=
  v.severity = severity ∧ v.policyId = policyId

theorem isOf_iff {severity : Severity} {policyId : PolicyId} {v : Violation} :
    v.isOf severity policyId = true ↔ v.severity = severity ∧ v.policyId = policyId :=
  decide_eq_true_iff

theorem isOf_self (v : Violation) : v.isOf v.severity v.policyId = true := isOf_iff.2 ⟨rfl, rfl⟩

namespace MayPrecede

variable {u v w : Violation}

theorem total (v w : Violation) : v.MayPrecede w ∨ w.MayPrecede v := by
  rcases Nat.lt_trichotomy v.severity.rank w.severity.rank with hlt | heq | hgt
  · exact .inl (.inl hlt)
  · have hseverity := Severity.rank_injective heq
    by_cases hafter : w.policyId < v.policyId
    · exact .inr (.inr ⟨hseverity.symm, PolicyId.not_lt_of_lt hafter⟩)
    · exact .inl (.inr ⟨hseverity, hafter⟩)
  · exact .inr (.inl hgt)

theorem trans (huv : u.MayPrecede v) (hvw : v.MayPrecede w) : u.MayPrecede w := by
  rcases huv with huv | ⟨huv, hu⟩ <;> rcases hvw with hvw | ⟨hvw, hv⟩
  · exact .inl (Nat.lt_trans huv hvw)
  · exact .inl (hvw ▸ huv)
  · exact .inl (huv ▸ hvw)
  · exact .inr ⟨huv.trans hvw, PolicyId.not_lt_trans hu hv⟩

/-- Violations that may stand in either order have one severity and one policy. -/
theorem isOf (hvw : v.MayPrecede w) (hwv : w.MayPrecede v) :
    w.isOf v.severity v.policyId = true := by
  rcases hvw with hvw | ⟨hvw, hv⟩ <;> rcases hwv with hwv | ⟨hwv, hw⟩
  · exact absurd hwv (Nat.lt_asymm hvw)
  · exact absurd hvw (hwv ▸ Nat.lt_irrefl _)
  · exact absurd hwv (hvw ▸ Nat.lt_irrefl _)
  · exact isOf_iff.2 ⟨hwv, PolicyId.eq_of_not_lt hv hw⟩

end MayPrecede

end Violation

namespace Tally

theorem inOrder_iff {v w : Violation} : inOrder v w = true ↔ v.MayPrecede w := by
  simp [inOrder, Violation.MayPrecede]

theorem inOrder_total (v w : Violation) : (inOrder v w || inOrder w v) = true := by
  rw [Bool.or_eq_true, inOrder_iff, inOrder_iff]
  exact Violation.MayPrecede.total v w

theorem inOrder_trans (u v w : Violation) (huv : inOrder u v = true) (hvw : inOrder v w = true) :
    inOrder u w = true :=
  inOrder_iff.2 ((inOrder_iff.1 huv).trans (inOrder_iff.1 hvw))

end Tally

/-- `ys` holds what `xs` holds, most severe first, and by policy where severity is the same. What is
alike in both stays in the order that it has in `xs`. -/
structure StablySorted (xs ys : List Violation) : Prop where
  perm : ys.Perm xs
  ordered : ys.Pairwise Violation.MayPrecede
  stable : ∀ severity policyId,
    ys.filter (Violation.isOf severity policyId) = xs.filter (Violation.isOf severity policyId)

theorem stablySorted_mergeSort (xs : List Violation) :
    StablySorted xs (xs.mergeSort Tally.inOrder) where
  perm := List.mergeSort_perm xs _
  ordered := (List.pairwise_mergeSort Tally.inOrder_trans Tally.inOrder_total xs).imp
    Tally.inOrder_iff.1
  stable severity policyId := by
    -- What is alike is in order as it stands, so sorting keeps it; and sorting adds nothing to it.
    have hordered : (xs.filter (Violation.isOf severity policyId)).Pairwise fun v w =>
        Tally.inOrder v w = true := by
      refine List.pairwise_of_forall_mem_list fun v hv w hw => Tally.inOrder_iff.2 (.inr ?_)
      obtain ⟨hvs, hvp⟩ := Violation.isOf_iff.1 (List.of_mem_filter hv)
      obtain ⟨hws, hwp⟩ := Violation.isOf_iff.1 (List.of_mem_filter hw)
      rw [hvs, hws, hvp, hwp]
      exact ⟨rfl, Nat.lt_irrefl _⟩
    have hkept := (List.sublist_mergeSort Tally.inOrder_trans Tally.inOrder_total hordered
      List.filter_sublist).filter (Violation.isOf severity policyId)
    simp only [List.filter_filter, Bool.and_self] at hkept
    have hsame := (List.mergeSort_perm xs Tally.inOrder).filter (Violation.isOf severity policyId)
    exact (hkept.eq_of_length hsame.length_eq.symm).symm

namespace StablySorted

variable {xs ys zs : List Violation}

/-- What is minted has no part in the order, so `unminted` violations are `StablySorted` alike. -/
theorem unminted (h : StablySorted xs ys) :
    StablySorted (xs.map Violation.unminted) (ys.map Violation.unminted) where
  perm := h.perm.map _
  ordered := List.pairwise_map.2 h.ordered
  stable severity policyId := by
    rw [List.filter_map, List.filter_map]
    exact congrArg (List.map _) (h.stable severity policyId)

theorem mem_of_filter_eq (h : ∀ severity policyId,
      ys.filter (Violation.isOf severity policyId) = zs.filter (Violation.isOf severity policyId))
    {v : Violation} (hv : v ∈ ys) : v ∈ zs := by
  have hmem : v ∈ ys.filter (Violation.isOf v.severity v.policyId) :=
    List.mem_filter.2 ⟨hv, v.isOf_self⟩
  rw [h] at hmem
  exact List.mem_of_mem_filter hmem

/-- Lists in order that hold the same of each severity and policy (`isOf`) are the same. -/
theorem eq_of_ordered (hys : ys.Pairwise Violation.MayPrecede)
    (hzs : zs.Pairwise Violation.MayPrecede)
    (h : ∀ severity policyId, ys.filter (Violation.isOf severity policyId)
      = zs.filter (Violation.isOf severity policyId)) : ys = zs := by
  induction ys generalizing zs with
  | nil =>
    refine (List.eq_nil_iff_forall_not_mem.2 fun v hv => ?_).symm
    exact absurd (mem_of_filter_eq (fun s p => (h s p).symm) hv) List.not_mem_nil
  | cons v ys ih =>
    cases zs with
    | nil => exact absurd (mem_of_filter_eq h List.mem_cons_self) List.not_mem_nil
    | cons w zs =>
      obtain ⟨hv, hbehind⟩ := List.pairwise_cons.1 hys
      obtain ⟨hw, hbehind'⟩ := List.pairwise_cons.1 hzs
      -- Each of the two heads is in the other list, so they may stand in either order.
      have hwv : w.isOf v.severity v.policyId = true := by
        rcases List.mem_cons.1 (mem_of_filter_eq h List.mem_cons_self) with rfl | hvzs
        · exact v.isOf_self
        · rcases List.mem_cons.1
              (mem_of_filter_eq (fun s p => (h s p).symm) List.mem_cons_self) with rfl | hwys
          · exact w.isOf_self
          · exact (hv w hwys).isOf (hw v hvzs)
      have hheads := h v.severity v.policyId
      rw [List.filter_cons_of_pos v.isOf_self, List.filter_cons_of_pos hwv] at hheads
      obtain rfl := (List.cons.inj hheads).1
      refine congrArg (List.cons v) (ih hbehind hbehind' fun severity policyId => ?_)
      have htails := h severity policyId
      by_cases hof : v.isOf severity policyId = true
      · rw [List.filter_cons_of_pos hof, List.filter_cons_of_pos hof] at htails
        exact (List.cons.inj htails).2
      · rwa [List.filter_cons_of_neg hof, List.filter_cons_of_neg hof] at htails

/-- **There is one stable order**: `StablySorted xs` has one list. -/
theorem unique (hys : StablySorted xs ys) (hzs : StablySorted xs zs) : ys = zs :=
  eq_of_ordered hys.ordered hzs.ordered fun severity policyId =>
    (hys.stable severity policyId).trans (hzs.stable severity policyId).symm

end StablySorted

/-! ### Results -/

namespace Tally.Sums

variable {judged : List Judged} {t : Tally}

/-- For coherent judgements `overallStatus` is `violationsDetected` as soon as one policy is
violated. -/
theorem violationsDetected_iff (h : Sums judged t) (hjudged : ∀ j ∈ judged, j.Coherent)
    (assessmentId : AssessmentId) (evaluated : Nat) :
    (t.result assessmentId evaluated).overallStatus = .violationsDetected ↔ 0 < t.failed := by
  have hempty : (t.result assessmentId evaluated).violations = []
      ↔ ∀ j ∈ judged, j.violations = [] := by
    have hperm : (t.result assessmentId evaluated).violations.Perm t.violations :=
      List.mergeSort_perm _ _
    rw [← List.length_eq_zero_iff, hperm.length_eq, List.length_eq_zero_iff, h.violations,
      List.flatMap_eq_nil_iff]
  rw [h.failed, List.countP_pos_iff, BulkResult.overallStatus]
  constructor
  · intro hstatus
    have hne : (t.result assessmentId evaluated).violations ≠ [] := fun hnil => by
      rw [hnil] at hstatus
      exact absurd hstatus (by decide)
    obtain ⟨j, hj, hviolations⟩ : ∃ j ∈ judged, j.violations ≠ [] := by
      simpa using fun hall => hne (hempty.2 hall)
    exact ⟨j, hj, (hjudged j hj).violations_ne_nil_iff.1 hviolations⟩
  · rintro ⟨j, hj, hviolated⟩
    have hne : (t.result assessmentId evaluated).violations ≠ [] := fun hnil =>
      (hjudged j hj).violated hviolated (hempty.1 hnil j hj)
    rw [if_neg (by simpa using hne)]

/-- The action is `blocked` when a violated policy prevents (`Judged.blocking`). -/
theorem action_eq_blocked_iff (h : Sums judged t) (hjudged : ∀ j ∈ judged, j.Coherent) :
    t.action = .blocked ↔ 0 < judged.countP Judged.blocking := by
  rw [h.action.eq_blocked_iff, List.mem_filterMap, List.countP_pos_iff]
  exact exists_congr fun j => and_congr_right fun hj => (hjudged j hj).action

/-- There are `blockingViolations` in that case, too. -/
theorem blockingViolations_pos_iff (h : Sums judged t) (hjudged : ∀ j ∈ judged, j.Coherent)
    (assessmentId : AssessmentId) (evaluated : Nat) :
    0 < (t.result assessmentId evaluated).blockingViolations
      ↔ 0 < judged.countP Judged.blocking := by
  have hids : 0 < (t.result assessmentId evaluated).blockingViolations
      ↔ ∃ v ∈ t.violations, v.policyId ∈ t.preventing := by
    show 0 < (List.map _ (List.filter _ _)).length ↔ _
    rw [List.length_map, ← List.countP_eq_length_filter, List.countP_pos_iff]
    simp
  rw [hids, List.countP_pos_iff, h.violations, h.preventing]
  constructor
  · rintro ⟨v, -, hprevented⟩
    obtain ⟨j, hj, -⟩ := List.mem_map.1 (List.mem_reverse.1 hprevented)
    exact ⟨j, List.mem_of_mem_filter hj, List.of_mem_filter hj⟩
  · rintro ⟨j, hj, hblocking⟩
    obtain ⟨v, hv⟩ := List.exists_mem_of_ne_nil _
      ((hjudged j hj).violated (Judged.blocking_iff.1 hblocking).1)
    refine ⟨v, List.mem_flatMap.2 ⟨j, hj, hv⟩, List.mem_reverse.2 (List.mem_map.2 ⟨j, ?_, ?_⟩)⟩
    · exact List.mem_filter.2 ⟨hj, hblocking⟩
    · exact ((hjudged j hj).policyId v hv).symm

end Tally.Sums

/-! ### Slots -/

namespace Tally

/-- How many policies the tally `t` has counted. -/
def counted (t : Tally) : Nat := t.passed + t.failed + t.errored

/-- One more `slot` counts once, and among the errors if it is listed there. -/
theorem counted_add (t : Tally) (n : Entry) (slot : Option (Except Unjudged Outcome)) :
    (t.add n slot).counted = t.counted + 1
      ∧ (t.errors.length = t.errored → (t.add n slot).errors.length = (t.add n slot).errored) := by
  match slot with
  | none => exact ⟨by simp only [add, addErrored, counted]; omega, by simp [add, addErrored]⟩
  | some (.error e) =>
    exact ⟨by simp only [add, addErrored, counted]; omega, by simp [add, addErrored]⟩
  | some (.ok o) =>
    rw [add]
    split
    · exact ⟨by simp only [counted]; omega, id⟩
    · exact ⟨by simp only [addFailed, counted]; omega, id⟩

theorem counted_ofSlots (entries : List Entry) (slots : List (Option (Except Unjudged Outcome))) :
    (ofSlots entries slots).counted = (entries.zip slots).length
      ∧ (ofSlots entries slots).errors.length = (ofSlots entries slots).errored := by
  rw [ofSlots]
  induction entries.zip slots using List.reverseRecOn with
  | nil => exact ⟨rfl, rfl⟩
  | append_singleton pairs s ih =>
    obtain ⟨hcounted, herrors⟩ := counted_add (pairs.foldl (fun t s => t.add s.1 s.2) empty) s.1 s.2
    rw [List.foldl_append, List.length_append, ← ih.1]
    exact ⟨hcounted, herrors ih.2⟩

end Tally

/-- **Each policy is counted once** by `merge`, whatever its slot holds, and each that is counted as
errored is listed. -/
theorem merge_counts (assessmentId : AssessmentId) {entries : List Entry}
    {slots : List (Option (Except Unjudged Outcome))} (h : slots.length = entries.length) :
    let r := merge assessmentId entries slots
    r.evaluatedPolicies = entries.length
      ∧ r.passedPolicies + r.failedPolicies + r.erroredPolicies = entries.length
      ∧ r.errors.length = r.erroredPolicies := by
  obtain ⟨hcounted, herrors⟩ := Tally.counted_ofSlots entries slots
  rw [List.length_zip, h, Nat.min_self] at hcounted
  exact ⟨rfl, hcounted, herrors⟩

/-- **Merging full slots is adding up the judgements that they hold**: `merge` is `ofJudged`, made a
`result`. -/
theorem merge_judged (assessmentId : AssessmentId) (judged : List Judged) :
    merge assessmentId ((judged.map Prod.fst).map Policy.entry) ((judged.map Prod.snd).map some)
      = (Tally.ofJudged judged).result assessmentId judged.length := by
  rw [merge, Tally.ofSlots, Tally.ofJudged, List.map_map, List.map_map, List.zip_map',
    List.foldl_map, List.length_map]
  rfl

theorem BulkResult.empty_eq (assessmentId : AssessmentId) :
    empty assessmentId = (Tally.ofJudged []).result assessmentId 0 := by
  simp [empty, Tally.ofJudged, Tally.result, Tally.empty]

variable [Pattern.Library]

/-- Where policies are active, `judgeAll` gives what the reports on them come to, in the order of
the policies. -/
theorem Engine.judgeAll_eq (e : Engine) (ids : IdSource) (now : Timestamp) (a : Assessment)
    (policies : List Policy) :
    let active := policies.filter Policy.isActive
    e.judgeAll ids now a policies
      = (Tally.ofJudged (e.judgeEach now a.id a.context ids active)).result a.id active.length := by
  intro active
  have hpolicies := e.map_policy_judgeEach ids now a active
  unfold judgeAll
  cases hactive : policies.filter Policy.isActive with
  | nil =>
    show BulkResult.empty a.id = _
    rw [BulkResult.empty_eq, show active = [] from hactive]
    rfl
  | cons p ps =>
    show merge a.id ((p :: ps).map Policy.entry) _ = _
    rw [← hactive, show policies.filter Policy.isActive = active from rfl]
    generalize e.judgeEach now a.id a.context ids active = judged at hpolicies ⊢
    have hlength : active.length = (judged.map Prod.snd).length := by
      rw [← hpolicies, List.length_map, List.length_map]
    rw [hlength, Pool.foldl_fillSlot, ← hpolicies, List.length_map]
    exact merge_judged a.id judged

theorem Engine.violations_judgeAll (e : Engine) (ids : IdSource) (now : Timestamp)
    (a : Assessment) (policies : List Policy) :
    (e.judgeAll ids now a policies).violations
      = (Tally.ofJudged (e.judgeEach now a.id a.context ids
        (policies.filter Policy.isActive))).violations.mergeSort Tally.inOrder := by
  rw [judgeAll_eq]
  rfl

theorem Engine.notifications_judgeAll (e : Engine) (ids : IdSource) (now : Timestamp)
    (a : Assessment) (policies : List Policy) :
    (e.judgeAll ids now a policies).notifications
      = (Tally.ofJudged (e.judgeEach now a.id a.context ids
        (policies.filter Policy.isActive))).notifications := by
  rw [judgeAll_eq]
  rfl

/-! ### Agreement -/

/-- What a result of judging policies says, in terms of `single`: judgements that were made of each
active policy by itself. What is minted for a violation or a notification is left aside. -/
structure BulkResult.Agrees (single : List Judged) (r : BulkResult) : Prop where
  evaluated : r.evaluatedPolicies = single.length
  passed : r.passedPolicies = single.countP Judged.passed
  failed : r.failedPolicies = single.countP Judged.violated
  errored : r.erroredPolicies = single.countP Judged.fatal
  /-- Each active policy is counted once. -/
  counts : r.passedPolicies + r.failedPolicies + r.erroredPolicies = single.length
  /-- The policies that could not be judged, in their order, with what is told of them. -/
  errors : r.errors = single.filterMap Judged.failure?
  /-- The violations of all policies, by severity and policy; what is alike keeps its order. -/
  violations : StablySorted ((single.flatMap Judged.violations).map Violation.unminted)
    (r.violations.map Violation.unminted)
  notifications : r.notifications.map Notification.unminted
    = (single.flatMap Judged.notifications).map Notification.unminted
  action : EnforcementAction.Strongest (single.filterMap Judged.action?) r.enforcementAction
  status : r.overallStatus = .violationsDetected ↔ 0 < r.failedPolicies
  /-- A block is due to a violated policy that prevents. -/
  blocked : r.enforcementAction = .blocked
    ↔ ∃ j ∈ single, j.violated = true ∧ j.1.content.enforcementMode = .prevent
  blocking : r.enforcementAction = .blocked ↔ 0 < r.blockingViolations

/-- **Judgements of the same policies agree**, however they were come by: `judged` is what has been
reported to a result, and `single` was made one by one. -/
theorem Engine.AreJudgements.agrees {e : Engine} {a : Assessment} {ps : List Policy}
    {judged single : List Judged} (h : e.AreJudgements a ps judged)
    (hsingle : e.AreJudgements a ps single) (assessmentId : AssessmentId) :
    ((Tally.ofJudged judged).result assessmentId judged.length).Agrees single := by
  have hcoherent := h.coherent
  have halike : Judged.Alike judged single := h.alike hsingle
  have hsums : Tally.Sums judged (Tally.ofJudged judged) := Tally.sums_ofJudged hcoherent
  have hlength : judged.length = single.length := by
    rw [← List.length_map Prod.fst, h.policies, ← hsingle.policies, List.length_map]
  have hpassed : (Tally.ofJudged judged).passed = single.countP Judged.passed :=
    hsums.passed.trans (halike.countP_eq fun _ _ => rfl)
  have hfailed : (Tally.ofJudged judged).failed = single.countP Judged.violated :=
    hsums.failed.trans (halike.countP_eq fun _ _ => rfl)
  have herrored : (Tally.ofJudged judged).errored = single.countP Judged.fatal :=
    hsums.errored.trans (halike.countP_eq fun _ _ => rfl)
  have hblocked : (Tally.ofJudged judged).action = .blocked ↔ 0 < single.countP Judged.blocking := by
    rw [← halike.countP_eq fun _ _ => rfl]
    exact hsums.action_eq_blocked_iff hcoherent
  constructor
  · exact hlength
  · exact hpassed
  · exact hfailed
  · exact herrored
  · show (Tally.ofJudged judged).passed + (Tally.ofJudged judged).failed
      + (Tally.ofJudged judged).errored = _
    rw [hpassed, hfailed, herrored, Judged.countP_add_countP_add_countP]
  · rw [← halike.filterMap_eq fun _ _ => rfl]
    exact hsums.errors
  · rw [← halike.map_flatMap_eq Judged.violations_unminted, ← hsums.violations]
    exact (stablySorted_mergeSort _).unminted
  · rw [← halike.map_flatMap_eq Judged.notifications_unminted, ← hsums.notifications]
    rfl
  · rw [← halike.filterMap_eq fun _ _ => rfl]
    exact hsums.action
  · exact hsums.violationsDetected_iff hcoherent assessmentId judged.length
  · show (Tally.ofJudged judged).action = .blocked ↔ _
    rw [hblocked, List.countP_pos_iff]
    exact exists_congr fun j => and_congr_right fun _ => Judged.blocking_iff
  · show (Tally.ofJudged judged).action = .blocked ↔ _
    rw [hblocked, ← halike.countP_eq fun _ _ => rfl]
    exact (hsums.blockingViolations_pos_iff hcoherent assessmentId judged.length).symm

end Governance
