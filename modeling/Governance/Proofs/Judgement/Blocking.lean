import Mathlib.Data.List.Flatten
import Governance.Proofs.Judgement.Decision
import Governance.Proofs.Judgement.Owned
import Governance.Pattern.Program

/-!
# Which violations block

A merged result finds the violations that block by the identifiers of their policies: those of
violated policies that prevent. As long as policies that share an identifier also share a mode,
these are the violations that the policies that prevent have raised. Two versions of one policy may
differ in their mode; then the violations of the milder one are taken for blocking as well.

* `filter_preventing`: what blocks was raised under the identifier of a policy that prevents.
* `judgeAll_blocking`: nothing that should block is missed, and when nothing else is listed.
* `judgeAll_blocking_twoVersions`: what is listed when two versions differ in their mode.
-/

namespace Governance

section Chosen

variable {α β : Type} {p q : α → Bool} {f : α → List β} {xs : List α}

/-- Two choices `p` and `q` that agree where `f` gives something give the same. -/
theorem flatMap_filter_congr (h : ∀ x ∈ xs, f x ≠ [] → p x = q x) :
    (xs.filter p).flatMap f = (xs.filter q).flatMap f := by
  induction xs with
  | nil => rfl
  | cons x xs ih =>
    rw [List.forall_mem_cons] at h
    obtain ⟨hx, hrest⟩ := h
    by_cases hf : f x = []
    · cases hp : p x <;> cases hq : q x <;> simp [hp, hq, hf, ih hrest]
    · have hpq := hx hf
      cases hp : p x <;> simp [hp, ← hpq, ih hrest]

/-- A choice `p` that leaves out an `x` for which `f` gives something gives less. -/
theorem length_flatMap_filter_lt {x : α} (hx : x ∈ xs) (hp : p x = false) (hf : f x ≠ []) :
    ((xs.filter p).flatMap f).length < (xs.flatMap f).length := by
  obtain ⟨front, back, rfl⟩ := List.append_of_mem hx
  have hle (ys : List α) : ((ys.filter p).flatMap f).length ≤ (ys.flatMap f).length :=
    (List.filter_sublist.flatMap f).length_le
  have hpos := List.length_pos_iff.2 hf
  have hfront := hle front
  have hback := hle back
  rw [List.filter_append, List.filter_cons_of_neg (by simp [hp]), List.flatMap_append,
    List.flatMap_append, List.flatMap_cons]
  simp only [List.length_append]
  omega

end Chosen

/-- What `p` chooses from sorted violations is sorted. -/
theorem StablySorted.filter {xs ys : List Violation} (h : StablySorted xs ys)
    (p : Violation → Bool) : StablySorted (xs.filter p) (ys.filter p) where
  perm := h.perm.filter p
  ordered := h.ordered.filter p
  stable severity policyId := by
    rw [List.filter_comm, h.stable, List.filter_comm]

namespace Judged

/-- Whether the policy of `j` prevents, violated or not. -/
def prevents (j : Judged) : Bool := j.1.content.enforcementMode == .prevent

theorem Coherent.blocking_eq {j : Judged} (h : j.Coherent) (hne : j.violations ≠ []) :
    j.blocking = j.prevents := by
  rw [blocking, h.violations_ne_nil_iff.1 hne, Bool.true_and]
  rfl

/-- What policies that prevent have raised, among those of `judged`. -/
def raised (judged : List Judged) : List Violation := (judged.filter prevents).flatMap violations

/-- Whether `j` is under the identifier of a violated policy that prevents. -/
def shares (judged : List Judged) (j : Judged) : Bool :=
  judged.any fun k => k.blocking && k.1.id == j.1.id

theorem shares_iff {judged : List Judged} {k : Judged} :
    shares judged k = true ↔ ∃ j ∈ judged,
      j.violated = true ∧ j.1.content.enforcementMode = .prevent ∧ j.1.id = k.1.id := by
  simp [shares, blocking_iff, and_assoc]

end Judged

namespace Tally.Sums

variable {judged : List Judged} {t : Tally} {assessmentId : AssessmentId} {n : Nat}

theorem contains_preventing_eq_shares (h : Sums judged t) (j : Judged) :
    t.preventing.contains j.1.id = Judged.shares judged j := by
  rw [h.preventing, Judged.shares, Bool.eq_iff_iff, List.contains_iff_mem, List.mem_reverse,
    List.mem_map, List.any_eq_true]
  simp [List.mem_filter, and_assoc]

/-- **What blocks was raised under the identifier of a policy that prevents**: by `Judged.shares`,
and that is what the filter by `t.preventing` lets through. -/
theorem filter_preventing (h : Sums judged t) (hjudged : ∀ j ∈ judged, j.Coherent) :
    t.violations.filter (fun v => t.preventing.contains v.policyId)
      = (judged.filter (Judged.shares judged)).flatMap Judged.violations := by
  have hchosen : (judged.flatMap Judged.violations).filter
        (fun v => t.preventing.contains v.policyId)
      = (judged.filter fun j => t.preventing.contains j.1.id).flatMap Judged.violations :=
    filter_flatMap_key (fun j hj => (hjudged j hj).policyId) fun k => t.preventing.contains k
  rw [h.violations, hchosen]
  refine congrArg (List.flatMap Judged.violations) (List.filter_congr fun j _ => ?_)
  exact h.contains_preventing_eq_shares j

/-- Whoever prevents and raises something `shares` its own identifier. -/
theorem raised_eq (hjudged : ∀ j ∈ judged, j.Coherent) :
    Judged.raised judged
      = ((judged.filter (Judged.shares judged)).filter Judged.prevents).flatMap
        Judged.violations := by
  rw [List.filter_filter]
  refine flatMap_filter_congr fun j hj hne => ?_
  cases hprevents : j.prevents with
  | false => rfl
  | true =>
    have hblocking : j.blocking = true := ((hjudged j hj).blocking_eq hne).trans hprevents
    have hshares : Judged.shares judged j = true :=
      List.any_eq_true.2 ⟨j, hj, by rw [hblocking, beq_self_eq_true]; rfl⟩
    rw [hshares]
    rfl

/-- Where every violated policy that `shares` its identifier with one that prevents does so itself,
no more is found than what was `raised`. -/
theorem raised_eq_shared (hjudged : ∀ j ∈ judged, j.Coherent)
    (hmodes : ∀ k ∈ judged, Judged.shares judged k = true → k.violated = true →
      k.1.content.enforcementMode = .prevent) :
    Judged.raised judged
      = (judged.filter (Judged.shares judged)).flatMap Judged.violations := by
  rw [raised_eq hjudged, List.filter_filter]
  refine flatMap_filter_congr fun k hk hne => ?_
  cases hshares : Judged.shares judged k with
  | false => rw [Bool.and_false]
  | true =>
    have hkprevent := hmodes k hk hshares ((hjudged k hk).violations_ne_nil_iff.1 hne)
    rw [Judged.prevents, hkprevent]
    rfl

/-- A violated policy `k` that only `shares` its identifier with one that prevents adds to what was
`raised`. -/
theorem length_raised_lt (hjudged : ∀ j ∈ judged, j.Coherent) {k : Judged} (hk : k ∈ judged)
    (hshares : Judged.shares judged k = true) (hviolated : k.violated = true)
    (hmild : k.1.content.enforcementMode ≠ .prevent) :
    (Judged.raised judged).length
      < ((judged.filter (Judged.shares judged)).flatMap Judged.violations).length := by
  rw [raised_eq hjudged]
  have hprevents : k.prevents = false := by simpa [Judged.prevents] using hmild
  exact length_flatMap_filter_lt (List.mem_filter.2 ⟨hk, hshares⟩) hprevents
    ((hjudged k hk).violated hviolated)

/-- In a result `blockingViolationIds` are sorted as all violations are. -/
theorem blockingViolationIds_result (h : Sums judged t) (hjudged : ∀ j ∈ judged, j.Coherent) :
    ∃ sorted,
      StablySorted ((judged.filter (Judged.shares judged)).flatMap Judged.violations) sorted
        ∧ (t.result assessmentId n).blockingViolationIds = sorted.map Violation.id := by
  refine ⟨_, ?_, rfl⟩
  rw [← h.filter_preventing hjudged]
  exact (stablySorted_mergeSort t.violations).filter _

end Tally.Sums

section Library

variable [Pattern.Library]

/-- **Which violations block.** Of what the policies that prevent have `raised`,
`blockingViolationIds` misses nothing. Nothing else is listed, and all is in the order of the
result, if and only if no other violated policy shares its identifier with a violated policy that
prevents. -/
theorem Engine.judgeAll_blocking (e : Engine) (ids : IdSource) (now : Timestamp) (a : Assessment)
    (policies : List Policy) :
    let judged : List Judged :=
      e.judgeEach now a.id a.context ids (policies.filter Policy.isActive)
    let raised := (judged.filter fun j => j.1.content.enforcementMode == .prevent).flatMap
      Judged.violations
    let b := e.judgeAll ids now a policies
    (∀ v ∈ raised, v.id ∈ b.blockingViolationIds)
      ∧ ((∃ sorted, StablySorted raised sorted ∧ b.blockingViolationIds = sorted.map Violation.id) ↔
        ∀ j ∈ judged, ∀ k ∈ judged, j.violated = true → k.violated = true → k.1.id = j.1.id →
          j.1.content.enforcementMode = .prevent → k.1.content.enforcementMode = .prevent) := by
  intro judged raised b
  have hcoherent : ∀ j ∈ judged, j.Coherent := fun j hj => coherent_of_mem_judgeEach hj
  have hsums : Tally.Sums judged (Tally.ofJudged judged) := e.sums_judgeEach ids now a _
  obtain ⟨listed, hlisted, hids⟩ : ∃ listed, StablySorted
      ((judged.filter (Judged.shares judged)).flatMap Judged.violations) listed
      ∧ b.blockingViolationIds = listed.map Violation.id := by
    show ∃ listed, _ ∧ (e.judgeAll ids now a policies).blockingViolationIds = _
    rw [judgeAll_eq]
    exact hsums.blockingViolationIds_result hcoherent
  have hraised : raised = ((judged.filter (Judged.shares judged)).filter Judged.prevents).flatMap
      Judged.violations := Tally.Sums.raised_eq hcoherent
  refine ⟨fun v hv => ?_, ?_, ?_⟩
  · rw [hids]
    refine List.mem_map_of_mem (hlisted.perm.mem_iff.2 ?_)
    rw [hraised] at hv
    exact (List.filter_sublist.flatMap _).subset hv
  · rintro ⟨sorted, hsorted, hsame⟩ j hj k hk hjviolated hkviolated hid hprevent
    -- A policy that does not prevent would make the list longer than what was raised.
    by_contra hmild
    have hshares : Judged.shares judged k = true :=
      Judged.shares_iff.2 ⟨j, hj, hjviolated, hprevent, hid.symm⟩
    have hlonger : raised.length
        < ((judged.filter (Judged.shares judged)).flatMap Judged.violations).length :=
      Tally.Sums.length_raised_lt hcoherent hk hshares hkviolated hmild
    have hlength := congrArg List.length (hids.symm.trans hsame)
    rw [List.length_map, List.length_map, hlisted.perm.length_eq, hsorted.perm.length_eq]
      at hlength
    omega
  · intro hmodes
    have hall : raised = (judged.filter (Judged.shares judged)).flatMap Judged.violations := by
      refine Tally.Sums.raised_eq_shared hcoherent fun k hk hshares hkviolated => ?_
      obtain ⟨j, hj, hjviolated, hprevent, hid⟩ := Judged.shares_iff.1 hshares
      exact hmodes j hj k hk hjviolated hkviolated hid.symm hprevent
    exact ⟨listed, hall ▸ hlisted, hids⟩

end Library

/-- Two versions of one policy, both violated, of which only the grave one prevents: the violation
of the mild one is listed as blocking as well, so what is listed is not what was raised. -/
theorem Engine.judgeAll_blocking_twoVersions :
    let rule (severity : Severity) (mode : EnforcementMode) : Policy :=
      Policy.initial ⟨Uuid.ofNat 1⟩ ⟨0, 0⟩
        { remedyRule with
          content := { remedyRule.content with severity := severity, enforcementMode := mode } }
        (.leaf ⟨"humanOversight", .isTrue, .null⟩)
    let grave := rule .critical .prevent
    let mild := rule .low .detect
    let a := Assessment.bare ⟨⟨"system", by decide⟩⟩ remedyRule.tenant
    let e : Engine := ⟨.still, .default⟩
    let ids : IdSource := ⟨Uuid.ofNat, 4⟩
    let b := e.judgeAll ids ⟨0, 0⟩ a [grave, mild]
    let judged : List Judged := e.judgeEach ⟨0, 0⟩ a.id a.context ids [grave, mild]
    let raised := (judged.filter fun j => j.1.content.enforcementMode == .prevent).flatMap
      Judged.violations
    grave.id = mild.id
      ∧ raised.map Violation.id = [⟨Uuid.ofNat 4⟩]
      ∧ b.blockingViolationIds = [⟨Uuid.ofNat 4⟩, ⟨Uuid.ofNat 5⟩]
      ∧ ¬∃ sorted : List Violation,
        sorted.Perm raised ∧ b.blockingViolationIds = sorted.map Violation.id := by
  intro rule grave mild a e ids b judged raised
  let t := Tally.ofJudged judged
  have hb : b = t.result a.id 2 := e.judgeAll_eq ids ⟨0, 0⟩ a [grave, mild]
  have hordered : b.violations = t.violations := by
    rw [hb]
    exact List.mergeSort_of_pairwise (by decide +kernel)
  have hlisted : b.blockingViolationIds = [⟨Uuid.ofNat 4⟩, ⟨Uuid.ofNat 5⟩] := by
    have hids : b.blockingViolationIds
        = (b.violations.filter fun v => t.preventing.contains v.policyId).map Violation.id := by
      rw [hb]
      rfl
    rw [hids, hordered]
    decide +kernel
  have hraised : raised.map Violation.id = [⟨Uuid.ofNat 4⟩] := by decide +kernel
  refine ⟨rfl, hraised, hlisted, ?_⟩
  rintro ⟨sorted, hperm, hsame⟩
  have hlength := congrArg List.length hsame
  rw [hlisted, (hperm.map Violation.id).length_eq, hraised] at hlength
  exact absurd hlength (by decide)

end Governance
