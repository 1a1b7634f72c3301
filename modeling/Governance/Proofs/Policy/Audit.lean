import Governance.Proofs.Policy.Editions
import Governance.Proofs.Violation.Origin
import Governance.Pattern.Program

/-!
# Violations stay auditable

A policy is called and judged in any order, and every violation is written down. What was found long
ago can still be told: the policy keeps the edition that was judged, under the number that the
violation carries.

* `Tells.change`: a policy that tells of a violation does so after every call.
* `Ledger.next_change`: a step does no more than calls do, and finds what the policy tells of.
* `Ledger.sound_run`: whatever is called and judged, the policy tells of all that was found.
* `found_auditable`: so every violation leads back to one edition, one severity and one leaf.
-/

namespace Governance

namespace Policy

/-- The policy `p` tells of the violation `v`: it is the policy that was violated, and keeps an
edition with the version, the severity and the leaf that `v` carries. -/
structure Tells (p : Policy) (v : Violation) : Prop where
  policyId : v.policyId = p.id
  tenant : v.tenant = p.tenant
  edition : ∃ k ∈ p.editions,
    k.version = v.policyVersion ∧ k.severity = v.severity ∧ v.leaf ∈ k.conditions.leaves

/-- **What is told stays told** when `p` changes to `q`. -/
theorem Tells.change [Pattern.Library] {p q : Policy} {v : Violation} (h : p.Tells v)
    (hpq : p.Change q) :
    q.Tells v where
  policyId := h.policyId.trans hpq.id_eq.symm
  tenant := h.tenant.trans hpq.tenant_eq.symm
  edition := by
    obtain ⟨k, hk, hkv⟩ := h.edition
    exact ⟨k, hpq.editions_prefix.subset hk, hkv⟩

/-- By `judge` a policy tells of the violations that it has just been judged to have. -/
theorem tells_of_judge [Pattern.Library] {e : Engine} {ids : IdSource} {now : Timestamp}
    {a : Assessment} {p : Policy} {o : Outcome} (h : e.judge ids now a p = .ok o) {v : Violation}
    (hv : v ∈ o.violations) : p.Tells v := by
  obtain ⟨hid, htenant, hversion, hseverity, hleaf⟩ := Engine.judge_violation h hv
  exact ⟨hid, htenant, p.current, p.current_mem_editions, hversion.symm, hseverity.symm, hleaf⟩

/-! ### Runs -/

/-- What may happen to a policy under audit: a `call`, or a judgement. -/
inductive Step
  | call (c : Policy.Call)
  | judge (e : Engine) (ids : IdSource) (now : Timestamp) (a : Assessment)

end Policy

open Policy (Step)

/-- A policy, and the violations of it that were found so far. -/
structure Ledger where
  policy : Policy
  found : List Violation

namespace Ledger

section Library

variable [Pattern.Library]

/-- The ledger `l` after a step. A policy that cannot be judged is not found to be violated. -/
def next (l : Ledger) : Step → Ledger
  | .call c => { l with policy := l.policy.after c }
  | .judge e ids now a =>
    match e.judge ids now a l.policy with
    | .ok o => { l with found := l.found ++ o.violations }
    | .error _ => l

def run (l : Ledger) (steps : List Step) : Ledger := steps.foldl next l

/-- Of all that `l.found` lists, `l.policy` tells. -/
structure Sound (l : Ledger) : Prop where
  numbered : l.policy.Numbered
  tells : ∀ v ∈ l.found, l.policy.Tells v

variable {l : Ledger}

/-- **What a step does.** By `next` the policy changes in the ways of calls, and the violations that
are added are `new` ones of which it tells. -/
theorem next_change (l : Ledger) (step : Step) :
    l.policy.Change (l.next step).policy
      ∧ ∃ new, (l.next step).found = l.found ++ new ∧ ∀ v ∈ new, (l.next step).policy.Tells v := by
  cases step with
  | call c =>
    refine ⟨l.policy.change_after c, [], ?_, by simp⟩
    rw [List.append_nil]
    rfl
  | judge e ids now a =>
    simp only [next]
    cases ho : e.judge ids now a l.policy with
    | ok o => exact ⟨.none, o.violations, rfl, fun v hv => Policy.tells_of_judge ho hv⟩
    | error cause =>
      refine ⟨.none, [], ?_, by simp⟩
      rw [List.append_nil]

theorem Sound.next (h : l.Sound) (step : Step) : (l.next step).Sound := by
  obtain ⟨hchange, new, hfound, hnew⟩ := l.next_change step
  refine ⟨h.numbered.change hchange, fun v hv => ?_⟩
  rw [hfound] at hv
  rcases List.mem_append.1 hv with hold | hv
  · exact (h.tells v hold).change hchange
  · exact hnew v hv

theorem found_next_subset (step : Step) : l.found ⊆ (l.next step).found := by
  obtain ⟨-, new, hfound, -⟩ := l.next_change step
  rw [hfound]
  exact List.subset_append_left _ _

theorem length_history_next_le (step : Step) :
    (l.next step).policy.history.length ≤ l.policy.history.length + 1 :=
  (l.next_change step).1.length_history_le

theorem run_append (l : Ledger) (steps later : List Step) :
    l.run (steps ++ later) = (l.run steps).run later := List.foldl_append

/-- **All that is found stays told**: `Sound` goes on through `run`, in whatever order calls and
judgements come. -/
theorem sound_run (h : l.Sound) (steps : List Step) : (l.run steps).Sound := by
  induction steps generalizing l with
  | nil => exact h
  | cons step rest ih => exact ih (h.next step)

theorem found_subset_run (l : Ledger) (steps : List Step) : l.found ⊆ (l.run steps).found := by
  induction steps generalizing l with
  | nil => exact List.Subset.refl _
  | cons step rest ih => exact List.Subset.trans (found_next_subset step) (ih (l.next step))

theorem length_history_run_le (l : Ledger) (steps : List Step) :
    (l.run steps).policy.history.length ≤ l.policy.history.length + steps.length := by
  induction steps generalizing l with
  | nil => exact Nat.le_refl _
  | cons step rest ih =>
    have hrest := ih (l.next step)
    have hstep := length_history_next_le (l := l) step
    rw [List.length_cons]
    show ((l.next step).run rest).policy.history.length ≤ _
    omega

end Library

end Ledger

namespace Policy

/-- **Every violation stays auditable.** Let `p` be created, called and judged in `steps`, and `v`
be a violation found by then. After any steps `later`, fewer than there are version numbers in all,
the policy `q` keeps exactly one edition of `v.policyVersion`, in its history below the current
version and in its content otherwise (`editionAt`). It has the severity of `v` and, among its
leaves, the field, the operator and the operand of `v`. -/
theorem found_auditable [Pattern.Library] (id : PolicyId) (now : Timestamp)
    (limits : ValidationLimits) (new : NewPolicy) (p : Policy)
    (h : create id now limits new = .ok p) (steps later : List Step)
    (hlen : (steps ++ later).length < UInt64.size - 1) (v : Violation)
    (hv : v ∈ (Ledger.run ⟨p, []⟩ steps).found) :
    let q := (Ledger.run ⟨p, []⟩ (steps ++ later)).policy
    (q.editions.map Edition.version).count v.policyVersion = 1
      ∧ (∃ k, q.editionAt v.policyVersion = some k ∧ k.version = v.policyVersion
        ∧ k.severity = v.severity
        ∧ ⟨v.data.field, v.data.operator, v.data.expected⟩ ∈ k.conditions.leaves)
      ∧ v.policyId = q.id ∧ v.tenant = q.tenant := by
  intro q
  obtain ⟨conditions, -, rfl⟩ := map_eq_ok_iff.1 h
  have hsound : (Ledger.run ⟨initial id now new conditions, []⟩ (steps ++ later)).Sound :=
    Ledger.sound_run ⟨numbered_initial id now new conditions, by simp⟩ (steps ++ later)
  have hfound : v ∈ (Ledger.run ⟨initial id now new conditions, []⟩ (steps ++ later)).found := by
    rw [Ledger.run_append]
    exact Ledger.found_subset_run _ later hv
  have hroom : q.editions.length < UInt64.size := by
    have hhistory := Ledger.length_history_run_le ⟨initial id now new conditions, []⟩
      (steps ++ later)
    rw [length_editions]
    show q.history.length + 1 < UInt64.size
    have hq : q.history.length ≤ 0 + (steps ++ later).length := hhistory
    omega
  obtain ⟨hid, htenant, k, hk, hversion, hseverity, hleaf⟩ := hsound.tells v hfound
  refine ⟨?_, ⟨k, ?_, hversion, hseverity, hleaf⟩, hid, htenant⟩
  · refine List.count_eq_one_of_mem (hsound.numbered.nodup_versions hroom) ?_
    rw [← hversion]
    exact List.mem_map_of_mem hk
  · rw [← hversion]
    exact hsound.numbered.editionAt hroom hk

/-- Rule that a system needs oversight, or at least a level of risk. -/
def oversightRule : NewPolicy where
  tenant := ⟨⟨"eu", by decide⟩⟩
  content :=
    { name := "Oversight"
      description := ""
      category := ""
      severity := .high
      policyType := ""
      scope := ""
      jurisdictions := []
      industries := []
      conditions :=
        ⟨none, "OR", none, some
          [⟨some "humanOversight", "IS_TRUE", none, none⟩,
           ⟨none, "NOT", none, some [⟨some "riskLevel", "IS_NULL", none, none⟩]⟩]⟩
      enforcementMode := .detect
      autoRemediate := false
      onViolation := [] }
  status := .active

/-- Update that sets the `severity`. -/
def severityUpdate (severity : Severity) : PolicyUpdate :=
  ⟨none, none, none, some severity, none, none, none, none, none, none, none, none⟩

/-- A violation found under high severity is still one when the severity has been lowered and the
policy archived. -/
theorem found_auditable_oversightRule :
    let judged : List Step :=
      [.judge ⟨.still, .default⟩ ⟨Uuid.ofNat, 2⟩ ⟨0, 0⟩
        (.bare ⟨⟨"system", by decide⟩⟩ oversightRule.tenant)]
    let later : List Step :=
      [.call (.update ⟨1, 0⟩ .default 1 (severityUpdate .low)),
       .call (.transition ⟨2, 0⟩ .archived)]
    ∃ p, create ⟨Uuid.ofNat 1⟩ ⟨0, 0⟩ .default oversightRule = .ok p
      ∧ (judged ++ later).length < UInt64.size - 1
      ∧ ∃ v ∈ (Ledger.run ⟨p, []⟩ judged).found,
        let q := (Ledger.run ⟨p, []⟩ (judged ++ later)).policy
        q.status = .archived ∧ q.content.severity = .low
          ∧ ∃ k, q.editionAt v.policyVersion = some k ∧ k.severity = v.severity
            ∧ v.severity = .high := by
  intro judged later
  obtain ⟨p, hp⟩ : ∃ p, create ⟨Uuid.ofNat 1⟩ ⟨0, 0⟩ .default oversightRule = .ok p := ⟨_, rfl⟩
  have hlen : (judged ++ later).length < UInt64.size - 1 := by decide
  have hfound : ∃ v, v ∈ (Ledger.run ⟨p, []⟩ judged).found ∧ v.severity = .high := by
    obtain rfl := Except.ok.inj hp
    exact ⟨_, List.mem_cons_self, rfl⟩
  obtain ⟨v, hv, hseverity⟩ := hfound
  obtain ⟨-, ⟨k, hk, -, hkv, -⟩, -, -⟩ :=
    found_auditable _ _ _ oversightRule p hp judged later hlen v hv
  refine ⟨p, hp, hlen, v, hv, ?_, ?_, k, hk, hkv, hseverity⟩
  · obtain rfl := Except.ok.inj hp
    rfl
  · obtain rfl := Except.ok.inj hp
    rfl

end Policy

end Governance
