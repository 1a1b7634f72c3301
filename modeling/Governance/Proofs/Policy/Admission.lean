import Governance.Policy.Lifecycle

/-!
# Updates that a policy admits

A policy rejects an update for the first of four reasons that applies: the policy is archived, the
update was made for another version, it sets a blank name, or its conditions are not accepted. If
none does, the update is applied.

* `PolicyUpdate.checkedConditions_eq_ok_iff`: the checked conditions are those of the update.
* `update_eq_error_iff`: an update fails exactly when, and as, it is rejected.
* `admits_iff`: an update is admitted when there is no reason to reject it.
* `Admits.update_eq`: what becomes of an update that is admitted.
-/

namespace Governance

theorem PolicyStatus.isTerminal_iff {s : PolicyStatus} : s.isTerminal = true ↔ s = .archived := by
  cases s <;> decide

theorem PolicyStatus.isTerminal_eq_false_iff {s : PolicyStatus} :
    s.isTerminal = false ↔ s ≠ .archived := by
  cases s <;> decide

namespace PolicyUpdate

variable {u : PolicyUpdate} {limits : ValidationLimits}

variable [Pattern.Library]

/-- The `conditions` that `checkedConditions` gives are those of the update `u`, and there are none
without them. -/
theorem checkedConditions_eq_ok_iff {conditions : Option Condition} :
    Policy.checkedConditions limits u = .ok conditions ↔
    (∀ w ∈ u.conditions, ∃ c ∈ conditions, w.check limits = .ok c)
      ∧ ∀ c ∈ conditions, ∃ w ∈ u.conditions, w.check limits = .ok c := by
  unfold Policy.checkedConditions
  cases u.conditions with
  | none => cases conditions <;> simp
  | some w =>
    dsimp only
    cases hw : w.check limits <;> cases conditions <;> simp [hw, eq_comm]

theorem checkedConditions_eq_error_iff {e : PolicyError} :
    Policy.checkedConditions limits u = .error e ↔
      ∃ w ∈ u.conditions, ∃ r, w.check limits = .error r ∧ e = .invalidConditions r := by
  unfold Policy.checkedConditions
  cases u.conditions with
  | none => simp
  | some w =>
    dsimp only
    cases hw : w.check limits with
    | ok c => simp [hw]
    | error r => simp [hw, eq_comm]

end PolicyUpdate

namespace Policy

variable [Pattern.Library]

/-- Why the policy `p` rejects an update. A reason counts only where none before it applies. -/
inductive Rejects (p : Policy) (limits : ValidationLimits) (expected : Version)
    (u : PolicyUpdate) : PolicyError → Prop
  | terminal (harchived : p.status = .archived) :
      Rejects p limits expected u (.terminalState .archived)
  | stale (hlive : p.status ≠ .archived) (hstale : expected ≠ p.version) :
      Rejects p limits expected u (.staleVersion expected p.version)
  | unnamed {name : String} (hlive : p.status ≠ .archived) (hcurrent : expected = p.version)
      (hname : name ∈ u.name) (hblank : Text.isAllBlank name = true) :
      Rejects p limits expected u .emptyName
  | unsound {w : WrittenCondition} {r : Rejection} (hlive : p.status ≠ .archived)
      (hcurrent : expected = p.version)
      (hnamed : ∀ name ∈ u.name, Text.isAllBlank name = false) (hw : w ∈ u.conditions)
      (hcheck : w.check limits = .error r) : Rejects p limits expected u (.invalidConditions r)

/-- Nothing is the reason for `p` to reject the update `u`. -/
structure Admits (p : Policy) (limits : ValidationLimits) (expected : Version)
    (u : PolicyUpdate) : Prop where
  live : p.status ≠ .archived
  current : expected = p.version
  named : ∀ name ∈ u.name, Text.isAllBlank name = false
  sound : ∀ w ∈ u.conditions, ∃ c, w.check limits = .ok c

variable {p : Policy} {now : Timestamp} {limits : ValidationLimits} {expected : Version}
  {u : PolicyUpdate}

/-- **An update fails exactly when it is rejected, and for that reason**: `update` gives the error
`e` that `Rejects` tells. -/
theorem update_eq_error_iff {e : PolicyError} :
    p.update now limits expected u = .error e ↔ p.Rejects limits expected u e := by
  constructor
  · intro h
    unfold update at h
    split at h
    · next hterminal =>
      obtain rfl := Except.error.inj h
      have harchived := PolicyStatus.isTerminal_iff.1 hterminal
      rw [harchived]
      exact .terminal harchived
    · next hterminal =>
      have hlive := PolicyStatus.isTerminal_eq_false_iff.1 (Bool.eq_false_iff.2 hterminal)
      split at h
      · next hstale =>
        obtain rfl := Except.error.inj h
        exact .stale hlive hstale
      · next hstale =>
        have hcurrent := Decidable.not_not.1 hstale
        split at h
        · next hblank =>
          obtain rfl := Except.error.inj h
          obtain ⟨name, hname, hblank⟩ := (Option.any_eq_true _ _).1 hblank
          exact .unnamed hlive hcurrent hname hblank
        · next hblank =>
          have hnamed := (Option.any_eq_false _ _).1 (Bool.eq_false_iff.2 hblank)
          split at h
          · next hchecked =>
            obtain rfl := Except.error.inj h
            obtain ⟨w, hw, r, hr, rfl⟩ := PolicyUpdate.checkedConditions_eq_error_iff.1 hchecked
            exact .unsound hlive hcurrent hnamed hw hr
          · split at h <;> exact absurd h (by simp)
  · intro h
    cases h with
    | terminal harchived =>
      rw [update_of_isTerminal (PolicyStatus.isTerminal_iff.2 harchived), harchived]
    | stale hlive hstale => simp [update, PolicyStatus.isTerminal_eq_false_iff.2 hlive, hstale]
    | unnamed hlive hcurrent hname hblank =>
      have hblank := (Option.any_eq_true Text.isAllBlank u.name).2 ⟨_, hname, hblank⟩
      simp [update, PolicyStatus.isTerminal_eq_false_iff.2 hlive, hcurrent, hblank]
    | unsound hlive hcurrent hnamed hw hcheck =>
      have hblank := (Option.any_eq_false Text.isAllBlank u.name).2 hnamed
      have hchecked := PolicyUpdate.checkedConditions_eq_error_iff.2 ⟨_, hw, _, hcheck, rfl⟩
      simp [update, PolicyStatus.isTerminal_eq_false_iff.2 hlive, hcurrent, hblank, hchecked]

/-- An update that nothing `Rejects` is admitted. -/
theorem admits_iff : p.Admits limits expected u ↔ ∀ e, ¬ p.Rejects limits expected u e := by
  constructor
  · rintro ⟨hlive, hcurrent, hnamed, hsound⟩ e hrejects
    cases hrejects with
    | terminal harchived => exact hlive harchived
    | stale _ hstale => exact hstale hcurrent
    | unnamed _ _ hname hblank => exact Bool.false_ne_true ((hnamed _ hname).symm.trans hblank)
    | unsound _ _ _ hw hcheck =>
      obtain ⟨c, hc⟩ := hsound _ hw
      exact absurd (hc.symm.trans hcheck) (by simp)
  · intro h
    have hlive : p.status ≠ .archived := fun harchived => h _ (.terminal harchived)
    have hcurrent : expected = p.version :=
      Decidable.not_not.1 fun hstale => h _ (.stale hlive hstale)
    have hnamed : ∀ name ∈ u.name, Text.isAllBlank name = false := fun name hname =>
      Bool.eq_false_iff.2 fun hblank => h _ (.unnamed hlive hcurrent hname hblank)
    refine ⟨hlive, hcurrent, hnamed, fun w hw => ?_⟩
    cases hcheck : w.check limits with
    | ok c => exact ⟨c, rfl⟩
    | error r => exact absurd (.unsound hlive hcurrent hnamed hw hcheck) (h _)

theorem admits_of_update_eq_ok {changed : Option Policy}
    (h : p.update now limits expected u = .ok changed) : p.Admits limits expected u :=
  admits_iff.2 fun _ hrejects =>
    absurd (h.symm.trans (update_eq_error_iff.2 hrejects)) (by simp)

/-- **An admitted update is applied**: `update` revises `p` if `u.apply` makes a difference, and
gives `none` otherwise. -/
theorem Admits.update_eq (h : p.Admits limits expected u) (now : Timestamp) :
    ∃ conditions, checkedConditions limits u = .ok conditions
      ∧ p.update now limits expected u
        = if ({ p with content := u.apply conditions p.content } == p) = true then .ok none
          else .ok (some (p.revise now (u.apply conditions p.content))) := by
  obtain ⟨hlive, rfl, hnamed, hsound⟩ := h
  have hterminal := PolicyStatus.isTerminal_eq_false_iff.2 hlive
  have hblank := (Option.any_eq_false Text.isAllBlank u.name).2 hnamed
  cases hchecked : checkedConditions limits u with
  | ok conditions => exact ⟨conditions, rfl, by simp [update, hterminal, hblank, hchecked]⟩
  | error e =>
    obtain ⟨w, hw, r, hr, -⟩ := PolicyUpdate.checkedConditions_eq_error_iff.1 hchecked
    obtain ⟨c, hc⟩ := hsound w hw
    exact absurd (hc.symm.trans hr) (by simp)

end Policy

end Governance
