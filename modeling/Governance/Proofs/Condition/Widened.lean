import Governance.Proofs.Condition.WireForm

/-!
# Conditions under wider limits

Limits only ever refuse. A pattern that compiles within a size compiles within every larger one
(`Pattern.check_of_le`), and a condition that is accepted under some limits is accepted, as the same
condition, under all that are wider. A stored document is checked under the default limits, so
whatever was accepted under these or narrower ones is read back from it.

* `StandsFor.widen`: what stands for a condition stands for it under wider limits.
* `Storable.ofJson_toJson`: a condition accepted within the default limits is read back from its
  document.
-/

namespace Governance

variable [Pattern.Library]

theorem Operator.Suits.of_le {size larger : Nat} {op : Operator} {v : FieldValue}
    (h : op.Suits size v) (hle : size ≤ larger) : op.Suits larger v := by
  cases op with
  | regexMatch =>
    obtain ⟨pattern, rfl, hcheck⟩ := h
    exact ⟨pattern, rfl, Pattern.check_of_le hcheck hle⟩
  | _ => exact h

/-- The `limits` are no wider than `wider`. -/
structure ValidationLimits.Within (limits wider : ValidationLimits) : Prop where
  depth : limits.maxDepth ≤ wider.maxDepth
  size : limits.patternSize ≤ wider.patternSize

namespace WrittenCondition

variable {limits wider : ValidationLimits} {w : WrittenCondition} {c : Condition}

/-- **Wider limits change nothing about what is accepted**: `w` stands for `c` under them too. -/
theorem StandsFor.widen {depth : Nat} (h : StandsFor limits depth w c)
    (hwithin : limits.Within wider) : StandsFor wider depth w c := by
  induction h with
  | leaf hdepth hop hfield hvalue hsuits =>
    exact .leaf (Nat.le_trans hdepth hwithin.depth) hop hfield hvalue (hsuits.of_le hwithin.size)
  | and hdepth hne hlength _ ih =>
    exact .and (Nat.le_trans hdepth hwithin.depth) hne hlength ih
  | or hdepth hne hlength _ ih =>
    exact .or (Nat.le_trans hdepth hwithin.depth) hne hlength ih
  | not hdepth _ ih => exact .not (Nat.le_trans hdepth hwithin.depth) ih

theorem check_of_within (h : w.check limits = .ok c) (hwithin : limits.Within wider) :
    w.check wider = .ok c :=
  check_eq_ok_iff_standsFor.2 ((check_eq_ok_iff_standsFor.1 h).widen hwithin)

end WrittenCondition

namespace Condition

/-- The condition `c` is accepted, in some form, under the limits that documents are read under. -/
def Storable (c : Condition) : Prop :=
  ∃ w : WrittenCondition, w.check .default = .ok c

theorem storable_of_check {limits : ValidationLimits} {w : WrittenCondition} {c : Condition}
    (h : w.check limits = .ok c) (hwithin : limits.Within .default) : c.Storable :=
  ⟨w, WrittenCondition.check_of_within h hwithin⟩

namespace Storable

variable {c : Condition}

theorem finiteOperands (h : c.Storable) : c.FiniteOperands := by
  obtain ⟨w, hw⟩ := h
  exact (WrittenCondition.check_eq_ok_iff_standsFor.1 hw).finiteOperands

/-- **A storable condition is read back from its document**: `ofJson` inverts `toJson`. -/
theorem ofJson_toJson (h : c.Storable) : ofJson c.toJson = .ok c := by
  have hread : WrittenCondition.ofJson c.toJson = .ok c.written :=
    WrittenCondition.ofJson_of_writtenBy (writtenBy_toJson h.finiteOperands)
  obtain ⟨w, hw⟩ := h
  have hwritten : c.written.check .default = .ok c :=
    WrittenCondition.check_eq_ok_iff_standsFor.2
      (WrittenCondition.check_eq_ok_iff_standsFor.1 hw).written
  simp only [ofJson, hread, hwritten, bind, Except.bind]

end Storable

end Condition

end Governance
