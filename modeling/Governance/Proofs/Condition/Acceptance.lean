import Governance.Proofs.Condition.Structure
import Governance.Proofs.Condition.Grammar

/-!
# Accepted conditions

A condition that a good written condition stands for is one that can be evaluated: it is well-formed
and within the depth, and no operator is at odds with its operand.

* `accepted_of_standsFor`: this holds of whatever the grammar lets stand for something.
* `accepted_of_check`: so it holds of every condition that checking accepts.
-/

namespace Governance

variable [Pattern.Library]

/-- What is known of a condition that was accepted with patterns up to `patternSize` and a depth up
to `room`. -/
structure Condition.Accepted (patternSize room : Nat) (c : Condition) : Prop where
  isWellFormed : c.isWellFormed = true
  depth_le : c.depth ≤ room
  /-- No operator is at odds with its operand, by `operandFault?`. -/
  operands : ∀ l ∈ c.leaves, operandFault? patternSize l.operator l.value = none

namespace Condition.Accepted

variable {patternSize room : Nat} {cs : List Condition}

theorem leaf {l : Leaf} (hleaf : l.operator.isLogical = false)
    (h : operandFault? patternSize l.operator l.value = none) :
    Accepted patternSize (room + 1) (.leaf l) where
  isWellFormed := isWellFormed_leaf_iff.2 hleaf
  depth_le := by
    rw [depth]
    omega
  operands := by
    intro m hm
    obtain rfl := List.mem_singleton.1 hm
    exact h

theorem and (hne : cs ≠ []) (h : ∀ c ∈ cs, Accepted patternSize room c) :
    Accepted patternSize (room + 1) (.and cs) where
  isWellFormed := isWellFormed_and_iff.2 ⟨hne, fun c hc => (h c hc).isWellFormed⟩
  depth_le := depth_and_le_succ_iff.2 fun c hc => (h c hc).depth_le
  operands := by
    intro l hl
    rw [leaves_and] at hl
    obtain ⟨c, hc, hlc⟩ := List.mem_flatMap.1 hl
    exact (h c hc).operands l hlc

theorem or (hne : cs ≠ []) (h : ∀ c ∈ cs, Accepted patternSize room c) :
    Accepted patternSize (room + 1) (.or cs) where
  isWellFormed := isWellFormed_or_iff.2 ⟨hne, fun c hc => (h c hc).isWellFormed⟩
  depth_le := depth_or_le_succ_iff.2 fun c hc => (h c hc).depth_le
  operands := by
    intro l hl
    rw [leaves_or] at hl
    obtain ⟨c, hc, hlc⟩ := List.mem_flatMap.1 hl
    exact (h c hc).operands l hlc

theorem not {c : Condition} (h : Accepted patternSize room c) :
    Accepted patternSize (room + 1) (.not c) where
  isWellFormed := h.isWellFormed
  depth_le := by
    have hle := h.depth_le
    rw [depth]
    omega
  operands := h.operands

end Condition.Accepted

namespace WrittenCondition

theorem accepted_of_standsFor {limits : ValidationLimits} {depth room : Nat} {w : WrittenCondition}
    {c : Condition} (h : StandsFor limits depth w c)
    (hroom : depth + room = limits.maxDepth + 1) : c.Accepted limits.patternSize room := by
  induction h generalizing room with
  | leaf hdepth hop _ _ hsuits =>
    obtain ⟨room, rfl, -⟩ := exists_room_below hdepth hroom
    exact .leaf hop ((operandFault?_eq_none_iff hop).2 hsuits)
  | @and depth ws cs hdepth hne hlength _ ih =>
    obtain ⟨room, rfl, hbelow⟩ := exists_room_below hdepth hroom
    have hcs : cs ≠ [] := by
      rintro rfl
      exact hne (List.length_eq_zero_iff.1 hlength)
    exact .and hcs (forall_mem_of_zip_right hlength fun pair hpair => ih pair hpair hbelow)
  | @or depth ws cs hdepth hne hlength _ ih =>
    obtain ⟨room, rfl, hbelow⟩ := exists_room_below hdepth hroom
    have hcs : cs ≠ [] := by
      rintro rfl
      exact hne (List.length_eq_zero_iff.1 hlength)
    exact .or hcs (forall_mem_of_zip_right hlength fun pair hpair => ih pair hpair hbelow)
  | not hdepth _ ih =>
    obtain ⟨room, rfl, hbelow⟩ := exists_room_below hdepth hroom
    exact .not (ih hbelow)

/-- **What checking guarantees**: a condition that `w.check limits` gives is `Accepted` under these
limits. -/
theorem accepted_of_check {limits : ValidationLimits} {w : WrittenCondition} {c : Condition}
    (h : w.check limits = .ok c) : c.Accepted limits.patternSize limits.maxDepth :=
  accepted_of_standsFor (check_eq_ok_iff_standsFor.1 h) (Nat.add_comm _ _)

end WrittenCondition

end Governance
