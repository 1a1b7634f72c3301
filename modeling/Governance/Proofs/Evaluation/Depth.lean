import Governance.Proofs.Condition.Acceptance
import Governance.Proofs.Condition.Nodes
import Governance.Proofs.Evaluation.Errors
import Governance.Pattern.Program

/-!
# One notion of depth

Checking counts the room that is left on the way down, evaluating counts the steps made, and the
depth of a condition is measured from the leaves up. The three agree: a limit that is too small for
a condition by any of them is too small by all.

* `StandsFor.of_depth`: a node stands for what it did as long as the depth of that fits.
* `StandsFor.onlyTooDeep`: under a smaller limit, all that is wrong with such a node are the nodes
  right behind the limit.
* `check_depth`: so the limit decides, and it leaves evaluation the room that it needs.
-/

namespace Governance

/-- Says that the node at the end of `way` is too deep. -/
def Issue.tooDeep (maxDepth : Nat) (way : List Nat) : Issue := ⟨⟨way, .whole⟩, .tooDeep maxDepth⟩

namespace WrittenCondition

variable {limits other : ValidationLimits} {depth : Nat} {w : WrittenCondition} {c : Condition}

/-! ### Room enough -/

section Library

variable [Pattern.Library]

/-- **Whatever is not too deep is accepted all the same**: `StandsFor` goes from `limits` to `other`
if patterns have the same size there and `c` has room. -/
theorem StandsFor.of_depth (h : StandsFor limits depth w c)
    (hsize : other.patternSize = limits.patternSize)
    (hdepth : depth + c.depth ≤ other.maxDepth + 1) : StandsFor other depth w c := by
  induction h with
  | leaf _ hop hfield hvalue hsuits =>
    rw [Condition.depth] at hdepth
    exact .leaf (by omega) hop hfield hvalue (hsize ▸ hsuits)
  | and _ hne hlength _ ih =>
    rw [Condition.depth] at hdepth
    refine .and (by omega) hne hlength fun pair hpair => ih pair hpair ?_
    have hle := Condition.depth_le_depthAll (List.of_mem_zip hpair).2
    omega
  | or _ hne hlength _ ih =>
    rw [Condition.depth] at hdepth
    refine .or (by omega) hne hlength fun pair hpair => ih pair hpair ?_
    have hle := Condition.depth_le_depthAll (List.of_mem_zip hpair).2
    omega
  | not _ _ ih =>
    rw [Condition.depth] at hdepth
    exact .not (by omega) (ih (by omega))

/-! ### Too little room -/

/-- Nothing is wrong with `w` but its depth: whatever room there is, `issuesWithin` has one issue
for each node that is the first on its way to have none. -/
def OnlyTooDeep (limits : ValidationLimits) (w : WrittenCondition) : Prop :=
  ∀ room, issuesWithin limits room w
    = (w.ways.filter fun way => way.length = room).map (Issue.tooDeep limits.maxDepth)

/-- For children `ws` that are only too deep, `issuesBelow` gives an issue for each node one step
further down. -/
theorem issuesBelow_of_onlyTooDeep {ws : List WrittenCondition}
    (h : ∀ x ∈ ws, OnlyTooDeep limits x) (room index : Nat) :
    issuesBelow (issuesWithin limits room) index ws
      = ((waysFrom index ws).filter fun way => way.length = room + 1).map
        (Issue.tooDeep limits.maxDepth) := by
  induction ws generalizing index with
  | nil => rfl
  | cons x ws ih =>
    rw [List.forall_mem_cons] at h
    have hlength : ((fun way : List Nat => decide (way.length = room + 1)) ∘ (index :: ·))
        = fun way => decide (way.length = room) := by
      funext way
      simp
    rw [issuesBelow, waysFrom, List.filter_append, List.map_append, ih h.2, h.1 room,
      List.filter_map, hlength, List.map_map, List.map_map]
    rfl

/-- If `w` has no issues of its own and its children are only too deep, so is `w`. -/
theorem onlyTooDeep_of_own (hown : ∀ room, ownIssues limits (room + 1) w = [])
    (hseen : ∀ room, seenBelow (room + 1) w = w.children)
    (hbelow : ∀ x ∈ w.children, OnlyTooDeep limits x) : OnlyTooDeep limits w := by
  intro room
  rw [ways_eq]
  cases room with
  | zero =>
    -- Only the way to the node itself has no steps.
    have hnone : ((waysFrom 0 w.children).filter fun way => way.length = 0) = [] := by
      refine List.filter_eq_nil_iff.2 fun way hway => ?_
      obtain ⟨i, rest, -, rfl⟩ := exists_of_mem_waysFrom hway
      simp
    rw [List.filter_cons_of_pos (by simp), hnone]
    rfl
  | succ room =>
    rw [issuesWithin_eq, hown, hseen, List.nil_append, Nat.add_sub_cancel,
      issuesBelow_of_onlyTooDeep hbelow, List.filter_cons_of_neg (by simp)]

/-- **A sound node is at most too deep**: if `w` stands for some `c`, it is `OnlyTooDeep` under
whatever limit on the depth. -/
theorem StandsFor.onlyTooDeep (h : StandsFor limits depth w c)
    (hsize : other.patternSize = limits.patternSize) : OnlyTooDeep other w := by
  have combination {op : Operator} {ws : List WrittenCondition} (hop : op.isLogical = true)
      (harity : if op = .not then ws.length = 1 else ws ≠ [])
      (hws : ∀ x ∈ ws, OnlyTooDeep other x) :
      OnlyTooDeep other ⟨none, op.label, none, some ws⟩ := by
    have hread := Operator.read?_label op
    refine onlyTooDeep_of_own (fun room => ?_) (fun room => ?_) hws
    · rw [ownIssues, hread]
      simp only [hop, if_true]
      exact combinationIssues_eq_nil_iff.2 ⟨rfl, rfl, ws, rfl, harity⟩
    · rw [seenBelow, opens, hread]
      simp only [hop, if_true]
  induction h with
  | @leaf depth field op value v _ hop hfield hvalue hsuits =>
    have hread := Operator.read?_label op
    refine onlyTooDeep_of_own (fun room => ?_) (fun room => ?_) (by simp [children])
    · rw [ownIssues, hread]
      simp only [hop, Bool.false_eq_true, if_false]
      refine (leafIssues_eq_nil_iff hop).2 ⟨rfl, ?_, v, ?_, hsize ▸ hsuits⟩
      · rw [fieldName, Option.getD_some, Text.trim_isEmpty, hfield]
      · rw [operand_eq]
        exact hvalue
    · rw [seenBelow, children]
      exact ite_self _
  | and _ hne hlength _ ih => exact combination rfl hne (forall_mem_of_zip_left hlength ih)
  | or _ hne hlength _ ih => exact combination rfl hne (forall_mem_of_zip_left hlength ih)
  | not _ _ ih => exact combination rfl rfl (by simpa using ih)

/-! ### The limit -/

/-- **The three notions of depth agree.** Let `w` be accepted as `c` under `limits`. Under another
`maxDepth` it is accepted, as the same `c`, exactly when `c.depth` is within that limit. Otherwise
`check` gives one issue for each node right behind the limit, in the order of the document, and
nothing else. No `evaluate` under a limit that `c.depth` is within ends in `depthExceeded`. -/
theorem check_depth (limits : ValidationLimits) (w : WrittenCondition) (c : Condition)
    (h : w.check limits = .ok c) (maxDepth : Nat) :
    (∀ d, w.check { limits with maxDepth := maxDepth } = .ok d ↔ d = c ∧ c.depth ≤ maxDepth)
      ∧ (maxDepth < c.depth → w.check { limits with maxDepth := maxDepth }
        = .error ⟨(w.ways.filter fun way => way.length = maxDepth).map (Issue.tooDeep maxDepth)⟩)
      ∧ ∀ (clock : Pattern.Clock) (evaluation : EvaluationLimits) (context : Context),
        evaluation.maxDepth = maxDepth → c.depth ≤ maxDepth →
          ∀ n, c.evaluate clock evaluation context ≠ .error (.depthExceeded n) := by
  have hstands := check_eq_ok_iff_standsFor.1 h
  have haccept (d : Condition) :
      w.check { limits with maxDepth := maxDepth } = .ok d ↔ d = c ∧ c.depth ≤ maxDepth := by
    constructor
    · intro hd
      have hread := (hstands.sound (Nat.add_comm 1 limits.maxDepth)).2
      have hread' := ((check_eq_ok_iff_standsFor.1 hd).sound (Nat.add_comm 1 maxDepth)).2
      obtain rfl : d = c := Option.some.inj (hread'.symm.trans hread)
      exact ⟨rfl, (accepted_of_check hd).depth_le⟩
    · rintro ⟨rfl, hdepth⟩
      refine check_eq_ok_iff_standsFor.2 (hstands.of_depth rfl ?_)
      show 1 + d.depth ≤ maxDepth + 1
      omega
  refine ⟨haccept, fun hlt => ?_, fun clock evaluation context hlimit hdepth n hexceeded => ?_⟩
  · have honly : OnlyTooDeep { limits with maxDepth := maxDepth } w := hstands.onlyTooDeep rfl
    have hissues : w.issues { limits with maxDepth := maxDepth }
        = (w.ways.filter fun way => way.length = maxDepth).map (Issue.tooDeep maxDepth) :=
      honly maxDepth
    cases hcheck : w.check { limits with maxDepth := maxDepth } with
    | ok d =>
      have hle := ((haccept d).1 hcheck).2
      omega
    | error r =>
      obtain ⟨-, rfl⟩ := check_eq_error_iff.1 hcheck
      rw [hissues]
  · obtain ⟨f, -, hok⟩ := Condition.evaluate_isOk clock context
      (accepted_of_check h).isWellFormed (hlimit ▸ hdepth)
    rw [hok] at hexceeded
    exact absurd hexceeded (by simp)

/-- Written rule of three levels. -/
def writtenDraftRule : WrittenCondition :=
  ⟨none, "AND", none,
    some [⟨some "draft", "IS_FALSE", none, none⟩,
      ⟨none, "NOT", none, some [⟨some "risk", "IS_NULL", none, none⟩]⟩]⟩

end Library

/-- With `maxDepth` one the rule is cut off at both children, and with three it is evaluated. -/
theorem check_depth_writtenDraftRule :
    ∃ c, writtenDraftRule.check .default = .ok c
      ∧ writtenDraftRule.check { ValidationLimits.default with maxDepth := 1 }
        = .error ⟨[Issue.tooDeep 1 [0], Issue.tooDeep 1 [1]]⟩
      ∧ writtenDraftRule.check { ValidationLimits.default with maxDepth := 3 } = .ok c
      ∧ ∀ n, c.evaluate .still { EvaluationLimits.default with maxDepth := 3 } .empty
        ≠ .error (.depthExceeded n) := by
  have hcheck : writtenDraftRule.check .default
      = .ok (.and [.leaf ⟨"draft", .isFalse, .null⟩, .not (.leaf ⟨"risk", .isNull, .null⟩)]) := by
    rfl
  obtain ⟨-, hcut, -⟩ := check_depth _ _ _ hcheck 1
  obtain ⟨haccept, -, hevaluate⟩ := check_depth _ _ _ hcheck 3
  exact ⟨_, hcheck, hcut (by decide), (haccept _).2 ⟨rfl, by decide⟩,
    hevaluate .still _ .empty rfl (by decide)⟩

end WrittenCondition

end Governance
