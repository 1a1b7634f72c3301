import Governance.Condition.Walker
import Governance.Proofs.Condition.Grammar
import Governance.Proofs.Condition.Paths

/-!
# The walk and the issues of a node

What the `Walker` appends to its list at a node is what `issuesWithin` tells of the node on its own,
with the path of the node in front, and it builds a condition exactly when there is no such issue.

* `Walker.leaf_eq`, `Walker.own_eq`: the issues of a node's own parts.
* `Walker.node_eq`: one node with all that is below it, from any list of issues on.
* `WrittenCondition.walk_eq`: the walk accepts and refuses what `check` does, with the same issues
  in the same order.
-/

namespace Governance

open Number

namespace Issue

/-- The issue `i` as it is shown in a condition that stands at `path`. -/
def shownUnder (path : String) (i : Issue) : ValidationIssue :=
  ⟨Walker.pointer path i.place.pointer, i.problem.kind, i.problem.message⟩

/-- The issue `i` as it is shown at the root. -/
def shown (i : Issue) : ValidationIssue := ⟨i.place.text, i.problem.kind, i.problem.message⟩

theorem shownUnder_empty (i : Issue) : i.shownUnder "" = i.shown := by
  unfold shownUnder shown Walker.pointer Place.text
  rw [String.empty_append]

/-- A problem with a part of the node at `path` is shown where that part is. -/
theorem shownUnder_root (path : String) (part : NodePart) (problem : Problem) :
    (⟨.root part, problem⟩ : Issue).shownUnder path
      = ⟨Walker.pointer path part.text, problem.kind, problem.message⟩ := by
  simp [shownUnder, Place.root, Place.pointer]

/-- What stands in the child of `index` is shown under the path of that child. -/
theorem shownUnder_under (path : String) (index : Nat) (i : Issue) :
    (i.under index).shownUnder path
      = i.shownUnder (path ++ "/conditions/" ++ intText index) := by
  have hpointer : path ++ (i.place.under index).pointer
      = path ++ "/conditions/" ++ intText index ++ i.place.pointer := by
    apply String.toList_inj.1
    simp [Place.pointer, Place.under, String.toList_join, List.append_assoc]
  unfold shownUnder Walker.pointer
  rw [show (i.under index).place = i.place.under index from rfl, hpointer]
  rfl

end Issue

namespace Walker

open WrittenCondition

variable {limits : ValidationLimits} {op : Operator} {w : WrittenCondition}

/-! ### The parts of a node -/

variable [Pattern.Library]

/-- A `leaf` appends its own issues, and is built when it has none. -/
theorem leaf_eq (path : String) (issues : List ValidationIssue) :
    leaf limits op w path issues
      = (if leafIssues limits.patternSize op w = [] then leaf? op w else none,
        issues ++ (leafIssues limits.patternSize op w).map (Issue.shownUnder path)) := by
  unfold leaf leafIssues leafShapeIssues leaf?
  cases w.conditions.isSome <;> cases w.fieldName.isEmpty <;> cases w.operand with
  | error cause => simp [push, Issue.shownUnder_root, NodePart.text]
  | ok value =>
    cases hfault : operandFault? limits.patternSize op value <;>
      simp [push, Issue.shownUnder_root, NodePart.text, hfault]

omit [Pattern.Library] in
/-- What a `push` under a condition appends is a list of at most one issue of the node. -/
theorem push_if (path : String) (part : NodePart) (problem : Problem)
    (issues : List ValidationIssue) (c : Prop) [Decidable c] :
    (if c then push path part.text problem issues else issues)
      = issues ++ (if c then [⟨.root part, problem⟩] else []).map (Issue.shownUnder path) := by
  split
  · rw [List.map_singleton, Issue.shownUnder_root, push]
  · rw [List.map_nil, List.append_nil]

omit [Pattern.Library] in
/-- To `issues` a combination appends its `own`, those that are not those of its children. -/
theorem own_eq (path : String) (issues : List ValidationIssue) :
    own op w path issues
      = issues ++ (combinationIssues op w).map (Issue.shownUnder path) := by
  have hfield := push_if path .field (.strayField op) issues (w.field.isSome = true)
  have hvalue (issues : List ValidationIssue) :=
    push_if path .value (.strayValue op) issues (w.value.isSome = true)
  have hnone (issues : List ValidationIssue) :=
    push_if path .conditions (.noneBelow op) issues (w.children.isEmpty = true)
  have hone (issues : List ValidationIssue) :=
    push_if path .conditions (.notOne w.children.length) issues (w.children.length ≠ 1)
  simp only [NodePart.text, ne_eq, ite_not] at hfield hvalue hnone hone
  unfold own combinationIssues
  simp only [hfield, hvalue, hnone, hone, List.map_append, List.append_assoc]
  split <;> rfl

/-! ### Building -/

omit [Pattern.Library] in
/-- One child is what `not` takes, and any number what the others take, so `combine` does what
`combined?` does. -/
theorem combine_eq {built : List Condition} (hlogical : op.isLogical = true)
    (hone : op = .not → built.length = 1) :
    combine op built = combined? op built := by
  cases op with
  | and | or => rfl
  | not =>
    obtain ⟨c, rfl⟩ := List.length_eq_one_iff.1 (hone rfl)
    rfl
  | _ => exact absurd hlogical (by decide)

/-- What is built of the node `w` when `issues` tells of none. -/
def built? (issues : WrittenCondition → List Issue) (w : WrittenCondition) : Option Condition :=
  if issues w = [] then w.condition? else none

omit [Pattern.Library] in
theorem mapM_built? {issues : WrittenCondition → List Issue} {ws : List WrittenCondition}
    (h : ∀ w ∈ ws, issues w = []) :
    (ws.map (built? issues)).mapM id = allConditions? ws := by
  induction ws with
  | nil => rfl
  | cons w ws ih =>
    obtain ⟨hw, hws⟩ := List.forall_mem_cons.1 h
    rw [List.map_cons, List.mapM_cons, ih hws, allConditions?, built?, if_pos hw]
    cases w.condition? with
    | none => rfl
    | some c => cases allConditions? ws <;> rfl

/-- A combination is built of its children when neither it nor any of them raised an issue, and
`build` counts them by the length of the list. -/
theorem build_eq (limits : ValidationLimits) (room : Nat) (path : String) (w : WrittenCondition)
    (issues : List ValidationIssue) (hop : Operator.read? w.operator = some op)
    (hlogical : op.isLogical = true) :
    build op issues.length
        (w.children.map (built? (issuesWithin limits room)),
          own op w path issues
            ++ (issuesBelow (issuesWithin limits room) 0 w.children).map (Issue.shownUnder path))
      = (built? (issuesWithin limits (room + 1)) w,
        issues ++ (issuesWithin limits (room + 1) w).map (Issue.shownUnder path)) := by
  have hraised : own op w path issues
        ++ (issuesBelow (issuesWithin limits room) 0 w.children).map (Issue.shownUnder path)
      = issues ++ (issuesWithin limits (room + 1) w).map (Issue.shownUnder path) := by
    rw [own_eq, issuesWithin_of_logical hop hlogical, List.map_append, List.append_assoc]
  rw [build, hraised]
  congr 1
  unfold built?
  by_cases hnone : issuesWithin limits (room + 1) w = []
  · have hboth := hnone
    rw [issuesWithin_of_logical hop hlogical, List.append_eq_nil_iff,
      issuesBelow_eq_nil_iff] at hboth
    obtain ⟨hown, hbelow⟩ := hboth
    obtain ⟨-, -, ws, hws, hcount⟩ := combinationIssues_eq_nil_iff.1 hown
    rw [if_pos hnone, if_pos (by simp [hnone])]
    show ((w.children.map (built? (issuesWithin limits room))).mapM id).bind (combine op) = _
    rw [mapM_built? hbelow, condition?_of_logical hop hlogical]
    cases hbuilt : allConditions? w.children with
    | none => rfl
    | some built =>
      refine combine_eq hlogical fun hnot => ?_
      have hlength := (allConditions?_eq_some_iff.1 hbuilt).length_eq
      rw [← hlength, WrittenCondition.children, hws, Option.getD_some]
      rwa [if_pos hnot] at hcount
  · rw [if_neg hnone, if_neg (by simpa using hnone)]

/-! ### The walk -/

mutual

/-- **The walk raises the issues of the node and no other**: `node` appends `issuesWithin` to those
raised before, and builds `w` when there are none. -/
theorem node_eq {depth room : Nat} (hroom : depth + room = limits.maxDepth + 1) (path : String)
    (w : WrittenCondition) (issues : List ValidationIssue) :
    node limits path depth w issues
      = (built? (issuesWithin limits room) w,
        issues ++ (issuesWithin limits room w).map (Issue.shownUnder path)) := by
  obtain ⟨field, operator, value, conditions⟩ := w
  unfold node
  cases room with
  | zero =>
    have hdeep : limits.maxDepth < depth := by omega
    simp [hdeep, built?, issuesWithin, push, Issue.shownUnder_root, NodePart.text]
  | succ room =>
    have hdepth : ¬ limits.maxDepth < depth := by omega
    have hbelow : depth + 1 + room = limits.maxDepth + 1 := by omega
    simp only [if_neg hdepth]
    cases hop : Operator.read? operator with
    | none =>
      have hunknown : issuesWithin limits (room + 1) ⟨field, operator, value, conditions⟩ ≠ [] :=
        issuesWithin_of_unknown hop
      rw [built?, if_neg hunknown]
      cases conditions with
      | none =>
        simp [issuesWithin, hop, issuesBelow, WrittenCondition.children, push,
          Issue.shownUnder_root, NodePart.text]
      | some ws =>
        simp only [children_eq hbelow path 0 ws]
        simp [issuesWithin, hop, WrittenCondition.children, push, Issue.shownUnder_root,
          NodePart.text]
    | some op =>
      cases hlogical : op.isLogical with
      | false =>
        simp only [hlogical, Bool.false_eq_true, if_false]
        rw [leaf_eq, built?, issuesWithin_of_leaf hop hlogical, condition?_of_leaf hop hlogical]
      | true =>
        have hbuild := build_eq limits room path ⟨field, operator, value, conditions⟩ issues hop
          hlogical
        simp only [hlogical, if_true]
        rw [← hbuild]
        cases conditions with
        | none => simp [WrittenCondition.children, issuesBelow]
        | some ws => exact congrArg (build op issues.length) (children_eq hbelow path 0 ws _)

theorem children_eq {depth room : Nat} (hroom : depth + 1 + room = limits.maxDepth + 1)
    (path : String) (index : Nat) (ws : List WrittenCondition) (issues : List ValidationIssue) :
    children limits path depth index ws issues
      = (ws.map (built? (issuesWithin limits room)),
        issues ++ (issuesBelow (issuesWithin limits room) index
          ws).map (Issue.shownUnder path)) := by
  match ws with
  | [] => simp [children, issuesBelow]
  | w :: ws =>
    rw [children, node_eq hroom]
    simp only
    rw [children_eq hroom]
    have hshown : Issue.shownUnder path ∘ Issue.under index
        = Issue.shownUnder (path ++ "/conditions/" ++ intText index) :=
      funext fun i => i.shownUnder_under path index
    simp only [issuesBelow, List.map_cons, List.map_append, List.map_map, List.append_assoc, hshown]

end

end Walker

variable [Pattern.Library]

/-- **The walk decides what `check` decides**, and shows the issues of a refusal in their order. -/
theorem WrittenCondition.walk_eq (limits : ValidationLimits) (w : WrittenCondition) :
    w.walk limits = (w.check limits).mapError fun r => r.issues.map Issue.shown := by
  have hroom : 1 + limits.maxDepth = limits.maxDepth + 1 := Nat.add_comm 1 _
  have hshown : Issue.shownUnder "" = Issue.shown := funext Issue.shownUnder_empty
  unfold walk check issues
  rw [Walker.node_eq hroom, List.nil_append, hshown, Walker.built?]
  cases hissues : issuesWithin limits limits.maxDepth w with
  | nil => cases w.condition? <;> rfl
  | cons issue rest => rfl

end Governance
