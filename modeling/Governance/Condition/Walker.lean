import Governance.Condition.Validation

/-!
# The walk that checks a written condition

`WrittenCondition.issues` tells the problems of each node by places, and those below a child by the
places in that child. The `Walker` goes about it in one pass: it carries the `path` of the node that
it stands at and one list of `ValidationIssue`s for the whole condition. A node appends its problems
to the list, and is built only when the list is as long as it was `before` the node was entered.
-/

namespace Governance

/-- An issue as it is shown, with the path of the node or of its part. -/
structure ValidationIssue where
  path : String
  kind : IssueKind
  message : String
deriving DecidableEq

namespace Walker

/-- The path of the part that `suffix` names in the node at `path`; the root's own is a slash. -/
def pointer (path suffix : String) : String :=
  if (path ++ suffix).isEmpty then "/" else path ++ suffix

/-- Appends a problem with the part `suffix` of the node at `path`. -/
def push (path suffix : String) (problem : Problem) (issues : List ValidationIssue) :
    List ValidationIssue :=
  issues ++ [⟨pointer path suffix, problem.kind, problem.message⟩]

variable [Pattern.Library]

/-- Checks a leaf with the operator `op`. The operand is looked at when its parts raised no
issue. -/
def leaf (limits : ValidationLimits) (op : Operator) (w : WrittenCondition) (path : String)
    (issues : List ValidationIssue) : Option Condition × List ValidationIssue :=
  let before := issues.length
  let issues :=
    if w.conditions.isSome then push path "/conditions" (.strayConditions op) issues else issues
  let issues := if w.fieldName.isEmpty then push path "/field" (.blankField op) issues else issues
  let (value, issues) : FieldValue × List ValidationIssue :=
    match w.operand with
    | .ok value => (value, issues)
    | .error cause => (.null, push path "/value" (.unsupportedValue cause) issues)
  let issues :=
    if issues.length = before then
      match operandFault? limits.patternSize op value with
      | some fault => push path "/value" (.operand fault) issues
      | none => issues
    else issues
  (if issues.length = before then some (.leaf ⟨w.fieldName, op, value⟩) else none, issues)

/-- The problems of a node `w` that combines others by `op`, those of its children left aside. -/
def own (op : Operator) (w : WrittenCondition) (path : String) (issues : List ValidationIssue) :
    List ValidationIssue :=
  let issues := if w.field.isSome then push path "/field" (.strayField op) issues else issues
  let issues := if w.value.isSome then push path "/value" (.strayValue op) issues else issues
  if op = .not then
    if w.children.length = 1 then issues
    else push path "/conditions" (.notOne w.children.length) issues
  else if w.children.isEmpty then push path "/conditions" (.noneBelow op) issues
  else issues

/-- The node that combines `built` children; a negation takes the last of them. -/
def combine (op : Operator) (built : List Condition) : Option Condition :=
  match op with
  | .and => some (.and built)
  | .or => some (.or built)
  | _ => built.getLast?.map .not

/-- Builds a combination from its children, unless the issues have grown since `before`. -/
def build (op : Operator) (before : Nat)
    (below : List (Option Condition) × List ValidationIssue) :
    Option Condition × List ValidationIssue :=
  (if below.2.length = before then (below.1.mapM id).bind (combine op) else none, below.2)

mutual

/-- Checks the node at `path`, which stands at `depth`; builds it when it raised no issue. -/
def node (limits : ValidationLimits) (path : String) (depth : Nat) (w : WrittenCondition)
    (issues : List ValidationIssue) : Option Condition × List ValidationIssue :=
  match w with
  | ⟨field, operator, value, conditions⟩ =>
    if limits.maxDepth < depth then (none, push path "" (.tooDeep limits.maxDepth) issues)
    else
      match Operator.read? operator with
      | none =>
        let issues := push path "/operator" (.unknownOperator operator) issues
        match conditions with
        | none => (none, issues)
        | some ws => (none, (children limits path depth 0 ws issues).2)
      | some op =>
        if op.isLogical then
          let before := issues.length
          let issues := own op ⟨field, operator, value, conditions⟩ path issues
          match conditions with
          | none => build op before ([], issues)
          | some ws => build op before (children limits path depth 0 ws issues)
        else leaf limits op ⟨field, operator, value, conditions⟩ path issues

/-- Checks the children of the node at `path` from the one at `index` on. -/
def children (limits : ValidationLimits) (path : String) (depth index : Nat)
    (ws : List WrittenCondition) (issues : List ValidationIssue) :
    List (Option Condition) × List ValidationIssue :=
  match ws with
  | [] => ([], issues)
  | w :: ws =>
    let (c, issues) :=
      node limits (path ++ "/conditions/" ++ Number.intText index) (depth + 1) w issues
    let (cs, issues) := children limits path depth (index + 1) ws issues
    (c :: cs, issues)

end

end Walker

variable [Pattern.Library]

/-- Walks over the whole written condition `w`: the condition built, or every issue raised. -/
def WrittenCondition.walk (limits : ValidationLimits) (w : WrittenCondition) :
    Except (List ValidationIssue) Condition :=
  match Walker.node limits "" 1 w [] with
  | (some c, []) => .ok c
  | (_, issues) => .error issues

end Governance
