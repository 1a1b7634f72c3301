import Governance.Condition.Issue

/-!
# Checking written conditions

`WrittenCondition.issues` lists every problem of a written condition in document order, and
`WrittenCondition.condition?` reads the condition that it stands for. A condition is accepted when
it has no issue. The walk goes down as far as the limit on depth allows; issues below a child are
those of the child on its own, one step further down.
-/

namespace Governance

/-- Limits on accepted conditions. -/
structure ValidationLimits where
  /-- The greatest depth; the root has depth one. -/
  maxDepth : Nat
  /-- The size that a compiled pattern may have. -/
  patternSize : Nat
deriving DecidableEq

/-- The greatest depth where `maxDepth` is not configured. -/
def defaultMaxDepth : Nat := 32

def ValidationLimits.default : ValidationLimits := ⟨defaultMaxDepth, Pattern.defaultSizeLimit⟩

/-! ### Operands -/

variable [Pattern.Library]

/-- What keeps the operator `op` from using `value` as its operand. -/
def operandFault? (patternSize : Nat) (op : Operator) (value : FieldValue) : Option OperandFault :=
  if op.requiresOperand && value.isNull then some (.absent op)
  else if op.isOrdering && value.asNumber.isNone then some (.notNumeric op value)
  else if op = .regexMatch then
    match value with
    | .text pattern =>
      match Pattern.check pattern patternSize with
      | .ok _ => none
      | .error failure => some (.pattern failure)
    | v => some (.notPattern v.kind)
  else
    match op.group, value with
    | .string, .texts _ => some (.notScalar op)
    | .array, .texts [] => some (.emptyArray op)
    | .array, .texts _ => none
    | .array, .text _ => none
    | .array, v => some (.notTexts op v.kind)
    | _, _ => none

namespace WrittenCondition

/-- The field's name in `w` without blanks around it; empty when there is none. -/
def fieldName (w : WrittenCondition) : String := Text.trim (w.field.getD "")

/-- The operand of `w`; `null` when no value is written. -/
def operand (w : WrittenCondition) : Except FieldValue.Unsupported FieldValue :=
  match w.value with
  | none => .ok .null
  | some j => FieldValue.ofJson j

/-! ### Issues -/

/-- The issues of the parts of a leaf `w` with the operator `op`, the operand left aside. -/
def leafShapeIssues (op : Operator) (w : WrittenCondition) : List Issue :=
  (if w.conditions.isSome then [⟨.root .conditions, .strayConditions op⟩] else [])
    ++ (if w.fieldName.isEmpty then [⟨.root .field, .blankField op⟩] else [])
    ++ (match w.operand with
      | .ok _ => []
      | .error cause => [⟨.root .value, .unsupportedValue cause⟩])

/-- The issues of a leaf `w` with the operator `op`. The operand is checked once the parts are
sound. -/
def leafIssues (patternSize : Nat) (op : Operator) (w : WrittenCondition) : List Issue :=
  match leafShapeIssues op w with
  | [] =>
    match w.operand with
    | .ok value =>
      match operandFault? patternSize op value with
      | some fault => [⟨.root .value, .operand fault⟩]
      | none => []
    | .error _ => []
  | issues => issues

/-- The issues of a node `w` that combines others by `op`, those of its children left aside. -/
def combinationIssues (op : Operator) (w : WrittenCondition) : List Issue :=
  (if w.field.isSome then [⟨.root .field, .strayField op⟩] else [])
    ++ (if w.value.isSome then [⟨.root .value, .strayValue op⟩] else [])
    ++ (if op = .not then
        if w.children.length = 1 then [] else [⟨.root .conditions, .notOne w.children.length⟩]
      else if w.children.isEmpty then [⟨.root .conditions, .noneBelow op⟩] else [])

/-- The `issues` below the children of a node, from the child at `index` on. -/
def issuesBelow (issues : WrittenCondition → List Issue) (index : Nat) :
    List WrittenCondition → List Issue
  | [] => []
  | w :: ws => (issues w).map (Issue.under index) ++ issuesBelow issues (index + 1) ws

/-- The issues of a node that may be `room` deep. -/
def issuesWithin (limits : ValidationLimits) : Nat → WrittenCondition → List Issue
  | 0, _ => [⟨.root .whole, .tooDeep limits.maxDepth⟩]
  | room + 1, w =>
    match Operator.read? w.operator with
    | none =>
      ⟨.root .operator, .unknownOperator w.operator⟩
        :: issuesBelow (issuesWithin limits room) 0 w.children
    | some op =>
      if op.isLogical then
        combinationIssues op w ++ issuesBelow (issuesWithin limits room) 0 w.children
      else leafIssues limits.patternSize op w

/-- Every problem of the written condition `w`, in document order. -/
def issues (limits : ValidationLimits) (w : WrittenCondition) : List Issue :=
  issuesWithin limits limits.maxDepth w

/-! ### The condition -/

/-- The leaf with the operator `op` that the node `w` writes. -/
def leaf? (op : Operator) (w : WrittenCondition) : Option Condition :=
  match w.operand with
  | .ok value => some (.leaf ⟨w.fieldName, op, value⟩)
  | .error _ => none

/-- The combination of read children under an operator. -/
def combined? : Operator → List Condition → Option Condition
  | .and, cs => some (.and cs)
  | .or, cs => some (.or cs)
  | .not, [c] => some (.not c)
  | _, _ => none

mutual

/-- The condition that a written condition stands for. -/
def condition? : WrittenCondition → Option Condition
  | ⟨field, operator, value, conditions⟩ =>
    match Operator.read? operator with
    | none => none
    | some op =>
      if op.isLogical then
        match conditions with
        | none => combined? op []
        | some ws => (allConditions? ws).bind (combined? op)
      else leaf? op ⟨field, operator, value, conditions⟩

def allConditions? : List WrittenCondition → Option (List Condition)
  | [] => some []
  | w :: ws =>
    match condition? w with
    | none => none
    | some c => (allConditions? ws).map (c :: ·)

end

end WrittenCondition

/-- Says of a written condition that it is not accepted, by all its `issues`. -/
structure Rejection where
  issues : List Issue

def Rejection.message (r : Rejection) : String :=
  "condition tree rejected with " ++ Number.intText r.issues.length ++ " issue(s): "
    ++ String.intercalate "; " (r.issues.map Issue.text)

/-- The condition that `w` is accepted as, or every issue. -/
def WrittenCondition.check (limits : ValidationLimits) (w : WrittenCondition) :
    Except Rejection Condition :=
  match w.issues limits, w.condition? with
  | [], some c => .ok c
  | issues, _ => .error ⟨issues⟩

/-- The issues of a check of `w` as a document. -/
def WrittenCondition.report (limits : ValidationLimits) (w : WrittenCondition) : Json :=
  let issues := w.issues limits
  .object [("valid", .bool issues.isEmpty), ("errors", .array (issues.map Issue.toJson))]

/-- Reads a condition in the document `j`; it has to be acceptable under the default limits. -/
def Condition.ofJson (j : Json) : Decode.Reading Condition := do
  let w ← WrittenCondition.ofJson j
  match w.check .default with
  | .ok c => .ok c
  | .error r => .error (.rejected r.message)

end Governance
