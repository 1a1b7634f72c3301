import Governance.Operator.Apply

/-!
# Traces

What one evaluation of a condition leaves behind: whether the condition holds, the leaves
responsible if it does not, a warning for every leaf that gave no answer, and how many leaves were
visited. Traces are written to documents and read back.
-/

namespace Governance

open Decode

/-- What one leaf said. -/
structure LeafResult where
  field : String
  operator : Operator
  /-- The leaf's operand. -/
  expected : FieldValue
  /-- The value that the context gave. -/
  actual : FieldValue
  /-- What the operator said, before any negation above the leaf. -/
  passed : Bool
  /-- Whether the leaf counts with its answer turned round. -/
  negated : Bool
  /-- Why the operator gave no answer. -/
  error : Option String
deriving BEq

namespace LeafResult

/-- The result `r` under one more negation. -/
def flip (r : LeafResult) : LeafResult := { r with negated := !r.negated }

def toJson (r : LeafResult) : Json :=
  .object
    ([("field", .text r.field), ("operator", r.operator.toJson), ("expected", r.expected.toJson),
      ("actual", r.actual.toJson), ("passed", .bool r.passed), ("negated", .bool r.negated)]
      ++ Json.optional "error" .text r.error)

def declared : List String :=
  ["field", "operator", "expected", "actual", "passed", "negated", "error"]

def ofJson (j : Json) : Reading LeafResult := do
  let r ← record "LeafResult" declared j
  let field := r.slot "field" text
  let operator := r.slot "operator" Operator.ofJson
  let expected := r.slot "expected" FieldValue.decode
  let actual := r.slot "actual" FieldValue.decode
  let passed := r.slot "passed" bool
  let negated := r.slot "negated" bool
  let error := r.slot "error" (option text)
  r.settle
    [field.fault, operator.fault, expected.fault, actual.fault, passed.fault, negated.fault,
      error.fault]
  .ok
    { field := ← r.required field
      operator := ← r.required operator
      expected := ← r.required expected
      actual := ← r.required actual
      passed := ← r.required passed
      negated := ← r.required negated
      error := ← error.getD none }

theorem flip_flip (r : LeafResult) : r.flip.flip = r := by simp [flip]

end LeafResult

/-- A leaf that gave no answer. -/
structure Warning where
  field : String
  operator : Operator
  code : String
  message : String
deriving DecidableEq

namespace Warning

def toJson (w : Warning) : Json :=
  .object
    [("field", .text w.field), ("operator", w.operator.toJson), ("code", .text w.code),
      ("message", .text w.message)]

def declared : List String := ["field", "operator", "code", "message"]

def ofJson (j : Json) : Reading Warning := do
  let r ← record "EvaluationWarning" declared j
  let field := r.slot "field" text
  let operator := r.slot "operator" Operator.ofJson
  let code := r.slot "code" text
  let message := r.slot "message" text
  r.settle [field.fault, operator.fault, code.fault, message.fault]
  .ok
    { field := ← r.required field
      operator := ← r.required operator
      code := ← r.required code
      message := ← r.required message }

end Warning

/-- What one evaluation of a condition leaves behind. -/
structure Trace where
  passed : Bool
  /-- The leaves responsible for failure; none when the condition holds. -/
  failingLeaves : List LeafResult
  warnings : List Warning
  /-- How many leaves were visited. -/
  leavesEvaluated : Nat
deriving BEq

namespace Trace

def toJson (t : Trace) : Json :=
  .object
    [("passed", .bool t.passed), ("failingLeaves", .array (t.failingLeaves.map LeafResult.toJson)),
      ("warnings", .array (t.warnings.map Warning.toJson)),
      ("leavesEvaluated", .nat t.leavesEvaluated)]

def declared : List String := ["passed", "failingLeaves", "warnings", "leavesEvaluated"]

def ofJson (j : Json) : Reading Trace := do
  let r ← record "EvaluationTrace" declared j
  let passed := r.slot "passed" bool
  let failingLeaves := r.slot "failingLeaves" (list LeafResult.ofJson)
  let warnings := r.slot "warnings" (list Warning.ofJson)
  let leavesEvaluated := r.slot "leavesEvaluated" (natural "usize")
  r.settle [passed.fault, failingLeaves.fault, warnings.fault, leavesEvaluated.fault]
  .ok
    { passed := ← r.required passed
      failingLeaves := ← r.required failingLeaves
      warnings := ← r.required warnings
      leavesEvaluated := ← r.required leavesEvaluated }

end Trace

end Governance
