import Governance.Condition.Validation
import Governance.Context
import Governance.Evaluation.Trace

/-!
# Evaluating conditions

An `Evaluator` walks over a `Condition` against a `Context`. A node holds, fails, or errs when a
leaf below gave no answer; `Truth` has these three. A negation turns `holds` and `fails` round and
leaves `errs` as it is, so that an error never makes a condition hold. A conjunction stops at its
first child that does not hold, a disjunction at its first child that does.

A `NodeOutcome` has two lists of leaves: `failing` ones, to blame for a node that does not hold, and
`satisfying` ones, which made it hold and are to blame once a negation turns it round. `Progress` is
what the evaluator pushes to and counts with as it goes: the `warnings` of leaves without an answer
and the number of `leavesEvaluated`.

Matching a pattern takes time, so a leaf may answer once and run out of its budget the next time.
An evaluator therefore has a `clock` for every visit of a leaf. `Condition.evaluate` is the run in
which the clock is the same at every visit; whatever is proved of it rests on that.
-/

namespace Governance

/-- Limits on one evaluation. -/
structure EvaluationLimits where
  patterns : Pattern.Limits
  /-- The greatest depth; the root has depth one. -/
  maxDepth : Nat
deriving DecidableEq

def EvaluationLimits.default : EvaluationLimits := ⟨.default, defaultMaxDepth⟩

/-- A condition that cannot be evaluated. -/
inductive FatalError
  /-- A leaf with an operator that judges no field. -/
  | unhandledOperator (operator : Operator) (field : String)
  /-- A combination of nothing. -/
  | emptyComposite (operator : Operator)
  | depthExceeded (maxDepth : Nat)
deriving DecidableEq

def FatalError.message : FatalError → String
  | unhandledOperator op field =>
    "no handler registered for leaf operator " ++ op.label ++ " on field " ++ Text.quote field
  | emptyComposite op => op.label ++ " node has no children"
  | depthExceeded maxDepth => "condition tree exceeds maximum depth " ++ Number.intText maxDepth

/-- The truth of a node. -/
inductive Truth
  | holds
  | fails
  | errs
deriving DecidableEq

/-- What a walk needs besides the condition. -/
structure Setting where
  surroundings : Surroundings
  context : Context
  maxDepth : Nat

namespace Setting

/-! ### Leaves -/

/-- What the operator of the leaf `l` says of the field's value, by its `judgement`. A missing value
fails every operator that is not defined for it. -/
def answer (s : Setting) (l : Leaf) (judgement : Judgement) : Except EvaluationError Bool :=
  if (s.context.valueOf l.field).isNull && !l.operator.definedForMissing then .ok false
  else judgement s.surroundings (s.context.valueOf l.field) l.value

/-- The result of the leaf `l`. -/
def resultOf (s : Setting) (l : Leaf) (passed : Bool) (error : Option String) : LeafResult :=
  ⟨l.field, l.operator, l.value, s.context.valueOf l.field, passed, false, error⟩

end Setting

/-! ### Outcomes and progress -/

/-- What a node comes to, with the leaves to blame for it. -/
structure NodeOutcome where
  truth : Truth
  /-- The leaves to blame for a node that does not hold. -/
  failing : List LeafResult
  /-- The leaves that made the node hold. -/
  satisfying : List LeafResult

/-- The outcome below a negation: `satisfying` leaves become `failing` ones and the other way round,
each with `negated` flipped. An outcome that errs stays as it is. -/
def NodeOutcome.negate (o : NodeOutcome) : NodeOutcome :=
  match o.truth with
  | .holds => ⟨.fails, o.satisfying.map LeafResult.flip, []⟩
  | .fails => ⟨.holds, [], o.failing.map LeafResult.flip⟩
  | .errs => o

/-- What an evaluator has gathered so far. -/
structure Progress where
  /-- A warning for each visited leaf that gave no answer, in the order of visits. -/
  warnings : List Warning
  /-- How many leaves were visited. -/
  leavesEvaluated : Nat

namespace Progress

def start : Progress := ⟨[], 0⟩

/-- One more visit, before the leaf's operator is applied. -/
def counted (p : Progress) : Progress := { p with leavesEvaluated := p.leavesEvaluated + 1 }

/-- Takes the error `e` of the leaf `l` in as a warning. -/
def absorb (p : Progress) (l : Leaf) (e : EvaluationError) : Progress :=
  { p with warnings := p.warnings ++ [⟨l.field, l.operator, e.code, e.message⟩] }

end Progress

/-! ### The evaluator -/

/-- An evaluator for one `context`. -/
structure Evaluator where
  context : Context
  patterns : Pattern.Limits
  /-- The clock at each visit of a leaf, the first visit being number zero. -/
  clock : Nat → Pattern.Clock
  /-- Conditions deeper than this are a fatal error. -/
  maxDepth : Nat

namespace Evaluator

/-- What the leaf visited as number `k` is answered in. -/
def setting (e : Evaluator) (k : Nat) : Setting := ⟨⟨e.patterns, e.clock k⟩, e.context, e.maxDepth⟩

variable [Pattern.Library]

/-- Counts the leaf `l`, applies its operator and takes in an error as a warning. -/
def leaf (e : Evaluator) (l : Leaf) (p : Progress) : Except FatalError (NodeOutcome × Progress) :=
  match l.operator.judgement? with
  | none => .error (.unhandledOperator l.operator l.field)
  | some judgement =>
    let s := e.setting p.leavesEvaluated
    match s.answer l judgement with
    | .ok true => .ok (⟨.holds, [], [s.resultOf l true none]⟩, p.counted)
    | .ok false => .ok (⟨.fails, [s.resultOf l false none], []⟩, p.counted)
    | .error cause =>
      .ok (⟨.errs, [s.resultOf l false (some cause.message)], []⟩, p.counted.absorb l cause)

mutual

/-- The outcome of the node `c` at `depth`, and the progress after it. -/
def node (e : Evaluator) (depth : Nat) (c : Condition) (p : Progress) :
    Except FatalError (NodeOutcome × Progress) :=
  if e.maxDepth < depth then .error (.depthExceeded e.maxDepth)
  else
    match c with
    | .leaf l => e.leaf l p
    | .and cs =>
      if cs.isEmpty then .error (.emptyComposite .and) else andFrom e (depth + 1) [] cs p
    | .or cs =>
      if cs.isEmpty then .error (.emptyComposite .or) else orFrom e (depth + 1) [] false cs p
    | .not c =>
      match node e (depth + 1) c p with
      | .error fatal => .error fatal
      | .ok (inner, p) => .ok (inner.negate, p)

/-- The children of a conjunction from some child on, `satisfying` being what the earlier ones
collected. The first child that does not hold is the outcome. -/
def andFrom (e : Evaluator) (depth : Nat) (satisfying : List LeafResult) (cs : List Condition)
    (p : Progress) : Except FatalError (NodeOutcome × Progress) :=
  match cs with
  | [] => .ok (⟨.holds, [], satisfying⟩, p)
  | c :: cs =>
    match node e depth c p with
    | .error fatal => .error fatal
    | .ok (outcome, p) =>
      if outcome.truth = .holds then andFrom e depth (satisfying ++ outcome.satisfying) cs p
      else .ok (outcome, p)

/-- The children of a disjunction from some child on, `failing` and `errored` being what the earlier
ones collected. The first child that holds is the outcome. -/
def orFrom (e : Evaluator) (depth : Nat) (failing : List LeafResult) (errored : Bool)
    (cs : List Condition) (p : Progress) : Except FatalError (NodeOutcome × Progress) :=
  match cs with
  | [] => .ok (⟨if errored then .errs else .fails, failing, []⟩, p)
  | c :: cs =>
    match node e depth c p with
    | .error fatal => .error fatal
    | .ok (outcome, p) =>
      match outcome.truth with
      | .holds => .ok (outcome, p)
      | .errs => orFrom e depth (failing ++ outcome.failing) true cs p
      | .fails => orFrom e depth (failing ++ outcome.failing) errored cs p

end

/-- Evaluates the condition `c`. The `failing` leaves of the root are kept unless it holds. -/
def run (e : Evaluator) (c : Condition) : Except FatalError Trace :=
  match e.node 1 c .start with
  | .error fatal => .error fatal
  | .ok (outcome, p) =>
    let passed := outcome.truth == .holds
    .ok ⟨passed, if passed then [] else outcome.failing, p.warnings, p.leavesEvaluated⟩

end Evaluator

variable [Pattern.Library]

/-- Evaluates the condition `c` against `context`, with the same `clock` at every visit of a leaf,
so that the evaluator is `Steady`. -/
def Condition.evaluate (clock : Pattern.Clock) (limits : EvaluationLimits) (context : Context)
    (c : Condition) : Except FatalError Trace :=
  Evaluator.run ⟨context, limits.patterns, fun _ => clock, limits.maxDepth⟩ c

end Governance
