import Governance.Assessment
import Governance.Enforcement
import Governance.Evaluation.Evaluator

/-!
# Judging one policy

One policy against one assessment: the trace of its conditions, the violations that the trace
shows, and the decision. A policy whose conditions cannot be evaluated has no outcome.
-/

namespace Governance

/-- What judging one policy gives. -/
structure Outcome where
  policyId : PolicyId
  policyVersion : Version
  passed : Bool
  violations : List Violation
  decision : Decision
  trace : Trace

def Outcome.toJson (o : Outcome) : Json :=
  .object
    [("policyId", o.policyId.toJson), ("policyVersion", o.policyVersion.toJson),
      ("passed", .bool o.passed), ("violations", .array (o.violations.map Violation.toJson)),
      ("enforcementDecision", o.decision.toJson), ("trace", o.trace.toJson)]

/-- A policy that cannot be judged. -/
structure Unjudged where
  policyId : PolicyId
  version : Version
  cause : FatalError
deriving DecidableEq

def Unjudged.message (e : Unjudged) : String :=
  "policy " ++ e.policyId.text ++ " (version " ++ Number.intText e.version.toNat
    ++ ") cannot be evaluated: " ++ e.cause.message

/-- What judgements need besides policies and assessments. -/
structure Engine where
  clock : Pattern.Clock
  limits : EvaluationLimits

namespace Engine

variable [Pattern.Library]

/-- Judges the policy `p` against `context`, whatever the status of `p`. -/
def judgeIn (e : Engine) (ids : IdSource) (now : Timestamp) (assessmentId : AssessmentId)
    (context : Context) (p : Policy) : Except Unjudged Outcome :=
  match p.content.conditions.evaluate e.clock e.limits context with
  | .error cause => .error ⟨p.id, p.version, cause⟩
  | .ok trace =>
    let violations := p.violations assessmentId now ids trace
    .ok
      { policyId := p.id
        policyVersion := p.version
        passed := trace.passed
        violations := violations
        decision := p.decide assessmentId trace.passed violations
        trace := trace }

/-- Judges the policy `p` against the assessment `a`. -/
def judge (e : Engine) (ids : IdSource) (now : Timestamp) (a : Assessment) (p : Policy) :
    Except Unjudged Outcome :=
  e.judgeIn ids now a.id a.context p

end Engine

/-- How many fresh identifiers a judgement uses up. -/
def identifiersUsed : Except Unjudged Outcome → Nat
  | .ok o => o.violations.length
  | .error _ => 0

end Governance
