import Governance.Config
import Governance.Outcome
import Governance.Pool

/-!
# Judging many policies

The active ones among some policies are judged against one assessment by a `Pool` of workers, and
what has been reported on them is merged into one `BulkResult`. A policy that cannot be judged, or
that nobody has reported on, is listed apart and does not disturb the others. Violations come most
severe first, then by policy; those of policies that prevent are listed as blocking.

* `merge`: the result for some `entries` and the `slots` that belong to them.
* `BulkEvaluator.MayGive`: what a run of the workers may end in; who judges what, and in which
  order the reports arrive, is left to chance.
* `Engine.judgeAll`: what the run gives in which one worker judges all policies in their order.
-/

namespace Governance

/-! ### Results -/

/-- Whether any violation was found. -/
inductive OverallStatus
  | allPassed
  | violationsDetected
deriving DecidableEq

def OverallStatus.label : OverallStatus → String
  | allPassed => "ALL_PASSED"
  | violationsDetected => "VIOLATIONS_DETECTED"

/-- A policy that could not be judged. -/
structure PolicyFailure where
  policyId : PolicyId
  policyName : String
  message : String
deriving DecidableEq

def PolicyFailure.toJson (f : PolicyFailure) : Json :=
  .object
    [("policyId", f.policyId.toJson), ("policyName", .text f.policyName),
      ("message", .text f.message)]

/-- What judging many policies gives, by `merge`. -/
structure BulkResult where
  assessmentId : AssessmentId
  /-- Active policies, those that could not be judged included. -/
  evaluatedPolicies : Nat
  passedPolicies : Nat
  failedPolicies : Nat
  erroredPolicies : Nat
  /-- Most severe first, then by policy. -/
  violations : List Violation
  /-- Violations of policies that prevent, in the order of `violations`. -/
  blockingViolationIds : List ViolationId
  enforcementAction : EnforcementAction
  notifications : List Notification
  errors : List PolicyFailure

namespace BulkResult

/-- The result of judging no policy. -/
def empty (assessmentId : AssessmentId) : BulkResult :=
  ⟨assessmentId, 0, 0, 0, 0, [], [], .none, [], []⟩

def blockingViolations (r : BulkResult) : Nat := r.blockingViolationIds.length

def overallStatus (r : BulkResult) : OverallStatus :=
  if r.violations.isEmpty then .allPassed else .violationsDetected

def isBlocked (r : BulkResult) : Bool := r.enforcementAction == .blocked

def toJson (r : BulkResult) : Json :=
  .object
    [("assessmentId", r.assessmentId.toJson), ("evaluatedPolicies", .nat r.evaluatedPolicies),
      ("passedPolicies", .nat r.passedPolicies), ("failedPolicies", .nat r.failedPolicies),
      ("erroredPolicies", .nat r.erroredPolicies),
      ("violations", .array (r.violations.map Violation.toJson)),
      ("blockingViolations", .nat r.blockingViolations),
      ("blockingViolationIds", .array (r.blockingViolationIds.map ViolationId.toJson)),
      ("overallStatus", .text r.overallStatus.label),
      ("enforcementAction", r.enforcementAction.toJson),
      ("notificationsToSend", .array (r.notifications.map Notification.toJson)),
      ("errors", .array (r.errors.map PolicyFailure.toJson))]

end BulkResult

/-! ### Merging -/

/-- What merging knows of a policy besides what has been reported on it. -/
structure Entry where
  policyId : PolicyId
  policyName : String
  mode : EnforcementMode
deriving DecidableEq

def Policy.entry (p : Policy) : Entry := ⟨p.id, p.content.name, p.content.enforcementMode⟩

/-- What is told of a policy that nobody has reported on, whose slot is `none`. -/
def lostMessage : String := "worker terminated before reporting"

/-- What is counted and collected while outcomes come in. -/
structure Tally where
  passed : Nat
  failed : Nat
  errored : Nat
  violations : List Violation
  /-- Violated policies that prevent. -/
  preventing : List PolicyId
  action : EnforcementAction
  notifications : List Notification
  errors : List PolicyFailure

namespace Tally

def empty : Tally := ⟨0, 0, 0, [], [], .none, [], []⟩

/-- Counts the violated policy `n`, with its outcome `o`. -/
def addFailed (t : Tally) (n : Entry) (o : Outcome) : Tally :=
  { t with
    failed := t.failed + 1
    violations := t.violations ++ o.violations
    preventing := if n.mode = .prevent then n.policyId :: t.preventing else t.preventing
    action := t.action.stronger o.decision.action
    notifications := t.notifications ++ o.decision.notifications }

/-- Counts the policy `n`, which has no outcome, with the `message` that is told of it. -/
def addErrored (t : Tally) (n : Entry) (message : String) : Tally :=
  { t with
    errored := t.errored + 1
    errors := t.errors ++ [⟨n.policyId, n.policyName, message⟩] }

/-- Counts what the slot of the policy `n` holds. -/
def add (t : Tally) (n : Entry) : Option (Except Unjudged Outcome) → Tally
  | some (.ok o) => if o.passed then { t with passed := t.passed + 1 } else t.addFailed n o
  | some (.error e) => t.addErrored n e.message
  | none => t.addErrored n lostMessage

/-- The tally of the policies `entries` and their `slots`, in the order of the policies. -/
def ofSlots (entries : List Entry) (slots : List (Option (Except Unjudged Outcome))) : Tally :=
  (entries.zip slots).foldl (fun t s => t.add s.1 s.2) empty

/-- Whether `v` may come before `w`: by severity, and then by policy. -/
def inOrder (v w : Violation) : Bool :=
  decide (v.severity.rank < w.severity.rank)
    || (v.severity == w.severity && !decide (w.policyId < v.policyId))

/-- The result of the tally `t`, once every outcome is in. -/
def result (t : Tally) (assessmentId : AssessmentId) (evaluated : Nat) : BulkResult :=
  let violations := t.violations.mergeSort inOrder
  { assessmentId := assessmentId
    evaluatedPolicies := evaluated
    passedPolicies := t.passed
    failedPolicies := t.failed
    erroredPolicies := t.errored
    violations := violations
    blockingViolationIds :=
      (violations.filter fun v => t.preventing.contains v.policyId).map Violation.id
    enforcementAction := t.action
    notifications := t.notifications
    errors := t.errors }

end Tally

/-- The result for the policies `entries` and their `slots`. -/
def merge (assessmentId : AssessmentId) (entries : List Entry)
    (slots : List (Option (Except Unjudged Outcome))) : BulkResult :=
  (Tally.ofSlots entries slots).result assessmentId entries.length

/-! ### Evaluators -/

/-- Judges policies with a bounded number of workers. -/
structure BulkEvaluator where
  engine : Engine
  maxWorkers : Nat
  maxWorkers_pos : 0 < maxWorkers

namespace BulkEvaluator

/-- The evaluator of the configuration `c`; it has a worker in any case. -/
def ofConfig (clock : Pattern.Clock) (c : Config) : BulkEvaluator where
  engine := ⟨clock, c.evaluationLimits⟩
  maxWorkers := max c.maxWorkers 1
  maxWorkers_pos := Nat.lt_of_lt_of_le Nat.zero_lt_one (Nat.le_max_right _ _)

variable (b : BulkEvaluator) (a : Assessment) (policies : List Policy)

variable [Pattern.Library]

/-- What work on the policy `p` ends in: a `report` that says what judging it gives, under
identifiers that are minted for it and at a time of its own. -/
def Judges (p : Policy) (report : Option (Except Unjudged Outcome)) : Prop :=
  ∃ (ids : IdSource) (now : Timestamp), report = some (b.engine.judge ids now a p)

/-- The pool at the beginning, with no more workers than there are active ones among `policies`. -/
def pool : Pool Policy (Except Unjudged Outcome) :=
  let active := policies.filter Policy.isActive
  .start (min active.length b.maxWorkers) active

/-- What judging the active ones among `policies` may give, whatever the workers of `b` do. -/
inductive MayGive : BulkResult → Prop
  /-- No policy is active; nobody is set to work. -/
  | idle (h : policies.filter Policy.isActive = []) : MayGive (.empty a.id)
  /-- The workers have finished. -/
  | merged {n : Nat} {last : Pool Policy (Except Unjudged Outcome)}
      (h : policies.filter Policy.isActive ≠ [])
      (hruns : Pool.Runs (b.Judges a) (b.pool policies) n last) (hlast : last.Finished) :
      MayGive (merge a.id ((policies.filter Policy.isActive).map Policy.entry) last.slots)

end BulkEvaluator

namespace Engine

variable [Pattern.Library]

/-- Judges policies one after the other; each takes its identifiers behind those used up in
`ids`. -/
def judgeEach (e : Engine) (now : Timestamp) (assessmentId : AssessmentId) (context : Context) :
    IdSource → List Policy → List (Policy × Except Unjudged Outcome)
  | _, [] => []
  | ids, p :: ps =>
    let judged := e.judgeIn ids now assessmentId context p
    (p, judged) :: judgeEach e now assessmentId context (ids.advance (identifiersUsed judged)) ps

/-- Judges the active ones among `policies` against `a`, in their order. -/
def judgeAll (e : Engine) (ids : IdSource) (now : Timestamp) (a : Assessment)
    (policies : List Policy) : BulkResult :=
  let active := policies.filter Policy.isActive
  if active.isEmpty then .empty a.id
  else
    let reports := (e.judgeEach now a.id a.context ids active).map Prod.snd
    let slots := reports.zipIdx.foldl fillSlot (.replicate active.length none)
    merge a.id (active.map Policy.entry) slots

end Engine

/-- How many fresh identifiers the result `r` has used up. -/
def BulkResult.identifiersUsed (r : BulkResult) : Nat := r.violations.length

end Governance
