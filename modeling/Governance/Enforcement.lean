import Governance.Evaluation.Trace
import Governance.Violation.Lifecycle

/-!
# Violations of a policy and what follows

The leaves that made a policy fail become violations, one for each distinct leaf, with the policy's
version and severity as they are now. What the caller should do follows from the policy's mode, and
every intent of the policy becomes a notification that names the violations it is about.
-/

namespace Governance

open Decode

/-! ### Actions -/

/-- What is to be done about what was assessed. -/
inductive EnforcementAction
  | none
  | remediationTriggered
  | blocked
deriving DecidableEq

namespace EnforcementAction

def label : EnforcementAction → String
  | none => "NONE"
  | remediationTriggered => "REMEDIATION_TRIGGERED"
  | blocked => "BLOCKED"

/-- How strong an action is, by which `stronger` compares. -/
def strength : EnforcementAction → Nat
  | none => 0
  | remediationTriggered => 1
  | blocked => 2

/-- The stronger of `a` and `b`. -/
def stronger (a b : EnforcementAction) : EnforcementAction :=
  if a.strength ≤ b.strength then b else a

def toJson (a : EnforcementAction) : Json := .text a.label

theorem strength_stronger (a b : EnforcementAction) :
    (stronger a b).strength = max a.strength b.strength := by
  cases a <;> cases b <;> rfl

end EnforcementAction

/-- What a policy that is not kept leads to by its mode; `autoRemediate` counts for one of the
modes. -/
def EnforcementMode.action (autoRemediate : Bool) : EnforcementMode → EnforcementAction
  | detect => .none
  | prevent => .blocked
  | remediate => if autoRemediate then .remediationTriggered else .none

/-! ### Notifications and decisions -/

/-- A notification of violations of one policy, to be delivered elsewhere. -/
structure Notification where
  kind : String
  params : List (String × Json)
  policyId : PolicyId
  policyName : String
  tenant : TenantId
  assessmentId : AssessmentId
  severity : Severity
  violationIds : List ViolationId
deriving BEq

namespace Notification

def toJson (n : Notification) : Json :=
  .object
    (("type", .text n.kind)
      :: (if n.params.isEmpty then [] else [("params", .object n.params)])
      ++ [("policyId", n.policyId.toJson), ("policyName", .text n.policyName),
        ("geographyAccountId", n.tenant.toJson), ("assessmentId", n.assessmentId.toJson),
        ("severity", n.severity.toJson),
        ("violationIds", .array (n.violationIds.map ViolationId.toJson))])

def declared : List String :=
  ["type", "params", "policyId", "policyName", "geographyAccountId", "assessmentId", "severity",
   "violationIds"]

def ofJson (j : Json) : Reading Notification := do
  let r ← record "NotificationIntent" declared j
  let kind := r.slot "type" text
  let params := r.slot "params" members
  let policyId := r.slot "policyId" PolicyId.ofJson
  let policyName := r.slot "policyName" text
  let tenant := r.slot "geographyAccountId" TenantId.ofJson
  let assessmentId := r.slot "assessmentId" AssessmentId.ofJson
  let severity := r.slot "severity" Severity.ofJson
  let violationIds := r.slot "violationIds" (list ViolationId.ofJson)
  r.settle
    [kind.fault, params.fault, policyId.fault, policyName.fault, tenant.fault, assessmentId.fault,
      severity.fault, violationIds.fault]
  .ok
    { kind := ← r.required kind
      params := ← params.getD []
      policyId := ← r.required policyId
      policyName := ← r.required policyName
      tenant := ← r.required tenant
      assessmentId := ← r.required assessmentId
      severity := ← r.required severity
      violationIds := ← r.required violationIds }

end Notification

/-- What follows from judging one policy. -/
structure Decision where
  passed : Bool
  action : EnforcementAction
  notifications : List Notification
deriving BEq

namespace Decision

/-- What follows when a policy is kept. -/
def pass : Decision := ⟨true, .none, []⟩

def toJson (d : Decision) : Json :=
  .object
    [("passed", .bool d.passed), ("action", d.action.toJson),
      ("notificationsToSend", .array (d.notifications.map Notification.toJson))]

end Decision

/-! ### Violations -/

namespace LeafResult

/-- Whether `a` and `b` report the same leaf. -/
def sameLeaf (a b : LeafResult) : Bool :=
  a.field == b.field && a.operator == b.operator && a.expected == b.expected
    && a.negated == b.negated

/-- The results without those of a leaf that `seen` reports, in their order. -/
def distinctAfter (seen : List LeafResult) : List LeafResult → List LeafResult
  | [] => []
  | r :: rest =>
    if seen.any r.sameLeaf then distinctAfter seen rest else r :: distinctAfter (r :: seen) rest

/-- The first of `results` for every leaf. -/
def distinct (results : List LeafResult) : List LeafResult := distinctAfter [] results

/-- What a violation keeps of the result `r`. -/
def violationData (r : LeafResult) : ViolationData :=
  ⟨r.field, r.operator, r.expected, r.actual, r.negated, r.error⟩

end LeafResult

namespace Policy

/-- What is known of a violation of the policy `p` when the leaf of `r` has failed. -/
def detection (p : Policy) (assessmentId : AssessmentId) (r : LeafResult) : Violation.Detection :=
  ⟨p.id, p.version, p.tenant, assessmentId, p.content.severity, r.violationData⟩

/-- The leaves in `trace` that violations are opened for. -/
def violatedLeaves (trace : Trace) : List LeafResult :=
  if trace.passed then [] else LeafResult.distinct trace.failingLeaves

/-- Opens a violation of `p` for each result, under fresh identifiers of `ids`. -/
def openAll (p : Policy) (assessmentId : AssessmentId) (now : Timestamp) (ids : IdSource) :
    List LeafResult → List Violation
  | [] => []
  | r :: rest =>
    Violation.opened ⟨ids.nth 0⟩ now (p.detection assessmentId r)
      :: openAll p assessmentId now (ids.advance 1) rest

/-- The violations of `p` that `trace` shows, one for each distinct failing leaf. -/
def violations (p : Policy) (assessmentId : AssessmentId) (now : Timestamp) (ids : IdSource)
    (trace : Trace) : List Violation :=
  p.openAll assessmentId now ids (violatedLeaves trace)

/-- The notification that an `intent` of the policy `p` asks for. -/
def notification (p : Policy) (assessmentId : AssessmentId) (violations : List Violation)
    (intent : ActionIntent) : Notification where
  kind := intent.kind
  params := intent.params
  policyId := p.id
  policyName := p.content.name
  tenant := p.tenant
  assessmentId := assessmentId
  severity := p.content.severity
  violationIds := violations.map Violation.id

/-- What follows from the policy's being kept (`passed`) or not. -/
def decide (p : Policy) (assessmentId : AssessmentId) (passed : Bool)
    (violations : List Violation) : Decision :=
  if passed then .pass
  else
    { passed := false
      action := p.content.enforcementMode.action p.content.autoRemediate
      notifications := p.content.onViolation.map (p.notification assessmentId violations) }

theorem length_openAll (p : Policy) (assessmentId : AssessmentId) (now : Timestamp)
    (ids : IdSource) (results : List LeafResult) :
    (p.openAll assessmentId now ids results).length = results.length := by
  induction results generalizing ids with
  | nil => rfl
  | cons r rest ih => simp [openAll, ih]

end Policy

end Governance
