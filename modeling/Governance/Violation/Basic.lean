import Governance.Identity.Names
import Governance.Operator.Basic
import Governance.FieldValue
import Governance.Policy.Basic

/-!
# Violations

A violation records one failing leaf of one policy judged against one assessment. The policy's
version and severity are those of the moment it was found. Violations are written to documents and
read back.
-/

namespace Governance

open Decode

/-! ### Status and target -/

/-- How far the handling of a violation is. -/
inductive ViolationStatus
  | unresolved
  | acknowledged
  | inRemediation
  | resolved
deriving DecidableEq

namespace ViolationStatus

def all : List ViolationStatus := [unresolved, acknowledged, inRemediation, resolved]

def label : ViolationStatus → String
  | unresolved => "OPEN"
  | acknowledged => "ACKNOWLEDGED"
  | inRemediation => "IN_REMEDIATION"
  | resolved => "RESOLVED"

/-- Whether the handling ends here: nothing comes after `resolved`. -/
def isTerminal : ViolationStatus → Bool
  | resolved => true
  | _ => false

/-- Whether the first status may be followed by the second. -/
def mayBecome : ViolationStatus → ViolationStatus → Bool
  | unresolved, acknowledged => true
  | unresolved, resolved => true
  | acknowledged, inRemediation => true
  | acknowledged, resolved => true
  | inRemediation, resolved => true
  | _, _ => false

/-- The statuses by their labels, as documents name them. -/
def table : List (String × ViolationStatus) := all.map fun s => (s.label, s)

def toJson (s : ViolationStatus) : Json := .text s.label

def ofJson : Json → Reading ViolationStatus := variant table

end ViolationStatus

/-- The kind of thing that a violation is raised against, an `assessment`. -/
inductive TargetType
  | assessment
deriving DecidableEq

namespace TargetType

def label : TargetType → String
  | assessment => "ASSESSMENT"

/-- The kinds by their labels. -/
def table : List (String × TargetType) := [(assessment.label, assessment)]

def toJson (t : TargetType) : Json := .text t.label

def ofJson : Json → Reading TargetType := variant table

end TargetType

/-! ### Parts -/

/-- The failing leaf that a violation records. -/
structure ViolationData where
  field : String
  operator : Operator
  expected : FieldValue
  actual : FieldValue
  /-- Whether the leaf passed but stood under a negation. -/
  negated : Bool
  /-- Why the leaf gave no answer. -/
  warning : Option String
deriving BEq

namespace ViolationData

def toJson (d : ViolationData) : Json :=
  .object
    ([("field", .text d.field), ("operator", d.operator.toJson), ("expected", d.expected.toJson),
      ("actual", d.actual.toJson), ("negated", .bool d.negated)]
      ++ Json.optional "warning" .text d.warning)

def declared : List String := ["field", "operator", "expected", "actual", "negated", "warning"]

def ofJson (j : Json) : Reading ViolationData := do
  let r ← record "ViolationData" declared j
  let field := r.slot "field" text
  let operator := r.slot "operator" Operator.ofJson
  let expected := r.slot "expected" FieldValue.decode
  let actual := r.slot "actual" FieldValue.decode
  let negated := r.slot "negated" bool
  let warning := r.slot "warning" (option text)
  r.settle
    [field.fault, operator.fault, expected.fault, actual.fault, negated.fault, warning.fault]
  .ok
    { field := ← r.required field
      operator := ← r.required operator
      expected := ← r.required expected
      actual := ← r.required actual
      negated := ← negated.getD false
      warning := ← warning.getD none }

end ViolationData

/-- Who resolved a violation, and how. -/
structure Resolution where
  resolvedBy : String
  resolution : String
deriving DecidableEq

def Resolution.ofJson (j : Json) : Reading Resolution := do
  let r ← record "Resolution" ["resolvedBy", "resolution"] j
  let resolvedBy := r.slot "resolvedBy" text
  let resolution := r.slot "resolution" text
  r.settle [resolvedBy.fault, resolution.fault]
  .ok ⟨← r.required resolvedBy, ← r.required resolution⟩

/-- A change of a violation's status, from `source` to `target`. -/
structure ViolationTransition where
  source : ViolationStatus
  target : ViolationStatus
  timestamp : Timestamp
  actor : Option String
deriving DecidableEq

namespace ViolationTransition

def toJson (t : ViolationTransition) : Json :=
  .object
    ([("fromStatus", t.source.toJson), ("toStatus", t.target.toJson),
      ("timestamp", t.timestamp.toJson)]
      ++ Json.optional "actor" .text t.actor)

def declared : List String := ["fromStatus", "toStatus", "timestamp", "actor"]

def ofJson (j : Json) : Reading ViolationTransition := do
  let r ← record "ViolationTransitionRecord" declared j
  let source := r.slot "fromStatus" ViolationStatus.ofJson
  let target := r.slot "toStatus" ViolationStatus.ofJson
  let timestamp := r.slot "timestamp" Timestamp.ofJson
  let actor := r.slot "actor" (option text)
  r.settle [source.fault, target.fault, timestamp.fault, actor.fault]
  .ok
    { source := ← r.required source
      target := ← r.required target
      timestamp := ← r.required timestamp
      actor := ← actor.getD none }

end ViolationTransition

/-! ### Violations -/

/-- A violation of the policy `policyId`, by the leaf that `data` records. -/
structure Violation where
  id : ViolationId
  policyId : PolicyId
  /-- The version of the policy that was judged. -/
  policyVersion : Version
  targetType : TargetType
  assessmentId : AssessmentId
  tenant : TenantId
  /-- The policy's severity at the time. -/
  severity : Severity
  violationType : String
  data : ViolationData
  status : ViolationStatus
  detectedAt : Timestamp
  resolvedAt : Option Timestamp
  resolution : Option String
  resolvedBy : Option String
  transitions : List ViolationTransition
deriving BEq

namespace Violation

def isResolved (v : Violation) : Bool := v.status.isTerminal

def toJson (v : Violation) : Json :=
  .object
    ([("id", v.id.toJson), ("policyId", v.policyId.toJson),
      ("policyVersion", v.policyVersion.toJson), ("targetType", v.targetType.toJson),
      ("assessmentId", v.assessmentId.toJson), ("geographyAccountId", v.tenant.toJson),
      ("severity", v.severity.toJson), ("violationType", .text v.violationType),
      ("violationData", v.data.toJson), ("status", v.status.toJson),
      ("detectedAt", v.detectedAt.toJson)]
      ++ Json.optional "resolvedAt" Timestamp.toJson v.resolvedAt
      ++ Json.optional "resolution" .text v.resolution
      ++ Json.optional "resolvedBy" .text v.resolvedBy
      ++ [("transitions", .array (v.transitions.map ViolationTransition.toJson))])

def declared : List String :=
  ["id", "policyId", "policyVersion", "targetType", "assessmentId", "geographyAccountId",
   "severity", "violationType", "violationData", "status", "detectedAt", "resolvedAt",
   "resolution", "resolvedBy", "transitions"]

def ofJson (j : Json) : Reading Violation := do
  let r ← record "Violation" declared j
  let id := r.slot "id" ViolationId.ofJson
  let policyId := r.slot "policyId" PolicyId.ofJson
  let policyVersion := r.slot "policyVersion" Version.ofJson
  let targetType := r.slot "targetType" TargetType.ofJson
  let assessmentId := r.slot "assessmentId" AssessmentId.ofJson
  let tenant := r.slot "geographyAccountId" TenantId.ofJson
  let severity := r.slot "severity" Severity.ofJson
  let violationType := r.slot "violationType" text
  let data := r.slot "violationData" ViolationData.ofJson
  let status := r.slot "status" ViolationStatus.ofJson
  let detectedAt := r.slot "detectedAt" Timestamp.ofJson
  let resolvedAt := r.slot "resolvedAt" (option Timestamp.ofJson)
  let resolution := r.slot "resolution" (option text)
  let resolvedBy := r.slot "resolvedBy" (option text)
  let transitions := r.slot "transitions" (list ViolationTransition.ofJson)
  r.settle
    [id.fault, policyId.fault, policyVersion.fault, targetType.fault, assessmentId.fault,
      tenant.fault, severity.fault, violationType.fault, data.fault, status.fault,
      detectedAt.fault, resolvedAt.fault, resolution.fault, resolvedBy.fault, transitions.fault]
  .ok
    { id := ← r.required id
      policyId := ← r.required policyId
      policyVersion := ← r.required policyVersion
      targetType := ← r.required targetType
      assessmentId := ← r.required assessmentId
      tenant := ← r.required tenant
      severity := ← r.required severity
      violationType := ← r.required violationType
      data := ← r.required data
      status := ← r.required status
      detectedAt := ← r.required detectedAt
      resolvedAt := ← resolvedAt.getD none
      resolution := ← resolution.getD none
      resolvedBy := ← resolvedBy.getD none
      transitions := ← transitions.getD [] }

end Violation

end Governance
