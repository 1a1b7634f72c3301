import Governance.Identity.Names
import Governance.Policy.Content
import Governance.Time.Reader

/-!
# Policies

A policy belongs to a tenant and has a version, a status, and the content that is in force. Its
history keeps the conditions and severity of each earlier version, oldest first, with a digest of
the conditions; its transitions keep each change of status. Policies, new policies and updates are
read from documents; the first two are also written to them.
-/

namespace Governance

open Decode

/-! ### Status -/

/-- Where a policy is in its life. -/
inductive PolicyStatus
  | draft
  | active
  | deprecated
  | archived
deriving DecidableEq

namespace PolicyStatus

def all : List PolicyStatus := [draft, active, deprecated, archived]

def label : PolicyStatus → String
  | draft => "DRAFT"
  | active => "ACTIVE"
  | deprecated => "DEPRECATED"
  | archived => "ARCHIVED"

/-- Whether the life of a policy ends here. -/
def isTerminal : PolicyStatus → Bool
  | archived => true
  | _ => false

/-- Whether one status may follow another. -/
def mayBecome : PolicyStatus → PolicyStatus → Bool
  | draft, active => true
  | draft, archived => true
  | active, deprecated => true
  | active, archived => true
  | deprecated, archived => true
  | _, _ => false

/-- Labels with their statuses. -/
def table : List (String × PolicyStatus) := all.map fun s => (s.label, s)

def toJson (s : PolicyStatus) : Json := .text s.label

def ofJson : Json → Reading PolicyStatus := variant table

end PolicyStatus

/-! ### Records of the past -/

/-- A version number; the count starts anew after the last one. -/
abbrev Version := UInt64

def Version.toJson (v : Version) : Json := .nat v.toNat

def Version.ofJson (j : Json) : Reading Version := (natural "u64" j).map UInt64.ofNat

/-- What an earlier version of a policy said. -/
structure Revision where
  version : Version
  conditions : Condition
  severity : Severity
  conditionsDigest : String
  revisedAt : Timestamp
deriving BEq

namespace Revision

def toJson (r : Revision) : Json :=
  .object
    [("version", r.version.toJson), ("conditions", r.conditions.toJson),
      ("severity", r.severity.toJson), ("conditionsDigest", .text r.conditionsDigest),
      ("revisedAt", r.revisedAt.toJson)]

def declared : List String :=
  ["version", "conditions", "severity", "conditionsDigest", "revisedAt"]

variable [Pattern.Library]

def ofJson (j : Json) : Reading Revision := do
  let r ← record "PolicyRevision" declared j
  let version := r.slot "version" Version.ofJson
  let conditions := r.slot "conditions" Condition.ofJson
  let severity := r.slot "severity" Severity.ofJson
  let conditionsDigest := r.slot "conditionsDigest" text
  let revisedAt := r.slot "revisedAt" Timestamp.ofJson
  r.settle
    [version.fault, conditions.fault, severity.fault, conditionsDigest.fault, revisedAt.fault]
  .ok
    { version := ← r.required version
      conditions := ← r.required conditions
      severity := ← r.required severity
      conditionsDigest := ← r.required conditionsDigest
      revisedAt := ← r.required revisedAt }

end Revision

/-- A change of a policy's status. -/
structure PolicyTransition where
  source : PolicyStatus
  target : PolicyStatus
  timestamp : Timestamp
deriving DecidableEq

namespace PolicyTransition

def toJson (t : PolicyTransition) : Json :=
  .object
    [("fromStatus", t.source.toJson), ("toStatus", t.target.toJson),
      ("timestamp", t.timestamp.toJson)]

def declared : List String := ["fromStatus", "toStatus", "timestamp"]

def ofJson (j : Json) : Reading PolicyTransition := do
  let r ← record "PolicyTransitionRecord" declared j
  let source := r.slot "fromStatus" PolicyStatus.ofJson
  let target := r.slot "toStatus" PolicyStatus.ofJson
  let timestamp := r.slot "timestamp" Timestamp.ofJson
  r.settle [source.fault, target.fault, timestamp.fault]
  .ok ⟨← r.required source, ← r.required target, ← r.required timestamp⟩

end PolicyTransition

/-! ### Policies -/

/-- A policy at its current version. -/
structure Policy where
  id : PolicyId
  tenant : TenantId
  version : Version
  content : PolicyContent Condition
  status : PolicyStatus
  createdAt : Timestamp
  updatedAt : Timestamp
  /-- What earlier versions said, oldest first. -/
  history : List Revision
  transitions : List PolicyTransition
deriving BEq

namespace Policy

/-- The first version, with which `create` begins. -/
def firstVersion : Version := 1

/-- Whether the policy `p` is enforced. -/
def isActive (p : Policy) : Bool := p.status == .active

def toJson (p : Policy) : Json :=
  .object
    ([("id", p.id.toJson), ("geographyAccountId", p.tenant.toJson),
      ("version", p.version.toJson)]
      ++ p.content.members Condition.toJson
      ++ [("status", p.status.toJson), ("createdAt", p.createdAt.toJson),
        ("updatedAt", p.updatedAt.toJson), ("history", .array (p.history.map Revision.toJson)),
        ("transitions", .array (p.transitions.map PolicyTransition.toJson))])

def declared : List String :=
  ["id", "geographyAccountId", "version"] ++ PolicyContent.declared
    ++ ["status", "createdAt", "updatedAt", "history", "transitions"]

variable [Pattern.Library]

/-- Reads a policy. One without an identifier gets `fresh`, one without times gets `now`. -/
def ofJson (fresh : PolicyId) (now : Timestamp) (j : Json) : Reading Policy := do
  let r ← record "Policy" declared j
  let id := r.slot "id" PolicyId.ofJson
  let tenant := r.slot "geographyAccountId" TenantId.ofJson
  let version := r.slot "version" Version.ofJson
  let content := PolicyContent.slots Condition.ofJson r
  let status := r.slot "status" PolicyStatus.ofJson
  let createdAt := r.slot "createdAt" Timestamp.ofJson
  let updatedAt := r.slot "updatedAt" Timestamp.ofJson
  let history := r.slot "history" (list Revision.ofJson)
  let transitions := r.slot "transitions" (list PolicyTransition.ofJson)
  r.settle
    ([id.fault, tenant.fault, version.fault] ++ content.faults
      ++ [status.fault, createdAt.fault, updatedAt.fault, history.fault, transitions.fault])
  .ok
    { id := ← id.getD fresh
      tenant := ← r.required tenant
      version := ← version.getD firstVersion
      content := ← content.content r
      status := ← status.getD .draft
      createdAt := ← createdAt.getD now
      updatedAt := ← updatedAt.getD now
      history := ← history.getD []
      transitions := ← transitions.getD [] }

end Policy

/-- What is needed to create a policy. -/
structure NewPolicy where
  tenant : TenantId
  content : PolicyContent WrittenCondition
  status : PolicyStatus

namespace NewPolicy

def toJson (n : NewPolicy) : Json :=
  .object
    (("geographyAccountId", n.tenant.toJson) :: n.content.members WrittenCondition.toJson
      ++ [("status", n.status.toJson)])

def declared : List String := "geographyAccountId" :: PolicyContent.declared ++ ["status"]

def ofJson (j : Json) : Reading NewPolicy := do
  let r ← record "NewPolicy" declared j
  let tenant := r.slot "geographyAccountId" TenantId.ofJson
  let content := PolicyContent.slots WrittenCondition.ofJson r
  let status := r.slot "status" PolicyStatus.ofJson
  r.settle (tenant.fault :: content.faults ++ [status.fault])
  .ok
    { tenant := ← r.required tenant
      content := ← content.content r
      status := ← status.getD .draft }

end NewPolicy

/-- A partial change of a policy's content; what is absent stays as it is. -/
structure PolicyUpdate where
  name : Option String
  description : Option String
  category : Option String
  severity : Option Severity
  policyType : Option String
  scope : Option String
  jurisdictions : Option (List String)
  industries : Option (List String)
  conditions : Option WrittenCondition
  enforcementMode : Option EnforcementMode
  autoRemediate : Option Bool
  onViolation : Option (List ActionIntent)

namespace PolicyUpdate

def ofJson (j : Json) : Reading PolicyUpdate := do
  let r ← record "PolicyUpdate" PolicyContent.declared j
  let name := r.slot "name" (option text)
  let description := r.slot "description" (option text)
  let category := r.slot "category" (option text)
  let severity := r.slot "severity" (option Severity.ofJson)
  let policyType := r.slot "policyType" (option text)
  let scope := r.slot "scope" (option text)
  let jurisdictions := r.slot "jurisdictions" (option texts)
  let industries := r.slot "industries" (option texts)
  let conditions := r.slot "conditions" (option WrittenCondition.ofJson)
  let enforcementMode := r.slot "enforcementMode" (option EnforcementMode.ofJson)
  let autoRemediate := r.slot "autoRemediate" (option bool)
  let onViolation := r.slot "actions" (option ActionIntent.listOfJson)
  r.settle
    [name.fault, description.fault, category.fault, severity.fault, policyType.fault, scope.fault,
      jurisdictions.fault, industries.fault, conditions.fault, enforcementMode.fault,
      autoRemediate.fault, onViolation.fault]
  .ok
    { name := ← name.getD none
      description := ← description.getD none
      category := ← category.getD none
      severity := ← severity.getD none
      policyType := ← policyType.getD none
      scope := ← scope.getD none
      jurisdictions := ← jurisdictions.getD none
      industries := ← industries.getD none
      conditions := ← conditions.getD none
      enforcementMode := ← enforcementMode.getD none
      autoRemediate := ← autoRemediate.getD none
      onViolation := ← onViolation.getD none }

/-- The content `c` after the update `u`, with `conditions` in the place of what `u` wrote. -/
def apply (u : PolicyUpdate) (conditions : Option Condition) (c : PolicyContent Condition) :
    PolicyContent Condition where
  name := u.name.getD c.name
  description := u.description.getD c.description
  category := u.category.getD c.category
  severity := u.severity.getD c.severity
  policyType := u.policyType.getD c.policyType
  scope := u.scope.getD c.scope
  jurisdictions := u.jurisdictions.getD c.jurisdictions
  industries := u.industries.getD c.industries
  conditions := conditions.getD c.conditions
  enforcementMode := u.enforcementMode.getD c.enforcementMode
  autoRemediate := u.autoRemediate.getD c.autoRemediate
  onViolation := u.onViolation.getD c.onViolation

end PolicyUpdate

end Governance
