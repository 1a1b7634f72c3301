import Governance.Condition.Validation
import Governance.Severity

/-!
# What a policy says

The part of a policy that its author writes and edits: what it is called, how severe a violation
is, the conditions that have to hold, and what follows when they do not. Its conditions are written
ones before a policy is accepted and checked ones afterwards.
-/

namespace Governance

open Decode

/-! ### Enforcement -/

/-- What a violation of a policy leads to. -/
inductive EnforcementMode
  /-- Violations are recorded. -/
  | detect
  /-- Violations are recorded and block what was assessed. -/
  | prevent
  /-- Violations are recorded and may start a remedy. -/
  | remediate
deriving DecidableEq

namespace EnforcementMode

def all : List EnforcementMode := [detect, prevent, remediate]

def label : EnforcementMode → String
  | detect => "DETECT"
  | prevent => "PREVENT"
  | remediate => "REMEDIATE"

/-- Labels with their modes. -/
def table : List (String × EnforcementMode) := all.map fun m => (m.label, m)

def toJson (m : EnforcementMode) : Json := .text m.label

def ofJson : Json → Reading EnforcementMode := variant table

end EnforcementMode

/-! ### Intents -/

/-- A follow-up to a violation: its kind, and whatever else its author wrote. -/
structure ActionIntent where
  kind : String
  params : List (String × Json)
deriving BEq

namespace ActionIntent

def toJson (a : ActionIntent) : Json := .object (("type", .text a.kind) :: a.params)

def ofJson (j : Json) : Reading ActionIntent := do
  let r ← keyedRecord "ActionIntent" ["type"] j
  let kind := r.slot "type" text
  r.settle [kind.fault]
  .ok ⟨← r.required kind, r.members.filter fun m => m.1 ≠ "type"⟩

/-- The intents of a policy as its documents hold them. -/
def listToJson (intents : List ActionIntent) : Json :=
  .object [("onViolation", .array (intents.map toJson))]

def listOfJson (j : Json) : Reading (List ActionIntent) := do
  let r ← record "PolicyActions" ["onViolation"] j
  let intents := r.slot "onViolation" (list ofJson)
  r.settle [intents.fault]
  intents.getD []

end ActionIntent

/-! ### Content -/

/-- What a policy says, its conditions in the form `κ`. -/
structure PolicyContent (κ : Type) where
  name : String
  description : String
  category : String
  severity : Severity
  policyType : String
  scope : String
  jurisdictions : List String
  industries : List String
  conditions : κ
  enforcementMode : EnforcementMode
  autoRemediate : Bool
  /-- What to do about each violation. -/
  onViolation : List ActionIntent
deriving BEq

namespace PolicyContent

variable {κ : Type}

/-- The content `c` with its conditions in another form. -/
def withConditions {μ : Type} (c : PolicyContent κ) (conditions : μ) : PolicyContent μ :=
  { c with conditions := conditions }

/-- Members of a policy's document that say its content, in the order of declaration. -/
def declared : List String :=
  ["name", "description", "category", "severity", "policyType", "scope", "jurisdictions",
   "industries", "conditions", "enforcementMode", "autoRemediate", "actions"]

def members (write : κ → Json) (c : PolicyContent κ) : List (String × Json) :=
  [("name", .text c.name), ("description", .text c.description), ("category", .text c.category),
   ("severity", c.severity.toJson), ("policyType", .text c.policyType), ("scope", .text c.scope),
   ("jurisdictions", .texts c.jurisdictions), ("industries", .texts c.industries),
   ("conditions", write c.conditions), ("enforcementMode", c.enforcementMode.toJson),
   ("autoRemediate", .bool c.autoRemediate), ("actions", ActionIntent.listToJson c.onViolation)]

/-- The members of a content, read if present. -/
structure Slots (κ : Type) where
  name : Slot String
  description : Slot String
  category : Slot String
  severity : Slot Severity
  policyType : Slot String
  scope : Slot String
  jurisdictions : Slot (List String)
  industries : Slot (List String)
  conditions : Slot κ
  enforcementMode : Slot EnforcementMode
  autoRemediate : Slot Bool
  onViolation : Slot (List ActionIntent)

/-- Reads the members of a content from a record `r` that holds them. -/
def slots (read : Json → Reading κ) (r : Record) : Slots κ where
  name := r.slot "name" text
  description := r.slot "description" text
  category := r.slot "category" text
  severity := r.slot "severity" Severity.ofJson
  policyType := r.slot "policyType" text
  scope := r.slot "scope" text
  jurisdictions := r.slot "jurisdictions" texts
  industries := r.slot "industries" texts
  conditions := r.slot "conditions" read
  enforcementMode := r.slot "enforcementMode" EnforcementMode.ofJson
  autoRemediate := r.slot "autoRemediate" bool
  onViolation := r.slot "actions" ActionIntent.listOfJson

namespace Slots

def faults (s : Slots κ) : List (String × Option Refusal) :=
  [s.name.fault, s.description.fault, s.category.fault, s.severity.fault, s.policyType.fault,
   s.scope.fault, s.jurisdictions.fault, s.industries.fault, s.conditions.fault,
   s.enforcementMode.fault, s.autoRemediate.fault, s.onViolation.fault]

/-- The content, once no member of `s` is at fault. -/
def content (r : Record) (s : Slots κ) : Reading (PolicyContent κ) := do
  .ok
    { name := ← r.required s.name
      description := ← s.description.getD ""
      category := ← s.category.getD ""
      severity := ← r.required s.severity
      policyType := ← s.policyType.getD ""
      scope := ← s.scope.getD ""
      jurisdictions := ← s.jurisdictions.getD []
      industries := ← s.industries.getD []
      conditions := ← r.required s.conditions
      enforcementMode := ← r.required s.enforcementMode
      autoRemediate := ← s.autoRemediate.getD false
      onViolation := ← s.onViolation.getD [] }

end Slots

end PolicyContent

end Governance
