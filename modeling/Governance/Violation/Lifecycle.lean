import Governance.Violation.Basic
import Governance.Violation.TypeName

/-!
# The life of a violation

A violation is opened when it is found, and its status moves forward only. Resolving it takes a
resolution that says who and how. A resolved violation does not change.
-/

namespace Governance

/-- Which half of a `Resolution` is missing. -/
inductive ResolutionPart
  | resolvedBy
  | resolution
deriving DecidableEq

def ResolutionPart.label : ResolutionPart → String
  | resolvedBy => "resolvedBy"
  | resolution => "resolution"

/-- Why `transition` refuses to change a violation's status. -/
inductive ViolationError
  | invalidTransition (source target : ViolationStatus)
  | terminalState (state : ViolationStatus)
  | missingResolution (part : ResolutionPart)
deriving DecidableEq

def ViolationError.message : ViolationError → String
  | invalidTransition source target =>
    "invalid violation transition: " ++ source.label ++ " -> " ++ target.label
  | terminalState state => "violation is in terminal state " ++ state.label
  | missingResolution part => "resolving a violation requires a non-empty " ++ part.label

/-- The resolution `r`, if both halves say something. -/
def Resolution.settled (r : Option Resolution) : Except ViolationError Resolution :=
  match r with
  | none => .error (.missingResolution .resolvedBy)
  | some r =>
    if Text.isAllBlank r.resolvedBy then .error (.missingResolution .resolvedBy)
    else if Text.isAllBlank r.resolution then .error (.missingResolution .resolution)
    else .ok r

namespace Violation

/-- What is known of a violation when it is found. -/
structure Detection where
  policyId : PolicyId
  policyVersion : Version
  tenant : TenantId
  assessmentId : AssessmentId
  severity : Severity
  data : ViolationData

/-- The violation that the detection `d` opens at the time `now`, unresolved. -/
def opened (id : ViolationId) (now : Timestamp) (d : Detection) : Violation where
  id := id
  policyId := d.policyId
  policyVersion := d.policyVersion
  targetType := .assessment
  assessmentId := d.assessmentId
  tenant := d.tenant
  severity := d.severity
  violationType := typeName d.data.field
  data := d.data
  status := .unresolved
  detectedAt := now
  resolvedAt := none
  resolution := none
  resolvedBy := none
  transitions := []

/-! ### Changes of status -/

/-- The violation `v` with the status `target`, and the change noted in its `transitions`. -/
def moved (now : Timestamp) (target : ViolationStatus) (actor : Option String) (v : Violation) :
    Violation :=
  { v with
    status := target
    transitions := v.transitions ++ [⟨v.status, target, now, actor⟩] }

/-- The violation `v` with the resolution `r`. -/
def settledBy (now : Timestamp) (r : Resolution) (v : Violation) : Violation :=
  { v with
    resolvedAt := some now
    resolution := some r.resolution
    resolvedBy := some r.resolvedBy }

/-- Moves `v` to the status `target`: the changed violation, or `none` when it is there already. -/
def transition (now : Timestamp) (target : ViolationStatus) (actor : Option String)
    (resolution : Option Resolution) (v : Violation) : Except ViolationError (Option Violation) :=
  if v.status = target then .ok none
  else if v.status.isTerminal then .error (.terminalState v.status)
  else if !v.status.mayBecome target then .error (.invalidTransition v.status target)
  else if target = .resolved then
    match Resolution.settled resolution with
    | .error e => .error e
    | .ok r => .ok (some ((v.settledBy now r).moved now target actor))
  else .ok (some (v.moved now target actor))

def acknowledge (now : Timestamp) (actor : Option String) (v : Violation) :
    Except ViolationError (Option Violation) :=
  v.transition now .acknowledged actor none

def startRemediation (now : Timestamp) (actor : Option String) (v : Violation) :
    Except ViolationError (Option Violation) :=
  v.transition now .inRemediation actor none

/-- Resolves `v` in the name of whoever resolved it (`r.resolvedBy`). -/
def resolve (now : Timestamp) (r : Resolution) (v : Violation) :
    Except ViolationError (Option Violation) :=
  v.transition now .resolved (some r.resolvedBy) (some r)

/-! ### What stays -/

theorem transition_self (now : Timestamp) (actor : Option String) (r : Option Resolution)
    (v : Violation) : v.transition now v.status actor r = .ok none := by
  simp [transition]

theorem transition_of_isResolved {now : Timestamp} {target : ViolationStatus}
    {actor : Option String} {r : Option Resolution} {v : Violation} (h : v.isResolved = true)
    (ht : v.status ≠ target) :
    v.transition now target actor r = .error (.terminalState v.status) := by
  have h' : v.status.isTerminal = true := h
  simp [transition, ht, h']

end Violation

end Governance
