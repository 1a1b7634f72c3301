import Governance.Digest.Content
import Governance.Policy.Basic

/-!
# The life of a policy

A policy is created as a draft or active, at version one. An update names the version it was made
for and is refused when that is not the current one; when it changes the content, the version goes
up by one and what was replaced enters the history. A change of status follows the order of
statuses, enters the transitions and leaves the version as it is. An archived policy takes neither.
-/

namespace Governance

/-- Why a policy is not created or changed. -/
inductive PolicyError
  | invalidTransition (source target : PolicyStatus)
  | terminalState (state : PolicyStatus)
  | staleVersion (expected actual : Version)
  | invalidInitialStatus (status : PolicyStatus)
  | emptyName
  | invalidConditions (rejection : Rejection)

def PolicyError.message : PolicyError → String
  | invalidTransition source target =>
    "invalid policy transition: " ++ source.label ++ " -> " ++ target.label
  | terminalState state => "policy is in terminal state " ++ state.label
  | staleVersion expected actual =>
    "stale policy version: expected " ++ Number.intText expected.toNat ++ ", current is "
      ++ Number.intText actual.toNat
  | invalidInitialStatus status =>
    "policies must be created as DRAFT or ACTIVE, not " ++ status.label
  | emptyName => "policy name must not be empty"
  | invalidConditions rejection => rejection.message

/-- The text that identifies the condition `c`. -/
def Condition.digest (c : Condition) : String := (Digest.ContentDigest.of c.toJson).label

variable [Pattern.Library]

/-- The checked conditions of the policy `new`, if it may be created. -/
def NewPolicy.accept (limits : ValidationLimits) (new : NewPolicy) : Except PolicyError Condition :=
  if new.status ≠ .draft ∧ new.status ≠ .active then .error (.invalidInitialStatus new.status)
  else if Text.isAllBlank new.content.name then .error .emptyName
  else
    match new.content.conditions.check limits with
    | .error rejection => .error (.invalidConditions rejection)
    | .ok conditions => .ok conditions

namespace Policy

/-- The first version of the policy `new`. -/
def initial (id : PolicyId) (now : Timestamp) (new : NewPolicy) (conditions : Condition) :
    Policy where
  id := id
  tenant := new.tenant
  version := firstVersion
  content := new.content.withConditions conditions
  status := new.status
  createdAt := now
  updatedAt := now
  history := []
  transitions := []

/-- Creates the policy `new` under `id`, if its conditions keep within `limits`. -/
def create (id : PolicyId) (now : Timestamp) (limits : ValidationLimits) (new : NewPolicy) :
    Except PolicyError Policy :=
  (new.accept limits).map (initial id now new)

/-! ### Updates -/

/-- What the history keeps of the current version of `p`. -/
def revision (p : Policy) (now : Timestamp) : Revision where
  version := p.version
  conditions := p.content.conditions
  severity := p.content.severity
  conditionsDigest := p.content.conditions.digest
  revisedAt := now

/-- The policy `p` with new `content`, at the next version. -/
def revise (p : Policy) (now : Timestamp) (content : PolicyContent Condition) : Policy :=
  { p with
    content := content
    version := p.version + 1
    updatedAt := now
    history := p.history ++ [p.revision now] }

/-- The conditions that the update `u` sets, checked. -/
def checkedConditions (limits : ValidationLimits) (u : PolicyUpdate) :
    Except PolicyError (Option Condition) :=
  match u.conditions with
  | none => .ok none
  | some w =>
    match w.check limits with
    | .ok c => .ok (some c)
    | .error rejection => .error (.invalidConditions rejection)

/-- Applies the update `u`, made for the version `expected`: the changed policy, or `none` when
nothing changes. -/
def update (now : Timestamp) (limits : ValidationLimits) (expected : Version) (u : PolicyUpdate)
    (p : Policy) : Except PolicyError (Option Policy) :=
  if p.status.isTerminal then .error (.terminalState p.status)
  else if expected ≠ p.version then .error (.staleVersion expected p.version)
  else if u.name.any Text.isAllBlank then .error .emptyName
  else
    match checkedConditions limits u with
    | .error e => .error e
    | .ok conditions =>
      if { p with content := u.apply conditions p.content } == p then .ok none
      else .ok (some (p.revise now (u.apply conditions p.content)))

/-! ### Changes of status -/

/-- Moves to the status `target`: the changed policy, or `none` when it is there already. -/
def transition (now : Timestamp) (target : PolicyStatus) (p : Policy) :
    Except PolicyError (Option Policy) :=
  if p.status = target then .ok none
  else if p.status.isTerminal then .error (.terminalState p.status)
  else if p.status.mayBecome target then
    .ok (some
      { p with
        status := target
        updatedAt := now
        transitions := p.transitions ++ [⟨p.status, target, now⟩] })
  else .error (.invalidTransition p.status target)

def activate (now : Timestamp) (p : Policy) : Except PolicyError (Option Policy) :=
  p.transition now .active

def markDeprecated (now : Timestamp) (p : Policy) : Except PolicyError (Option Policy) :=
  p.transition now .deprecated

/-- Takes the policy `p` out of use and keeps it. -/
def archive (now : Timestamp) (p : Policy) : Except PolicyError (Option Policy) :=
  p.transition now .archived

/-! ### What stays -/

theorem update_of_isTerminal {now : Timestamp} {limits : ValidationLimits} {expected : Version}
    {u : PolicyUpdate} {p : Policy} (h : p.status.isTerminal = true) :
    p.update now limits expected u = .error (.terminalState p.status) := by
  simp [update, h]

omit [Pattern.Library] in
theorem transition_self (now : Timestamp) (p : Policy) : p.transition now p.status = .ok none := by
  simp [transition]

end Policy

end Governance
