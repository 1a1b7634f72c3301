import Governance.Registry
import Governance.Violation.Lifecycle

/-!
# Calls that change a value in place

`Policy.update`, `Policy.transition` and `Violation.transition` answer with the changed value, and
the operations of a `Registry` with the changed registry. The calls here work on the value itself,
write after write: each is a program that reads and replaces the value it is called on, and leaves a
value behind whether it answers or throws. `inPlace` is the call that an answer describes: it
replaces the value when the answer has one, and otherwise touches nothing.
-/

namespace Governance

/-- The answer of a call on `s`, and the value that the call leaves behind. -/
def called {ε σ α : Type} (call : EStateM ε σ α) (s : σ) : Except ε α × σ :=
  match call.run s with
  | .ok a t => (.ok a, t)
  | .error e t => (.error e, t)

/-- The call whose only write is the value that `answer` gives; it tells whether there was one. -/
def inPlace {ε σ : Type} (answer : σ → Except ε (Option σ)) : EStateM ε σ Bool := do
  match answer (← get) with
  | .error e => throw e
  | .ok none => return false
  | .ok (some s) =>
    set s
    return true

/-! ### Policies -/

namespace Policy

variable [Pattern.Library]

/-- Updates the policy by `u`. The changed policy is put together on the side and assigned last. -/
def updateInPlace (now : Timestamp) (limits : ValidationLimits) (expected : Version)
    (u : PolicyUpdate) : EStateM PolicyError Policy Bool := do
  let p ← get
  if p.status.isTerminal then throw (.terminalState p.status)
  if expected ≠ p.version then throw (.staleVersion expected p.version)
  if u.name.any Text.isAllBlank then throw .emptyName
  let conditions ← MonadExcept.ofExcept (checkedConditions limits u)
  let next := { p with content := u.apply conditions p.content }
  if next == p then return false
  let revision := p.revision now
  set
    { next with
      version := p.version + 1
      updatedAt := revision.revisedAt
      history := next.history ++ [revision] }
  return true

/-- Moves the policy to the status `target`, one field after the other. -/
def transitionInPlace (now : Timestamp) (target : PolicyStatus) :
    EStateM PolicyError Policy Bool := do
  let p ← get
  if p.status = target then return false
  if p.status.isTerminal then throw (.terminalState p.status)
  if !p.status.mayBecome target then throw (.invalidTransition p.status target)
  modify fun p => { p with transitions := p.transitions ++ [⟨p.status, target, now⟩] }
  modify fun p => { p with status := target }
  modify fun p => { p with updatedAt := now }
  return true

end Policy

/-! ### Violations -/

/-- Moves the violation to the status `target`, one field after the other. A `resolution` is checked
before the first of them is written. -/
def Violation.transitionInPlace (now : Timestamp) (target : ViolationStatus)
    (actor : Option String) (resolution : Option Resolution) :
    EStateM ViolationError Violation Bool := do
  let v ← get
  if v.status = target then return false
  if v.status.isTerminal then throw (.terminalState v.status)
  if !v.status.mayBecome target then throw (.invalidTransition v.status target)
  if target = .resolved then
    match resolution with
    | none => throw (.missingResolution .resolvedBy)
    | some r =>
      if Text.isAllBlank r.resolvedBy then throw (.missingResolution .resolvedBy)
      if Text.isAllBlank r.resolution then throw (.missingResolution .resolution)
      modify fun v => { v with resolvedBy := some r.resolvedBy }
      modify fun v => { v with resolution := some r.resolution }
      modify fun v => { v with resolvedAt := some now }
  modify fun v => { v with transitions := v.transitions ++ [⟨v.status, target, now, actor⟩] }
  modify fun v => { v with status := target }
  return true

/-! ### Registries -/

namespace Registry

/-- Writes the policy `p` over the one that is stored under `id`. -/
def overwrite (r : Registry) (id : PolicyId) (p : Policy) : Registry :=
  { r with policies := r.policies.map fun entry => if entry.1 = id then (id, p) else entry }

/-- Makes the `call` on the policy stored under `id`, and gives the policy as it is afterwards. What
the call leaves behind is stored, also when it throws. -/
def callInPlace (id : PolicyId) (call : EStateM PolicyError Policy Bool) :
    EStateM RegistryError Registry Policy := do
  let r ← get
  match r.get? id with
  | none => throw (.notFound id)
  | some p =>
    match call.run p with
    | .error e q =>
      set (r.overwrite id q)
      throw (.policy e)
    | .ok _ q =>
      set (r.overwrite id q)
      return q

variable [Pattern.Library]

def createInPlace (id : PolicyId) (now : Timestamp) (new : NewPolicy) :
    EStateM RegistryError Registry Policy := do
  let r ← get
  match Policy.create id now r.limits new with
  | .error e => throw (.policy e)
  | .ok p =>
    set (r.put p)
    return p

def insertInPlace (p : Policy) : EStateM RegistryError Registry Unit := do
  let r ← get
  if (r.get? p.id).isSome then throw (.duplicate p.id)
  set (r.put p)

def updateInPlace (now : Timestamp) (id : PolicyId) (expected : Version) (u : PolicyUpdate) :
    EStateM RegistryError Registry Policy := do
  callInPlace id (Policy.updateInPlace now (← get).limits expected u)

def transitionInPlace (now : Timestamp) (id : PolicyId) (target : PolicyStatus) :
    EStateM RegistryError Registry Policy :=
  callInPlace id (Policy.transitionInPlace now target)

def deleteInPlace (now : Timestamp) (id : PolicyId) :
    DeleteMode → EStateM RegistryError Registry Deleted
  | .soft => Deleted.archived <$> transitionInPlace now id .archived
  | .hard => do
    let r ← get
    match r.get? id with
    | none => throw (.notFound id)
    | some p =>
      set { r with policies := Keyed.erase r.policies id }
      return .removed p

end Registry

end Governance
