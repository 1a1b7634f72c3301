import Governance.Keyed
import Governance.Policy.Lifecycle

/-!
# The registry of policies

The policies that are known, each under its identifier, in ascending order of identifiers. Every
change goes through the policy's own lifecycle. An operation that fails gives no registry back, so
nothing has changed.
-/

namespace Governance

/-- Policies under their identifiers, and the limits that their conditions keep. -/
structure Registry where
  limits : ValidationLimits
  policies : List (PolicyId × Policy)

/-- Why the registry refuses an operation. -/
inductive RegistryError
  | notFound (id : PolicyId)
  | duplicate (id : PolicyId)
  | policy (cause : PolicyError)

def RegistryError.message : RegistryError → String
  | notFound id => "policy " ++ id.text ++ " not found"
  | duplicate id => "policy " ++ id.text ++ " already registered"
  | policy cause => cause.message

/-- How a policy is taken out. -/
inductive DeleteMode
  /-- The policy is archived and stays. -/
  | soft
  /-- The policy is removed. -/
  | hard
deriving DecidableEq

/-- What deleting a policy did. -/
inductive Deleted
  | archived (policy : Policy)
  | removed (policy : Policy)

namespace Registry

def empty (limits : ValidationLimits) : Registry := ⟨limits, []⟩

def size (r : Registry) : Nat := r.policies.length

def isEmpty (r : Registry) : Bool := r.policies.isEmpty

/-- The policy of `id`, if there is one. -/
def get? (r : Registry) (id : PolicyId) : Option Policy := Keyed.find? r.policies id

/-- The registry `r` with the policy `p` under its identifier. -/
def put (r : Registry) (p : Policy) : Registry :=
  { r with policies := Keyed.insert p.id p r.policies }

/-! ### Operations -/

variable [Pattern.Library]

/-- Creates the policy `new` and registers it under `id`. -/
def create (r : Registry) (id : PolicyId) (now : Timestamp) (new : NewPolicy) :
    Except RegistryError (Policy × Registry) :=
  match Policy.create id now r.limits new with
  | .ok p => .ok (p, r.put p)
  | .error e => .error (.policy e)

/-- Registers the policy `p`, which exists already. -/
def insert (r : Registry) (p : Policy) : Except RegistryError Registry :=
  match r.get? p.id with
  | some _ => .error (.duplicate p.id)
  | none => .ok (r.put p)

/-- Makes the `change` of the policy of `id`; gives the policy as it is afterwards. -/
def modify (r : Registry) (id : PolicyId) (change : Policy → Except PolicyError (Option Policy)) :
    Except RegistryError (Policy × Registry) :=
  match r.get? id with
  | none => .error (.notFound id)
  | some p =>
    match change p with
    | .error e => .error (.policy e)
    | .ok none => .ok (p, r)
    | .ok (some q) => .ok (q, { r with policies := Keyed.insert id q r.policies })

/-- Applies the update `u`, which was made for the version `expected`, to the policy of `id`. -/
def update (r : Registry) (now : Timestamp) (id : PolicyId) (expected : Version)
    (u : PolicyUpdate) : Except RegistryError (Policy × Registry) :=
  r.modify id (Policy.update now r.limits expected u)

/-- Moves the policy of `id` to the status `target`. -/
def transition (r : Registry) (now : Timestamp) (id : PolicyId) (target : PolicyStatus) :
    Except RegistryError (Policy × Registry) :=
  r.modify id (Policy.transition now target)

/-- Takes the policy of `id` out. -/
def delete (r : Registry) (now : Timestamp) (id : PolicyId) :
    DeleteMode → Except RegistryError (Deleted × Registry)
  | .soft => (r.transition now id .archived).map fun done => (.archived done.1, done.2)
  | .hard =>
    match r.get? id with
    | none => .error (.notFound id)
    | some p => .ok (.removed p, { r with policies := Keyed.erase r.policies id })

/-! ### Queries -/

/-- Every policy of `tenant`. -/
def policiesOf (r : Registry) (tenant : TenantId) : List Policy :=
  (r.policies.map Prod.snd).filter fun p => p.tenant = tenant

/-- The active policies of `tenant`. -/
def activePolicies (r : Registry) (tenant : TenantId) : List Policy :=
  (r.policiesOf tenant).filter Policy.isActive

omit [Pattern.Library] in
theorem get?_put_self (r : Registry) (p : Policy) : (r.put p).get? p.id = some p :=
  Keyed.find?_insert_self p.id p r.policies

omit [Pattern.Library] in
theorem get?_put_of_ne {r : Registry} {p : Policy} {id : PolicyId} (h : id ≠ p.id) :
    (r.put p).get? id = r.get? id :=
  Keyed.find?_insert_of_ne h p r.policies

end Registry

end Governance
