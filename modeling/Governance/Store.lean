import Governance.Bulk
import Governance.Keyed

/-!
# Stores and dispatch

Where assessments and violations are kept, and where notifications go. The stores here hold their
entries under their identifiers; the outbox keeps what it was asked to send.
-/

namespace Governance

/-- The kind of a stored entity. -/
inductive EntityKind
  | policy
  | assessment
  | violation
deriving DecidableEq

def EntityKind.label : EntityKind → String
  | policy => "policy"
  | assessment => "assessment"
  | violation => "violation"

/-- Why a store refuses an operation. -/
inductive StoreError
  | notFound (kind : EntityKind) (id : String)
  | conflict (kind : EntityKind) (id : String)
  | unavailable (reason : String)
deriving DecidableEq

def StoreError.message : StoreError → String
  | notFound kind id => kind.label ++ " " ++ id ++ " not found"
  | conflict kind id => kind.label ++ " " ++ id ++ " already exists"
  | unavailable reason => "store unavailable: " ++ reason

/-- Why notifications are not sent. -/
inductive DispatchError
  | rejected (kind reason : String)
  | unavailable (reason : String)
deriving DecidableEq

def DispatchError.message : DispatchError → String
  | rejected kind reason => "notification type " ++ Text.quote kind ++ " rejected: " ++ reason
  | unavailable reason => "dispatcher unavailable: " ++ reason

/-! ### Assessments -/

/-- Assessments under their identifiers. -/
structure AssessmentStore where
  assessments : List (AssessmentId × Assessment)

namespace AssessmentStore

def empty : AssessmentStore := ⟨[]⟩

/-- The assessment of `id`, if there is one. -/
def get? (s : AssessmentStore) (id : AssessmentId) : Option Assessment :=
  Keyed.find? s.assessments id

def get (s : AssessmentStore) (id : AssessmentId) : Except StoreError Assessment :=
  match s.get? id with
  | some a => .ok a
  | none => .error (.notFound .assessment id.text)

/-- Keeps the assessment `a` in the place of any of its identifier. -/
def insert (s : AssessmentStore) (a : Assessment) : AssessmentStore :=
  ⟨Keyed.insert a.id a s.assessments⟩

end AssessmentStore

/-! ### Violations -/

/-- Violations under their identifiers. -/
structure ViolationStore where
  violations : List (ViolationId × Violation)

namespace ViolationStore

def empty : ViolationStore := ⟨[]⟩

def size (s : ViolationStore) : Nat := s.violations.length

def isEmpty (s : ViolationStore) : Bool := s.violations.isEmpty

/-- The violation of `id`, if there is one. -/
def get? (s : ViolationStore) (id : ViolationId) : Option Violation := Keyed.find? s.violations id

def toList (s : ViolationStore) : List Violation := s.violations.map Prod.snd

/-- The violations found in the assessment of `id`. -/
def ofAssessment (s : ViolationStore) (id : AssessmentId) : List Violation :=
  s.toList.filter fun v => v.assessmentId = id

/-- Keeps the violation `v`, whose identifier has to be new. -/
def create (s : ViolationStore) (v : Violation) : Except StoreError ViolationStore :=
  match s.get? v.id with
  | some _ => .error (.conflict .violation v.id.text)
  | none => .ok ⟨Keyed.insert v.id v s.violations⟩

/-- Makes the `change` of the violation of `id`, if there is one, and passes on what it gives. -/
def modify? {ρ : Type} (s : ViolationStore) (id : ViolationId)
    (change : Violation → ρ × Violation) : Option (ρ × ViolationStore) :=
  (s.get? id).map fun v =>
    let (result, after) := change v
    (result, ⟨Keyed.insert id after s.violations⟩)

end ViolationStore

/-! ### Notifications -/

/-- What was sent, unless nothing can be. -/
structure Outbox where
  isDown : Bool
  sent : List Notification

namespace Outbox

def empty : Outbox := ⟨false, []⟩

/-- The outbox that sends nothing. -/
def down : Outbox := ⟨true, []⟩

def send (o : Outbox) (notifications : List Notification) : Except DispatchError Outbox :=
  if o.isDown then .error (.unavailable "recording dispatcher disabled")
  else .ok { o with sent := o.sent ++ notifications }

end Outbox

end Governance
