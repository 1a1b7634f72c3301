import Governance.Registry
import Governance.Store

/-!
# Governing an assessment

Judging an assessment under the active policies of its tenant, keeping every violation and sending
every notification. The stores are handed in: whatever they do, every violation is offered once and
in order, writes that are refused are reported together, and a failure to send changes nothing in
the answer.
-/

namespace Governance

/-- The collaborators of a service, over states that their operations may change. -/
structure Collaborators (σ τ : Type) where
  activePolicies : TenantId → Except StoreError (List Policy)
  assessment : AssessmentId → Except StoreError Assessment
  /-- Keeps a violation. -/
  keep : σ → Violation → Except StoreError Unit × σ
  /-- Sends notifications. -/
  send : τ → List Notification → Except DispatchError Unit × τ

/-- A violation that was not kept. -/
structure PersistFailure where
  violation : ViolationId
  error : StoreError
deriving DecidableEq

/-- Why an assessment has no result. -/
inductive ServiceError
  | store (cause : StoreError)
  /-- The assessment belongs to another tenant. -/
  | tenantMismatch (assessment : AssessmentId) (expected actual : TenantId)
  /-- Some violations were not kept. -/
  | persist (failures : List PersistFailure) (result : BulkResult)

def ServiceError.message : ServiceError → String
  | store cause => cause.message
  | tenantMismatch assessment expected actual =>
    "assessment " ++ assessment.text ++ " belongs to " ++ actual.text ++ ", not " ++ expected.text
  | persist failures result =>
    "failed to persist " ++ Number.intText failures.length ++ " of "
      ++ Number.intText result.violations.length ++ " violations"

namespace Collaborators

variable {σ τ : Type}

/-- Offers every violation in order to `c.keep`; gives those that were refused and the state
afterwards. -/
def keepAll (c : Collaborators σ τ) : σ → List Violation → List PersistFailure × σ
  | s, [] => ([], s)
  | s, v :: vs =>
    match c.keep s v with
    | (.ok _, s') => c.keepAll s' vs
    | (.error e, s') =>
      let (failures, last) := c.keepAll s' vs
      (⟨v.id, e⟩ :: failures, last)

/-- Sends `notifications`, if there are any; gives the state afterwards. -/
def sendAny (c : Collaborators σ τ) (t : τ) (notifications : List Notification) : τ :=
  if notifications.isEmpty then t else (c.send t notifications).2

/-- The policies and the assessment for a request of `tenant` about `id`. -/
def load (c : Collaborators σ τ) (tenant : TenantId) (id : AssessmentId) :
    Except ServiceError (Assessment × List Policy) :=
  match c.assessment id with
  | .error e => .error (.store e)
  | .ok a =>
    if a.tenant = tenant then
      match c.activePolicies tenant with
      | .error e => .error (.store e)
      | .ok policies => .ok (a, policies)
    else .error (.tenantMismatch a.id tenant a.tenant)

variable [Pattern.Library]

/-- Judges an assessment for `tenant`, keeps the violations and sends the notifications. -/
def govern (c : Collaborators σ τ) (e : Engine) (ids : IdSource) (now : Timestamp)
    (tenant : TenantId) (id : AssessmentId) (s : σ) (t : τ) :
    Except ServiceError BulkResult × σ × τ :=
  match c.load tenant id with
  | .error error => (.error error, s, t)
  | .ok (a, policies) =>
    let result := e.judgeAll ids now a policies
    let (failures, s') := c.keepAll s result.violations
    let t' := c.sendAny t result.notifications
    if failures.isEmpty then (.ok result, s', t') else (.error (.persist failures result), s', t')

end Collaborators

end Governance
