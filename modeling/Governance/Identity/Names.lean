import Governance.Identity.Uuid
import Governance.Text.Blank

/-!
# Names of policies, violations, assessments and tenants

Policies and violations are named by identifiers of 128 bits. Assessments and tenants are named by
texts from outside, of which only one thing is known: they are not blank.
-/

namespace Governance

/-- The name of a policy, a `Uuid`. -/
structure PolicyId where
  uuid : Uuid
deriving DecidableEq

/-- The name of a violation, a `Uuid`. -/
structure ViolationId where
  uuid : Uuid
deriving DecidableEq

namespace PolicyId

/-- The name of a policy as messages show it. -/
def text (id : PolicyId) : String := "policy:" ++ id.uuid.text

def toJson (id : PolicyId) : Json := id.uuid.toJson

def ofJson (j : Json) : Decode.Reading PolicyId := (Uuid.ofJson j).map PolicyId.mk

instance : LT PolicyId := ⟨fun a b => a.uuid < b.uuid⟩

instance : DecidableLT PolicyId := fun a b => inferInstanceAs (Decidable (a.uuid < b.uuid))

theorem lt_trans {a b c : PolicyId} (hab : a < b) (hbc : b < c) : a < c := Nat.lt_trans hab hbc

theorem not_lt_of_lt {a b : PolicyId} (h : a < b) : ¬ b < a := Nat.lt_asymm h

theorem not_lt_trans {a b c : PolicyId} (hba : ¬ b < a) (hcb : ¬ c < b) : ¬ c < a := fun hca =>
  have hab : a.uuid.value.val ≤ b.uuid.value.val := Nat.le_of_not_lt hba
  hcb (Nat.lt_of_lt_of_le hca hab)

theorem eq_of_not_lt {a b : PolicyId} (hab : ¬ a < b) (hba : ¬ b < a) : a = b := by
  obtain ⟨⟨x⟩⟩ := a
  obtain ⟨⟨y⟩⟩ := b
  have hxy : x = y := Fin.le_antisymm (Nat.le_of_not_lt hba) (Nat.le_of_not_lt hab)
  rw [hxy]

end PolicyId

namespace ViolationId

/-- The name of a violation as messages show it. -/
def text (id : ViolationId) : String := "violation:" ++ id.uuid.text

def toJson (id : ViolationId) : Json := id.uuid.toJson

def ofJson (j : Json) : Decode.Reading ViolationId := (Uuid.ofJson j).map ViolationId.mk

instance : LT ViolationId := ⟨fun a b => a.uuid < b.uuid⟩

instance : DecidableLT ViolationId := fun a b => inferInstanceAs (Decidable (a.uuid < b.uuid))

end ViolationId

/-- A `text` that holds more than blanks. -/
structure NonBlank where
  text : String
  not_blank : Text.isAllBlank text = false
deriving DecidableEq

/-- The text `s`, if it holds more than blanks. -/
def NonBlank.of? (s : String) : Option NonBlank :=
  if h : Text.isAllBlank s = false then some ⟨s, h⟩ else none

/-- The name of an assessment, which is not blank. -/
structure AssessmentId where
  name : NonBlank
deriving DecidableEq

/-- The name of a tenant, which is not blank. -/
structure TenantId where
  name : NonBlank
deriving DecidableEq

/-- Whose name is blank. -/
inductive BlankName
  | assessment
  | tenant
deriving DecidableEq

def BlankName.message : BlankName → String
  | assessment => "invalid identifier: assessment id must not be empty"
  | tenant => "invalid identifier: geography account id must not be empty"

namespace AssessmentId

def read (s : String) : Except BlankName AssessmentId :=
  match NonBlank.of? s with
  | some name => .ok ⟨name⟩
  | none => .error .assessment

def text (id : AssessmentId) : String := id.name.text

instance : LT AssessmentId := ⟨fun a b => a.text < b.text⟩

instance : DecidableLT AssessmentId := fun a b => inferInstanceAs (Decidable (a.text < b.text))

def toJson (id : AssessmentId) : Json := .text id.text

def ofJson (j : Json) : Decode.Reading AssessmentId := do
  let s ← Decode.text j
  match read s with
  | .ok id => .ok id
  | .error e => .error (.rejected e.message)

end AssessmentId

namespace TenantId

def read (s : String) : Except BlankName TenantId :=
  match NonBlank.of? s with
  | some name => .ok ⟨name⟩
  | none => .error .tenant

def text (id : TenantId) : String := id.name.text

def toJson (id : TenantId) : Json := .text id.text

def ofJson (j : Json) : Decode.Reading TenantId := do
  let s ← Decode.text j
  match read s with
  | .ok id => .ok id
  | .error e => .error (.rejected e.message)

end TenantId

theorem NonBlank.of?_text (n : NonBlank) : NonBlank.of? n.text = some n := by
  simp [of?, n.not_blank]

theorem AssessmentId.read_text (id : AssessmentId) : read id.text = .ok id := by
  simp [read, text, NonBlank.of?_text]

theorem TenantId.read_text (id : TenantId) : read id.text = .ok id := by
  simp [read, text, NonBlank.of?_text]

end Governance
