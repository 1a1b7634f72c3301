import Governance.Policy.Basic
import Governance.Proofs.Condition.Equality

/-!
# Equality of policies

Policies are compared field by field, and numbers in them by value. What is compared with itself is
found to be the same as long as it holds no number that is infinite or none; documents hold no such
number, so neither does a policy that came out of one.

* `Json.equal_self`: a document value with finite numbers equals itself.
* `PolicyContent.beq_iff`: contents are equal when all their fields are.
* `Policy.Finite.withContent_beq`: other content makes a difference to a policy when it differs.
-/

namespace Governance

/-- A list `xs` of values that equal themselves equals itself. -/
theorem list_beq_self {α : Type} [BEq α] {xs : List α} (h : ∀ x ∈ xs, (x == x) = true) :
    (xs == xs) = true := by
  induction xs with
  | nil => rfl
  | cons x xs ih =>
    rw [List.forall_mem_cons] at h
    rw [List.cons_beq_cons, h.1, ih h.2]
    rfl

/-! ### Document values -/

namespace Json

mutual

/-- Whether the document value holds no number that is infinite or none. -/
def isFinite : Json → Bool
  | .float x => x.isFinite
  | .array items => areFinite items
  | .object members => membersAreFinite members
  | _ => true

def areFinite : List Json → Bool
  | [] => true
  | j :: js => isFinite j && areFinite js

def membersAreFinite : List (String × Json) → Bool
  | [] => true
  | (_, j) :: ms => isFinite j && membersAreFinite ms

end

mutual

/-- **A document value with finite numbers equals itself** by `equal`. -/
theorem equal_self : ∀ j : Json, j.isFinite = true → j.equal j = true
  | .null, _ => rfl
  | .bool b, _ => by rw [equal, beq_self_eq_true]
  | .int n, _ => by rw [equal, beq_self_eq_true]
  | .float x, h => by
    rw [isFinite] at h
    rw [equal, Number.Binary64.equal_self h]
  | .text s, _ => by rw [equal, beq_self_eq_true]
  | .array items, h => by
    rw [isFinite] at h
    rw [equal, equalItems_self items h]
  | .object members, h => by
    rw [isFinite] at h
    rw [equal, equalMembers_self members h]

theorem equalItems_self : ∀ js : List Json, areFinite js = true → equalItems js js = true
  | [], _ => rfl
  | j :: js, h => by
    rw [areFinite, Bool.and_eq_true] at h
    rw [equalItems, equal_self j h.1, equalItems_self js h.2]
    rfl

theorem equalMembers_self :
    ∀ ms : List (String × Json), membersAreFinite ms = true → equalMembers ms ms = true
  | [], _ => rfl
  | (k, j) :: ms, h => by
    rw [membersAreFinite, Bool.and_eq_true] at h
    rw [equalMembers, beq_self_eq_true, equal_self j h.1, equalMembers_self ms h.2]
    rfl

end

end Json

/-! ### Parts of a policy -/

/-- No parameter of the intent `a` holds a number that is infinite or none. -/
def ActionIntent.Finite (a : ActionIntent) : Prop := ∀ m ∈ a.params, m.2.isFinite = true

theorem ActionIntent.Finite.beq_self {a : ActionIntent} (h : a.Finite) : (a == a) = true := by
  obtain ⟨kind, params⟩ := a
  have hparams : (params == params) = true := list_beq_self fun m hm => by
    show (m.1 == m.1 && m.2.equal m.2) = true
    rw [beq_self_eq_true, Json.equal_self m.2 (h m hm)]
    rfl
  show (kind == kind && params == params) = true
  rw [beq_self_eq_true, hparams]
  rfl

theorem Revision.beq_self {r : Revision} (h : r.conditions.FiniteOperands) : (r == r) = true := by
  obtain ⟨version, conditions, severity, digest, revisedAt⟩ := r
  show (version == version && (conditions == conditions && (severity == severity
    && (digest == digest && revisedAt == revisedAt)))) = true
  simp only [beq_self_eq_true, h.beq_self, Bool.and_self]

/-- **Contents are equal when all their fields are**: conditions and intents by `==`, the others the
same. -/
theorem PolicyContent.beq_iff {c d : PolicyContent Condition} : (c == d) = true ↔
    c.name = d.name ∧ c.description = d.description ∧ c.category = d.category
      ∧ c.severity = d.severity ∧ c.policyType = d.policyType ∧ c.scope = d.scope
      ∧ c.jurisdictions = d.jurisdictions ∧ c.industries = d.industries
      ∧ (c.conditions == d.conditions) = true ∧ c.enforcementMode = d.enforcementMode
      ∧ c.autoRemediate = d.autoRemediate ∧ (c.onViolation == d.onViolation) = true := by
  have hbeq : (c == d)
      = (c.name == d.name && (c.description == d.description && (c.category == d.category
        && (c.severity == d.severity && (c.policyType == d.policyType && (c.scope == d.scope
        && (c.jurisdictions == d.jurisdictions && (c.industries == d.industries
        && (c.conditions == d.conditions && (c.enforcementMode == d.enforcementMode
        && (c.autoRemediate == d.autoRemediate && c.onViolation == d.onViolation))))))))))) := by
    cases c
    cases d
    rfl
  simp only [hbeq, Bool.and_eq_true, beq_iff_eq]

/-! ### Policies -/

namespace Policy

/-- No number in the policy `p` is infinite or none. -/
structure Finite (p : Policy) : Prop where
  conditions : p.content.conditions.FiniteOperands
  history : ∀ r ∈ p.history, r.conditions.FiniteOperands
  intents : ∀ a ∈ p.content.onViolation, a.Finite

variable {p : Policy}

theorem withContent_beq_eq (p : Policy) (content : PolicyContent Condition) :
    ({ p with content := content } == p) = (content == p.content && p.history == p.history) := by
  obtain ⟨id, tenant, version, content', status, createdAt, updatedAt, history, transitions⟩ := p
  show (id == id && (tenant == tenant && (version == version && (content == content'
    && (status == status && (createdAt == createdAt && (updatedAt == updatedAt
    && (history == history && transitions == transitions)))))))) = _
  simp only [beq_self_eq_true, Bool.true_and, Bool.and_true]

/-- If `content` makes no difference to `p`, it equals `p.content`. -/
theorem beq_of_withContent_beq {content : PolicyContent Condition}
    (h : ({ p with content := content } == p) = true) : (content == p.content) = true := by
  rw [withContent_beq_eq, Bool.and_eq_true] at h
  exact h.1

/-- **Other content makes a difference exactly when it differs** by `==` from `p.content`. -/
theorem Finite.withContent_beq (h : p.Finite) (content : PolicyContent Condition) :
    ({ p with content := content } == p) = (content == p.content) := by
  rw [withContent_beq_eq, list_beq_self fun r hr => Revision.beq_self (h.history r hr),
    Bool.and_true]

end Policy

end Governance
