import Governance.Proofs.Policy.Audit
import Governance.Proofs.Policy.Equality
import Governance.Pattern.Program

/-!
# What an update does

An update mentions some of the twelve fields of a policy's content. If it is admitted, either the
content has all the values already that the update asks for, and nothing happens, or a revision
follows: the fields that are mentioned take what is asked for, the others stay, and the history
gains one entry.

* `PolicyUpdate.sets_apply`: applying an update sets what it mentions, and nothing else.
* `PolicyUpdate.apply_beq_iff`: it makes no difference when the update is met already.
* `Finite.update_eq_none_iff`, `revised_of_update_eq_some`: what an admitted update comes to.
* `update_atomic`: all of it, of every policy and every update.
-/

namespace Governance

/-! ### What an update asks for -/

/-- A field after an update: as it was if the update does not mention it, and otherwise what stands
in the relation `r` to the value that was asked for. -/
def Takes {α β : Type} (r : α → β → Prop) (old new : β) : Option α → Prop
  | none => new = old
  | some asked => r asked new

/-- By `Takes`, what was asked for is there afterwards. -/
theorem Takes.of_mem {α β : Type} {r : α → β → Prop} {old new : β} {asked : Option α}
    (h : Takes r old new asked) {x : α} (hx : x ∈ asked) : r x new := by
  rw [Option.mem_def.1 hx] at h
  exact h

/-- If `P` holds of the old value, and of all that can be taken for what was asked, it holds
afterwards. -/
theorem Takes.induction {α β : Type} {r : α → β → Prop} {old new : β} {asked : Option α}
    {P : β → Prop} (h : Takes r old new asked) (hold : P old)
    (hasked : ∀ x ∈ asked, ∀ y, r x y → P y) : P new := by
  cases asked with
  | none =>
    obtain rfl : new = old := h
    exact hold
  | some x => exact hasked x rfl new h

theorem takes_getD {α : Type} (asked : Option α) (old : α) :
    Takes Eq old (asked.getD old) asked := by
  cases asked <;> rfl

theorem getD_eq_iff {α : Type} {asked : Option α} {old : α} :
    asked.getD old = old ↔ ∀ x ∈ asked, x = old := by
  cases asked <;> simp

theorem getD_beq_iff {α : Type} [BEq α] {asked : Option α} {old : α}
    (hold : (old == old) = true) :
    (asked.getD old == old) = true ↔ ∀ x ∈ asked, (x == old) = true := by
  cases asked <;> simp [hold]

namespace PolicyUpdate

section Library

variable [Pattern.Library]

/-- The fields that the update `u` mentions are new, its conditions as they are checked; all others
are the `old` ones. -/
structure Sets (u : PolicyUpdate) (limits : ValidationLimits) (old new : PolicyContent Condition) :
    Prop where
  name : Takes Eq old.name new.name u.name
  description : Takes Eq old.description new.description u.description
  category : Takes Eq old.category new.category u.category
  severity : Takes Eq old.severity new.severity u.severity
  policyType : Takes Eq old.policyType new.policyType u.policyType
  scope : Takes Eq old.scope new.scope u.scope
  jurisdictions : Takes Eq old.jurisdictions new.jurisdictions u.jurisdictions
  industries : Takes Eq old.industries new.industries u.industries
  conditions : Takes (fun w c => w.check limits = .ok c) old.conditions new.conditions u.conditions
  enforcementMode : Takes Eq old.enforcementMode new.enforcementMode u.enforcementMode
  autoRemediate : Takes Eq old.autoRemediate new.autoRemediate u.autoRemediate
  onViolation : Takes Eq old.onViolation new.onViolation u.onViolation

/-- The content `c` has every value that the update `u` asks for, its conditions compared when they
are checked. -/
structure MetBy (u : PolicyUpdate) (limits : ValidationLimits) (c : PolicyContent Condition) :
    Prop where
  name : ∀ x ∈ u.name, x = c.name
  description : ∀ x ∈ u.description, x = c.description
  category : ∀ x ∈ u.category, x = c.category
  severity : ∀ x ∈ u.severity, x = c.severity
  policyType : ∀ x ∈ u.policyType, x = c.policyType
  scope : ∀ x ∈ u.scope, x = c.scope
  jurisdictions : ∀ x ∈ u.jurisdictions, x = c.jurisdictions
  industries : ∀ x ∈ u.industries, x = c.industries
  conditions : ∀ w ∈ u.conditions, ∃ k, w.check limits = .ok k ∧ (k == c.conditions) = true
  enforcementMode : ∀ x ∈ u.enforcementMode, x = c.enforcementMode
  autoRemediate : ∀ x ∈ u.autoRemediate, x = c.autoRemediate
  onViolation : ∀ x ∈ u.onViolation, (x == c.onViolation) = true

variable {u : PolicyUpdate} {limits : ValidationLimits} {conditions : Option Condition}

/-- **Applying an update sets what it mentions, and nothing else**: `u.apply` is a case of
`Sets`. -/
theorem sets_apply (h : Policy.checkedConditions limits u = .ok conditions)
    (c : PolicyContent Condition) : u.Sets limits c (u.apply conditions c) where
  name := takes_getD _ _
  description := takes_getD _ _
  category := takes_getD _ _
  severity := takes_getD _ _
  policyType := takes_getD _ _
  scope := takes_getD _ _
  jurisdictions := takes_getD _ _
  industries := takes_getD _ _
  conditions := by
    obtain ⟨hasked, hchecked⟩ := checkedConditions_eq_ok_iff.1 h
    show Takes _ c.conditions (conditions.getD c.conditions) u.conditions
    cases hw : u.conditions with
    | none =>
      cases conditions with
      | none => rfl
      | some k =>
        obtain ⟨w, hw', -⟩ := hchecked k rfl
        exact absurd (hw.symm.trans hw') (by simp)
    | some w =>
      obtain ⟨k, rfl, hk⟩ := hasked w hw
      exact hk
  enforcementMode := takes_getD _ _
  autoRemediate := takes_getD _ _
  onViolation := takes_getD _ _

/-- Where `u.apply` makes no difference, `u` was met already. -/
theorem metBy_of_apply_beq {c : PolicyContent Condition}
    (hconditions : Policy.checkedConditions limits u = .ok conditions)
    (h : (u.apply conditions c == c) = true) : u.MetBy limits c := by
  obtain ⟨hname, hdescription, hcategory, hseverity, hpolicyType, hscope, hjurisdictions,
    hindustries, htree, hmode, hremediate, hintents⟩ := PolicyContent.beq_iff.1 h
  refine ⟨getD_eq_iff.1 hname, getD_eq_iff.1 hdescription, getD_eq_iff.1 hcategory,
    getD_eq_iff.1 hseverity, getD_eq_iff.1 hpolicyType, getD_eq_iff.1 hscope,
    getD_eq_iff.1 hjurisdictions, getD_eq_iff.1 hindustries, fun w hw => ?_,
    getD_eq_iff.1 hmode, getD_eq_iff.1 hremediate, fun x hx => ?_⟩
  · obtain ⟨k, rfl, hk⟩ := (checkedConditions_eq_ok_iff.1 hconditions).1 w hw
    exact ⟨k, hk, htree⟩
  · have hintents : (u.onViolation.getD c.onViolation == c.onViolation) = true := hintents
    rwa [hx] at hintents

/-- **Applying an update makes no difference exactly when it is met already**: `u.MetBy` decides
whether `u.apply` changes `c`. -/
theorem apply_beq_iff {c : PolicyContent Condition}
    (hconditions : Policy.checkedConditions limits u = .ok conditions)
    (htree : c.conditions.FiniteOperands) (hintents : ∀ a ∈ c.onViolation, a.Finite) :
    (u.apply conditions c == c) = true ↔ u.MetBy limits c := by
  refine ⟨metBy_of_apply_beq hconditions, fun h => PolicyContent.beq_iff.2 ?_⟩
  have hself : (c.onViolation == c.onViolation) = true :=
    list_beq_self fun a ha => (hintents a ha).beq_self
  refine ⟨getD_eq_iff.2 h.name, getD_eq_iff.2 h.description, getD_eq_iff.2 h.category,
    getD_eq_iff.2 h.severity, getD_eq_iff.2 h.policyType, getD_eq_iff.2 h.scope,
    getD_eq_iff.2 h.jurisdictions, getD_eq_iff.2 h.industries, ?_, getD_eq_iff.2 h.enforcementMode,
    getD_eq_iff.2 h.autoRemediate, (getD_beq_iff hself).2 h.onViolation⟩
  refine (getD_beq_iff htree.beq_self).2 fun k hk => ?_
  -- What the update asks for is what its one checked tree says.
  obtain ⟨w, hw, hwk⟩ := (checkedConditions_eq_ok_iff.1 hconditions).2 k hk
  obtain ⟨k', hk', hsame⟩ := h.conditions w hw
  obtain rfl := Except.ok.inj (hwk.symm.trans hk')
  exact hsame

end Library

end PolicyUpdate

/-! ### The three ways an update ends -/

namespace Policy

section Library

variable [Pattern.Library]

/-- What the update `u` leaves of `p` if it goes through: the policy `q`. -/
structure Revised (p : Policy) (limits : ValidationLimits) (u : PolicyUpdate) (q : Policy) :
    Prop where
  content : u.Sets limits p.content q.content
  version : q.version = p.version + 1
  /-- The history ends with what the old version said; the policy was updated when that was
  written. -/
  history : ∃ entry, q.history = p.history ++ [entry] ∧ entry.version = p.version
    ∧ entry.conditions = p.content.conditions ∧ entry.severity = p.content.severity
    ∧ entry.conditionsDigest = p.content.conditions.digest ∧ q.updatedAt = entry.revisedAt
  id : q.id = p.id
  tenant : q.tenant = p.tenant
  status : q.status = p.status
  createdAt : q.createdAt = p.createdAt
  transitions : q.transitions = p.transitions

variable {p q : Policy} {now : Timestamp} {limits : ValidationLimits} {expected : Version}
  {u : PolicyUpdate}

omit [Pattern.Library] in
/-- As long as there is a number to go, the version of `q` is greater by one. -/
theorem toNat_succ_version (h : q.version = p.version + 1)
    (hroom : p.version.toNat + 1 < UInt64.size) : q.version.toNat = p.version.toNat + 1 := by
  rw [h, UInt64.toNat_add]
  exact Nat.mod_eq_of_lt hroom

theorem after_update_of_error {e : PolicyError} (h : p.update now limits expected u = .error e) :
    p.after (.update now limits expected u) = p := by
  rw [after, Call.answer, h]

theorem after_update_of_none (h : p.update now limits expected u = .ok none) :
    p.after (.update now limits expected u) = p := by
  rw [after, Call.answer, h]

theorem after_update_of_some (h : p.update now limits expected u = .ok (some q)) :
    p.after (.update now limits expected u) = q := by
  rw [after, Call.answer, h]

/-- When `update` finds nothing to change, `u` is met by `p.content`. -/
theorem metBy_of_update_eq_none (h : p.update now limits expected u = .ok none) :
    u.MetBy limits p.content := by
  obtain ⟨conditions, hconditions, hupdate⟩ := (admits_of_update_eq_ok h).update_eq now
  rw [hupdate] at h
  split at h
  · next hsame => exact PolicyUpdate.metBy_of_apply_beq hconditions (beq_of_withContent_beq hsame)
  · exact absurd h (by simp)

/-- **Nothing changes exactly when the update is admitted and met already**: then `update` gives
`none`. -/
theorem Finite.update_eq_none_iff (hp : p.Finite) :
    p.update now limits expected u = .ok none ↔
      p.Admits limits expected u ∧ u.MetBy limits p.content := by
  refine ⟨fun h => ⟨admits_of_update_eq_ok h, metBy_of_update_eq_none h⟩, ?_⟩
  rintro ⟨hadmits, hmet⟩
  obtain ⟨conditions, hconditions, hupdate⟩ := hadmits.update_eq now
  have hsame := (PolicyUpdate.apply_beq_iff hconditions hp.conditions hp.intents).2 hmet
  rw [hupdate, hp.withContent_beq, if_pos hsame]

/-- **An update that goes through is a revision**: `p.Revised limits u q`. -/
theorem revised_of_update_eq_some (h : p.update now limits expected u = .ok (some q)) :
    p.Revised limits u q := by
  obtain ⟨-, -, -, conditions, hconditions, -, rfl⟩ := update_eq_some_iff.1 h
  exact
    { content := PolicyUpdate.sets_apply hconditions p.content
      version := rfl
      history := ⟨p.revision now, rfl, rfl, rfl, rfl, rfl, rfl⟩
      id := rfl
      tenant := rfl
      status := rfl
      createdAt := rfl
      transitions := rfl }

/-- **Updates are atomic and exact.** Let `p` hold no number that is infinite or none, and have a
version number to go. Its `update` by `u` fails as it is rejected (`Rejects`), and then leaves `p`
as it is. Nothing happens exactly when `u` is not rejected and the content has already what it asks
for (`MetBy`). Otherwise the policy is revised (`Revised`), and the version is the next one. -/
theorem update_atomic (p : Policy) (hp : p.Finite) (hroom : p.version.toNat + 1 < UInt64.size)
    (now : Timestamp) (limits : ValidationLimits) (expected : Version) (u : PolicyUpdate) :
    let answer := p.update now limits expected u
    let after := p.after (.update now limits expected u)
    (∀ e, answer = .error e ↔ p.Rejects limits expected u e)
      ∧ (∀ e, answer = .error e → after = p)
      ∧ (answer = .ok none ↔
        (∀ e, ¬ p.Rejects limits expected u e) ∧ u.MetBy limits p.content)
      ∧ (answer = .ok none → after = p)
      ∧ ∀ q, answer = .ok (some q) →
        after = q ∧ p.Revised limits u q ∧ q.version.toNat = p.version.toNat + 1 := by
  refine ⟨fun e => update_eq_error_iff, fun e => after_update_of_error, ?_,
    after_update_of_none, fun q hq => ?_⟩
  · rw [← admits_iff]
    exact hp.update_eq_none_iff
  · have hrevised := revised_of_update_eq_some hq
    exact ⟨after_update_of_some hq, hrevised, toNat_succ_version hrevised.version hroom⟩

end Library

/-- The severity of the rule is high already; setting it to low makes the second version; and the
seventh version there is not. -/
theorem update_atomic_oversightRule :
    ∃ p, create ⟨Uuid.ofNat 1⟩ ⟨0, 0⟩ .default oversightRule = .ok p ∧ p.Finite
      ∧ p.version.toNat + 1 < UInt64.size
      ∧ p.update ⟨1, 0⟩ .default 7 (severityUpdate .low) = .error (.staleVersion 7 1)
      ∧ p.update ⟨1, 0⟩ .default 1 (severityUpdate .high) = .ok none
      ∧ ∃ q, p.update ⟨1, 0⟩ .default 1 (severityUpdate .low) = .ok (some q)
        ∧ p.Revised .default (severityUpdate .low) q ∧ q.version.toNat = 2 := by
  let p := initial ⟨Uuid.ofNat 1⟩ ⟨0, 0⟩ oversightRule
    (.or [.leaf ⟨"humanOversight", .isTrue, .null⟩, .not (.leaf ⟨"riskLevel", .isNull, .null⟩)])
  have hp : p.Finite := ⟨by unfold Condition.FiniteOperands; decide, nofun, nofun⟩
  have hroom : p.version.toNat + 1 < UInt64.size := by decide
  have hadmits (severity : Severity) : p.Admits .default 1 (severityUpdate severity) :=
    ⟨by decide, rfl, nofun, nofun⟩
  obtain ⟨herror, -, -, -, -⟩ := update_atomic p hp hroom ⟨1, 0⟩ .default 7 (severityUpdate .low)
  obtain ⟨-, -, hnone, -, -⟩ := update_atomic p hp hroom ⟨1, 0⟩ .default 1 (severityUpdate .high)
  obtain ⟨-, -, -, -, hsome⟩ := update_atomic p hp hroom ⟨1, 0⟩ .default 1 (severityUpdate .low)
  refine ⟨p, rfl, hp, hroom, (herror _).2 (.stale (by decide) (by decide)), hnone.2 ?_, ?_⟩
  · refine ⟨admits_iff.1 (hadmits .high), ?_⟩
    constructor <;> simp [severityUpdate, p, initial, oversightRule, PolicyContent.withConditions]
  · obtain ⟨q, hq⟩ : ∃ q, p.update ⟨1, 0⟩ .default 1 (severityUpdate .low) = .ok (some q) :=
      ⟨_, rfl⟩
    obtain ⟨-, hrevised, hversion⟩ := hsome q hq
    exact ⟨q, hq, hrevised, hversion⟩

end Policy

end Governance
