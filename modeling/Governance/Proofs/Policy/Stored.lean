import Governance.Proofs.Condition.Widened
import Governance.Proofs.Identity.ReadBack
import Governance.Proofs.Json.Records
import Governance.Proofs.Policy.Course
import Governance.Proofs.Policy.Update
import Governance.Proofs.Time.ReadBack

/-!
# Policies in store

A policy is stored as a document. The reader of documents checks the conditions of the policy and of
every earlier version anew, under limits of its own, and finds the parameters of an intent among all
its members. `Storable` says of which policies nothing is lost on the way; every policy is one of
them that was created and updated within the limits of the reader, with intents none of whose
parameters goes by the name of the kind.

* `Storable.ofJson_toJson`: a storable policy is read back from its document.
* `Storable.live`: whatever is asked of a storable policy, it stays one.
-/

namespace Governance

open Decode

/-! ### Labels and numbers -/

theorem Severity.ofJson_toJson (s : Severity) : ofJson s.toJson = .ok s := by
  cases s <;> rfl

theorem EnforcementMode.ofJson_toJson (m : EnforcementMode) : ofJson m.toJson = .ok m := by
  cases m <;> rfl

theorem PolicyStatus.ofJson_toJson (s : PolicyStatus) : ofJson s.toJson = .ok s := by
  cases s <;> rfl

theorem Version.ofJson_toJson (v : Version) : Version.ofJson (Version.toJson v) = .ok v := by
  have hread : natural "u64" (Version.toJson v) = .ok v.toNat := natural_nat v.toNat_lt_size
  rw [Version.ofJson, hread]
  show Except.ok (UInt64.ofNat v.toNat) = .ok v
  rw [UInt64.ofNat_toNat]

/-! ### Intents -/

namespace ActionIntent

/-- No parameter of the intent `a` goes by the name of the kind. -/
def Plain (a : ActionIntent) : Prop := ∀ m ∈ a.params, m.1 ≠ "type"

theorem ofJson_toJson {a : ActionIntent} (h : a.Plain) : ofJson a.toJson = .ok a := by
  have hparams : (a.params.filter fun m => !decide (m.1 = "type")) = a.params :=
    List.filter_eq_self.2 fun m hm => by simpa using h m hm
  simp [ofJson, toJson, text, hparams]

theorem listOfJson_listToJson {intents : List ActionIntent} (h : ∀ a ∈ intents, a.Plain) :
    listOfJson (listToJson intents) = .ok intents := by
  have hread : list ofJson (.array (intents.map toJson)) = .ok intents :=
    list_map fun a ha => ofJson_toJson (h a ha)
  simp [listOfJson, listToJson, hread]

end ActionIntent

/-! ### Records of the past -/

variable [Pattern.Library]

/-- The entry `r` of a history is read back. -/
structure Revision.Storable (r : Revision) : Prop where
  conditions : r.conditions.Storable
  revisedAt : r.revisedAt.Tellable

theorem Revision.ofJson_toJson {r : Revision} (h : r.Storable) : ofJson r.toJson = .ok r := by
  simp [ofJson, toJson, text, Version.ofJson_toJson, h.conditions.ofJson_toJson,
    Severity.ofJson_toJson, Timestamp.ofJson_toJson h.revisedAt]

omit [Pattern.Library] in
theorem PolicyTransition.ofJson_toJson {t : PolicyTransition} (h : t.timestamp.Tellable) :
    ofJson t.toJson = .ok t := by
  simp [ofJson, toJson, PolicyStatus.ofJson_toJson, Timestamp.ofJson_toJson h]

/-! ### Policies -/

namespace Policy

/-- Everything that the policy `p` keeps is read back. -/
structure Storable (p : Policy) : Prop where
  conditions : p.content.conditions.Storable
  intents : ∀ a ∈ p.content.onViolation, a.Plain
  createdAt : p.createdAt.Tellable
  updatedAt : p.updatedAt.Tellable
  history : ∀ r ∈ p.history, r.Storable
  transitions : ∀ t ∈ p.transitions, t.timestamp.Tellable

/-- **A storable policy is read back from its document**: `ofJson` inverts `toJson`. -/
theorem Storable.ofJson_toJson {p : Policy} (h : p.Storable) (fresh : PolicyId) (now : Timestamp) :
    ofJson fresh now p.toJson = .ok p := by
  have hhistory : list Revision.ofJson (.array (p.history.map Revision.toJson)) = .ok p.history :=
    list_map fun r hr => Revision.ofJson_toJson (h.history r hr)
  have htransitions :
      list PolicyTransition.ofJson (.array (p.transitions.map PolicyTransition.toJson))
        = .ok p.transitions :=
    list_map fun t ht => PolicyTransition.ofJson_toJson (h.transitions t ht)
  simp [ofJson, toJson, PolicyContent.members, PolicyContent.slots, PolicyContent.Slots.content,
    PolicyContent.Slots.faults, text, Decode.bool, texts_texts, Version.ofJson_toJson,
    PolicyId.ofJson_toJson, TenantId.ofJson_toJson, Severity.ofJson_toJson,
    EnforcementMode.ofJson_toJson, PolicyStatus.ofJson_toJson, h.conditions.ofJson_toJson,
    ActionIntent.listOfJson_listToJson h.intents, Timestamp.ofJson_toJson h.createdAt,
    Timestamp.ofJson_toJson h.updatedAt, hhistory, htransitions]

/-! ### Storable all through its life -/

/-- What `checkedConditions` gives within the limits of the reader is `Storable`. -/
theorem storable_of_checkedConditions {limits : ValidationLimits} {u : PolicyUpdate}
    {conditions : Option Condition} (h : checkedConditions limits u = .ok conditions)
    (hwithin : limits.Within .default) : ∀ c ∈ conditions, c.Storable := by
  intro c hc
  obtain ⟨w, -, hw⟩ := (PolicyUpdate.checkedConditions_eq_ok_iff.1 h).2 c hc
  exact Condition.storable_of_check hw hwithin

theorem storable_initial (id : PolicyId) {now : Timestamp} {new : NewPolicy} {c : Condition}
    (hc : c.Storable) (hnow : now.Tellable) (hintents : ∀ a ∈ new.content.onViolation, a.Plain) :
    (initial id now new c).Storable where
  conditions := hc
  intents := hintents
  createdAt := hnow
  updatedAt := hnow
  history := fun _ hr => absurd hr List.not_mem_nil
  transitions := fun _ ht => absurd ht List.not_mem_nil

/-- A request that asks for nothing that could not be stored: it comes at a time that is `Tellable`,
and an update is checked within the limits of the reader and sets `Plain` intents only. -/
def Request.Storable : Request → Prop
  | update now limits _ u =>
    now.Tellable ∧ limits.Within .default
      ∧ ∀ intents ∈ u.onViolation, ∀ a ∈ intents, a.Plain
  | activate now => now.Tellable
  | markDeprecated now => now.Tellable
  | archive now => now.Tellable
  | transition now _ => now.Tellable

namespace Storable

variable {p : Policy}

theorem revise (h : p.Storable) {now : Timestamp} (hnow : now.Tellable)
    {content : PolicyContent Condition} (hconditions : content.conditions.Storable)
    (hintents : ∀ a ∈ content.onViolation, a.Plain) : (p.revise now content).Storable where
  conditions := hconditions
  intents := hintents
  createdAt := h.createdAt
  updatedAt := hnow
  history := List.forall_mem_append.2
    ⟨h.history, List.forall_mem_singleton.2 ⟨h.conditions, hnow⟩⟩
  transitions := h.transitions

theorem moved (h : p.Storable) {now : Timestamp} (hnow : now.Tellable) (target : PolicyStatus) :
    (p.moved now target).Storable where
  conditions := h.conditions
  intents := h.intents
  createdAt := h.createdAt
  updatedAt := hnow
  history := h.history
  transitions := List.forall_mem_append.2 ⟨h.transitions, List.forall_mem_singleton.2 hnow⟩

theorem update (h : p.Storable) {now : Timestamp} {limits : ValidationLimits} {expected : Version}
    {u : PolicyUpdate} {q : Policy} (hu : (Request.update now limits expected u).Storable)
    (hq : p.update now limits expected u = .ok (some q)) : q.Storable := by
  obtain ⟨hnow, hwithin, hintents⟩ := hu
  obtain ⟨-, -, -, conditions, hconditions, -, rfl⟩ := update_eq_some_iff.1 hq
  refine h.revise hnow ?_ fun a ha => ?_
  · show (conditions.getD p.content.conditions).Storable
    cases conditions with
    | none => exact h.conditions
    | some c => exact storable_of_checkedConditions hconditions hwithin c rfl
  · have ha : a ∈ u.onViolation.getD p.content.onViolation := ha
    cases hset : u.onViolation with
    | none => exact h.intents a (by simpa [hset] using ha)
    | some intents => exact hintents intents hset a (by simpa [hset] using ha)

theorem transition (h : p.Storable) {now : Timestamp} (hnow : now.Tellable)
    {target : PolicyStatus} {q : Policy} (hq : p.transition now target = .ok (some q)) :
    q.Storable := by
  obtain ⟨-, -, -, rfl⟩ := transition_eq_some_iff.1 hq
  exact h.moved hnow target

/-- **A request that can be stored leaves a policy that can be stored**: `p.grant r` is
`Storable`. -/
theorem grant (h : p.Storable) {r : Request} (hr : r.Storable) : (p.grant r).Storable := by
  unfold Policy.grant
  split
  · next q hq =>
    cases r with
    | update now limits expected u => exact h.update hr hq
    | activate now => exact h.transition hr hq
    | markDeprecated now => exact h.transition hr hq
    | archive now => exact h.transition hr hq
    | transition now target => exact h.transition hr hq
  · exact h

/-- **So do requests, one after the other**: `p.live requests` is `Storable`. -/
theorem live (h : p.Storable) {requests : List Request} (hrequests : ∀ r ∈ requests, r.Storable) :
    (p.live requests).Storable := by
  induction requests generalizing p with
  | nil => exact h
  | cons r rest ih =>
    rw [List.forall_mem_cons] at hrequests
    exact ih (h.grant hrequests.1) hrequests.2

end Storable

/-- What is created within the limits of the reader is `Storable`. -/
theorem storable_of_create {id : PolicyId} {now : Timestamp} {limits : ValidationLimits}
    {new : NewPolicy} {p : Policy} (h : create id now limits new = .ok p)
    (hwithin : limits.Within .default) (hnow : now.Tellable)
    (hintents : ∀ a ∈ new.content.onViolation, a.Plain) : p.Storable := by
  obtain ⟨c, hc, rfl⟩ := map_eq_ok_iff.1 h
  obtain ⟨-, -, hcheck⟩ := NewPolicy.accept_eq_ok hc
  exact storable_initial id (Condition.storable_of_check hcheck hwithin) hnow hintents

end Policy

end Governance
