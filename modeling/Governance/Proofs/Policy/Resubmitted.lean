import Governance.Proofs.Policy.Versions
import Governance.Pattern.Program

/-!
# Updates that come again

An update that was accepted asks, when it comes again, for what the policy says by now, and finds
nothing to change. So does an update that spells out all that a policy says, conditions included:
these are written without the blanks round their fields and without null operands, and accepted as
the same conditions. Such an update is rejected only where every update is, or where the policy
itself has a blank name.

* `Finite.revised`: an update with finite numbers leaves a policy with finite numbers.
* `PolicyUpdate.Sets.metBy`: what an update has set meets it.
* `PolicyUpdate.sets_whole`: the update that spells out a content sets just that.
* `update_idempotent`: neither kind of update changes anything.
-/

namespace Governance

/-- Conditions that were accepted are accepted as they are `written`. -/
theorem Condition.check_written [Pattern.Library] {limits : ValidationLimits}
    {w : WrittenCondition} {c : Condition} (h : w.check limits = .ok c) :
    c.written.check limits = .ok c :=
  WrittenCondition.check_eq_ok_iff_standsFor.2
    (WrittenCondition.check_eq_ok_iff_standsFor.1 h).written

/-! ### Updates that are met -/

namespace PolicyUpdate

/-- No number in the intents of the update `u` is infinite or none. Its conditions are not checked
yet, and hold no such number once they are. -/
def Finite (u : PolicyUpdate) : Prop := ∀ intents ∈ u.onViolation, ∀ a ∈ intents, a.Finite

/-- The update that spells out the content `c`. -/
def whole (c : PolicyContent Condition) : PolicyUpdate where
  name := some c.name
  description := some c.description
  category := some c.category
  severity := some c.severity
  policyType := some c.policyType
  scope := some c.scope
  jurisdictions := some c.jurisdictions
  industries := some c.industries
  conditions := some c.conditions.written
  enforcementMode := some c.enforcementMode
  autoRemediate := some c.autoRemediate
  onViolation := some c.onViolation

variable {u : PolicyUpdate} {limits : ValidationLimits} {c old new : PolicyContent Condition}

/-- **What an update has set meets it**: where `u` sets `new`, it is `MetBy` it. -/
theorem Sets.metBy [Pattern.Library] (h : u.Sets limits old new)
    (htree : new.conditions.FiniteOperands) (hintents : ∀ a ∈ new.onViolation, a.Finite) :
    u.MetBy limits new where
  name _ hx := h.name.of_mem hx
  description _ hx := h.description.of_mem hx
  category _ hx := h.category.of_mem hx
  severity _ hx := h.severity.of_mem hx
  policyType _ hx := h.policyType.of_mem hx
  scope _ hx := h.scope.of_mem hx
  jurisdictions _ hx := h.jurisdictions.of_mem hx
  industries _ hx := h.industries.of_mem hx
  conditions _ hw := ⟨new.conditions, h.conditions.of_mem hw, htree.beq_self⟩
  enforcementMode _ hx := h.enforcementMode.of_mem hx
  autoRemediate _ hx := h.autoRemediate.of_mem hx
  onViolation x hx := by
    rw [h.onViolation.of_mem hx]
    exact list_beq_self fun a ha => (hintents a ha).beq_self

/-- What `whole c` sets is the content `c`. -/
theorem sets_whole [Pattern.Library] (h : c.conditions.written.check limits = .ok c.conditions)
    (old : PolicyContent Condition) : (whole c).Sets limits old c :=
  ⟨rfl, rfl, rfl, rfl, rfl, rfl, rfl, rfl, h, rfl, rfl, rfl⟩

end PolicyUpdate

/-! ### Updates made again -/

namespace Policy

variable {p q : Policy} {limits : ValidationLimits} {expected : Version} {u : PolicyUpdate}

section Library

variable [Pattern.Library]

/-- **Numbers stay finite**: a policy `q` that `u` revised is `Finite`, too. -/
theorem Finite.revised (hp : p.Finite) (hu : u.Finite) (h : p.Revised limits u q) :
    q.Finite where
  conditions := h.content.conditions.induction hp.conditions fun w _ c hc =>
    (WrittenCondition.check_eq_ok_iff_standsFor.1 hc).finiteOperands
  history := by
    obtain ⟨entry, hhistory, -, hentry, -⟩ := h.history
    rw [hhistory, List.forall_mem_append, List.forall_mem_singleton, hentry]
    exact ⟨hp.history, hp.conditions⟩
  intents := h.content.onViolation.induction (P := fun intents => ∀ a ∈ intents, a.Finite)
    hp.intents fun asked hasked intents hintents => hintents ▸ hu asked hasked

/-- Revised to `q`, the policy admits the update `u` again, made for its new version. -/
theorem Revised.admits (h : p.Revised limits u q) (hadmits : p.Admits limits expected u) :
    q.Admits limits q.version u where
  live := by
    rw [h.status]
    exact hadmits.live
  current := rfl
  named := hadmits.named
  sound := hadmits.sound

/-- By `whole` a policy is asked for what it is; it admits that unless it is archived or its own
name is blank. -/
theorem admits_whole_iff
    (h : p.content.conditions.written.check limits = .ok p.content.conditions) :
    p.Admits limits p.version (.whole p.content) ↔
      p.status ≠ .archived ∧ Text.isAllBlank p.content.name = false := by
  constructor
  · intro hadmits
    exact ⟨hadmits.live, hadmits.named _ rfl⟩
  · rintro ⟨hlive, hnamed⟩
    refine ⟨hlive, rfl, fun name hname => ?_, fun w hw => ?_⟩
    · obtain rfl := Option.some.inj hname
      exact hnamed
    · obtain rfl := Option.some.inj hw
      exact ⟨_, h⟩

/-- **Updates are idempotent.** Let no number in `p` be infinite or none. An update `u` that was
accepted, whether it changed anything or not, finds nothing to change when it comes again for the
version that the policy `q` has then. And let `p.content.conditions` be what some `w` was accepted
as: the update `whole p.content` for the current version finds nothing to change unless `p` is
archived or has a blank name, when it is rejected; `p` stays as it is in every case. -/
theorem update_idempotent (p : Policy) (hp : p.Finite) (limits : ValidationLimits) :
    (∀ now expected u changed, u.Finite → p.update now limits expected u = .ok changed →
      let q := p.after (.update now limits expected u)
      ∀ later, q.update later limits q.version u = .ok none
        ∧ q.after (.update later limits q.version u) = q)
      ∧ ∀ w : WrittenCondition, w.check limits = .ok p.content.conditions → ∀ now,
        (p.update now limits p.version (.whole p.content) = .ok none ↔
          p.status ≠ .archived ∧ Text.isAllBlank p.content.name = false)
        ∧ p.after (.update now limits p.version (.whole p.content)) = p := by
  constructor
  · intro now expected u changed hu h q later
    have hadmits := admits_of_update_eq_ok h
    have hagain : q.update later limits q.version u = .ok none := by
      cases changed with
      | none =>
        have hq : q = p := after_update_of_none h
        rw [hq]
        exact hp.update_eq_none_iff.2 ⟨hadmits.current ▸ hadmits, metBy_of_update_eq_none h⟩
      | some r =>
        have hq : q = r := after_update_of_some h
        have hrevised := revised_of_update_eq_some h
        have hfinite := hp.revised hu hrevised
        rw [hq]
        exact hfinite.update_eq_none_iff.2
          ⟨hrevised.admits hadmits, hrevised.content.metBy hfinite.conditions hfinite.intents⟩
    exact ⟨hagain, after_update_of_none hagain⟩
  · intro w hw now
    have hwritten := Condition.check_written hw
    have hmet := (PolicyUpdate.sets_whole hwritten p.content).metBy hp.conditions hp.intents
    have hnone : p.update now limits p.version (.whole p.content) = .ok none ↔
        p.Admits limits p.version (.whole p.content) := by
      rw [hp.update_eq_none_iff, and_iff_left hmet]
    refine ⟨hnone.trans (admits_whole_iff hwritten), ?_⟩
    cases h : p.update now limits p.version (.whole p.content) with
    | error e => exact after_update_of_error h
    | ok changed =>
      -- What is admitted finds nothing to change, so nothing else is accepted.
      have hsame := hnone.2 (admits_of_update_eq_ok h)
      exact after_update_of_none hsame

theorem finite_oversightAt (version : Version) : (oversightAt version).Finite :=
  ⟨(storable_oversightAt version).conditions.finiteOperands, nofun, nofun⟩

end Library

/-- Lowering the severity twice lowers it once, and spelling the rule out changes nothing. -/
theorem update_idempotent_oversightAt :
    let p := oversightAt 1
    let w := oversightRule.content.conditions
    p.Finite ∧ (severityUpdate .low).Finite ∧ w.check .default = .ok p.content.conditions
      ∧ ∃ q, p.update ⟨1, 0⟩ .default 1 (severityUpdate .low) = .ok (some q) ∧ q.version = 2
        ∧ q.update ⟨2, 0⟩ .default 2 (severityUpdate .low) = .ok none
        ∧ p.update ⟨3, 0⟩ .default 1 (.whole p.content) = .ok none := by
  intro p w
  have hp := finite_oversightAt 1
  have hu : (severityUpdate .low).Finite := nofun
  have hw : w.check .default = .ok p.content.conditions := rfl
  obtain ⟨hagain, hwhole⟩ := update_idempotent p hp .default
  obtain ⟨q, hq⟩ : ∃ q, p.update ⟨1, 0⟩ .default 1 (severityUpdate .low) = .ok (some q) := ⟨_, rfl⟩
  have hnone := (hagain _ _ _ _ hu hq ⟨2, 0⟩).1
  rw [after_update_of_some hq] at hnone
  have hversion : q.version = 2 := by
    obtain rfl := Option.some.inj (Except.ok.inj hq)
    decide
  rw [hversion] at hnone
  exact ⟨hp, hu, hw, q, hq, hversion, hnone, (hwhole w hw ⟨3, 0⟩).1.2 ⟨by decide, by decide⟩⟩

/-- A rule that has been archived does not take an update that spells it out, and neither does one
that was read from a document with a blank name. -/
theorem update_whole_rejected_oversightAt :
    let p := oversightAt 1
    let unnamed : Policy := { p with content := { p.content with name := " " } }
    let w := oversightRule.content.conditions
    w.check .default = .ok p.content.conditions ∧ p.Finite ∧ unnamed.Finite
      ∧ (∃ q, p.archive ⟨1, 0⟩ = .ok (some q) ∧ q.content = p.content
        ∧ q.update ⟨2, 0⟩ .default q.version (.whole q.content) = .error (.terminalState .archived))
      ∧ (∀ fresh now, ofJson fresh now unnamed.toJson = .ok unnamed)
      ∧ unnamed.update ⟨2, 0⟩ .default unnamed.version (.whole unnamed.content)
        = .error .emptyName := by
  intro p unnamed w
  have hp := finite_oversightAt 1
  have hstored := storable_oversightAt 1
  have hunnamed : unnamed.Storable :=
    ⟨hstored.conditions, hstored.intents, hstored.createdAt, hstored.updatedAt, hstored.history,
      hstored.transitions⟩
  refine ⟨rfl, hp, ⟨hp.conditions, hp.history, hp.intents⟩,
    ⟨p.moved ⟨1, 0⟩ .archived, rfl, rfl, ?_⟩, hunnamed.ofJson_toJson, ?_⟩
  · exact update_eq_error_iff.2 (.terminal rfl)
  · exact update_eq_error_iff.2 (.unnamed (by decide) rfl rfl (by decide))

end Policy

end Governance
