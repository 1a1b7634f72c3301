import Governance.Proofs.Judgement.Decision
import Governance.Proofs.Policy.Stored
import Governance.Proofs.Violation.Course
import Governance.Proofs.Violation.Replay
import Governance.Pattern.Program

/-!
# Violations in store

A violation is stored as a document, with its resolution left out as long as there is none. What was
found is read back because no number in it is infinite or none: those of the operands were checked
with their conditions, those of a context with the assessment.

* `Storable.ofJson_toJson`: a storable violation is read back from its document.
* `Storable.live`: whatever is asked of a storable violation, it stays one.
* `stored_lossless`: policies and their violations are read back, wherever their lives have led.
-/

namespace Governance

open Decode

theorem ViolationStatus.ofJson_toJson (s : ViolationStatus) : ofJson s.toJson = .ok s := by
  cases s <;> rfl

theorem TargetType.ofJson_toJson (t : TargetType) : ofJson t.toJson = .ok t := by
  cases t
  rfl

theorem ViolationTransition.ofJson_toJson {t : ViolationTransition} (h : t.timestamp.Tellable) :
    ofJson t.toJson = .ok t := by
  simp [ofJson, toJson, ViolationStatus.ofJson_toJson, Timestamp.ofJson_toJson h]

namespace Violation

/-- The violation `v` is read back from its document. -/
structure Storable (v : Violation) : Prop where
  expected : v.data.expected.isFinite = true
  actual : v.data.actual.isFinite = true
  detectedAt : v.detectedAt.Tellable
  resolvedAt : ∀ t ∈ v.resolvedAt, t.Tellable
  transitions : ∀ t ∈ v.transitions, t.timestamp.Tellable

/-- **A storable violation is read back from its document**: `ofJson` inverts `toJson`. -/
theorem Storable.ofJson_toJson {v : Violation} (h : v.Storable) : ofJson v.toJson = .ok v := by
  have hresolvedAt : (v.resolvedAt.map fun t => option Timestamp.ofJson t.toJson)
      = v.resolvedAt.map fun t => .ok (some t) :=
    Option.map_congr fun t ht => option_written (Timestamp.ofJson_toJson (h.resolvedAt t ht)) nofun
  have htransitions :
      list ViolationTransition.ofJson (.array (v.transitions.map ViolationTransition.toJson))
        = .ok v.transitions :=
    list_map fun t ht => ViolationTransition.ofJson_toJson (h.transitions t ht)
  simp [ofJson, toJson, text, Version.ofJson_toJson, ViolationId.ofJson_toJson,
    PolicyId.ofJson_toJson, TargetType.ofJson_toJson, AssessmentId.ofJson_toJson,
    TenantId.ofJson_toJson, Severity.ofJson_toJson, ViolationStatus.ofJson_toJson,
    ViolationData.ofJson_toJson h.expected h.actual, Timestamp.ofJson_toJson h.detectedAt,
    hresolvedAt, htransitions]

/-! ### Storable all through its handling -/

namespace Storable

variable {v : Violation} {now : Timestamp}

theorem moved (h : v.Storable) (hnow : now.Tellable) (target : ViolationStatus)
    (actor : Option String) : (v.moved now target actor).Storable where
  expected := h.expected
  actual := h.actual
  detectedAt := h.detectedAt
  resolvedAt := h.resolvedAt
  transitions := List.forall_mem_append.2 ⟨h.transitions, List.forall_mem_singleton.2 hnow⟩

theorem settledBy (h : v.Storable) (hnow : now.Tellable) (r : Resolution) :
    (v.settledBy now r).Storable where
  expected := h.expected
  actual := h.actual
  detectedAt := h.detectedAt
  resolvedAt := fun _ ht => Option.some.inj ht ▸ hnow
  transitions := h.transitions

theorem transition (h : v.Storable) (hnow : now.Tellable) {target : ViolationStatus}
    {actor : Option String} {resolution : Option Resolution} {w : Violation}
    (hw : v.transition now target actor resolution = .ok (some w)) : w.Storable := by
  unfold Violation.transition at hw
  split at hw
  · exact absurd hw (by simp)
  split at hw
  · exact absurd hw (by simp)
  split at hw
  · exact absurd hw (by simp)
  split at hw
  · split at hw
    · exact absurd hw (by simp)
    · next r _ =>
      obtain rfl := Option.some.inj (Except.ok.inj hw)
      exact (h.settledBy hnow r).moved hnow target actor
  · obtain rfl := Option.some.inj (Except.ok.inj hw)
    exact h.moved hnow target actor

end Storable

/-- The time at which the request comes. -/
def Request.time : Request → Timestamp
  | acknowledge now _ => now
  | startRemediation now _ => now
  | resolve now _ => now
  | transition now _ _ _ => now

theorem Request.answer_eq_transition (r : Request) (v : Violation) :
    ∃ actor, r.answer v = v.transition r.time r.target actor r.resolution? := by
  cases r <;> exact ⟨_, rfl⟩

namespace Storable

variable {v : Violation}

/-- **A request at a time that can be told leaves a violation that can be stored**: `v.grant r` is
`Storable`. -/
theorem grant (h : v.Storable) {r : Request} (hr : r.time.Tellable) : (v.grant r).Storable := by
  unfold Violation.grant
  split
  · next w hw =>
    obtain ⟨actor, hanswer⟩ := r.answer_eq_transition v
    rw [hanswer] at hw
    exact h.transition hr hw
  · exact h

/-- **So do requests, one after the other**: `v.live requests` is `Storable`. -/
theorem live (h : v.Storable) {requests : List Request}
    (hrequests : ∀ r ∈ requests, r.time.Tellable) : (v.live requests).Storable := by
  induction requests generalizing v with
  | nil => exact h
  | cons r rest ih =>
    rw [List.forall_mem_cons] at hrequests
    exact ih (h.grant hrequests.1) hrequests.2

end Storable

/-- What `judge` finds of conditions with finite operands is `Storable`. -/
theorem storable_of_judge [Pattern.Library] {e : Engine} {ids : IdSource} {now : Timestamp}
    {a : Assessment} {p : Policy} {o : Outcome} (h : e.judge ids now a p = .ok o)
    (hnow : now.Tellable) (hfinite : p.content.conditions.FiniteOperands) {v : Violation}
    (hv : v ∈ o.violations) : v.Storable := by
  have hleaf := (Engine.judge_violation h hv).2.2.2.2
  obtain ⟨trace, htrace, rfl⟩ := Engine.judge_eq_ok_iff.1 h
  obtain ⟨id, x, hx, rfl⟩ := Policy.exists_of_mem_violations hv
  refine ⟨hfinite _ hleaf, ?_, hnow, nofun, nofun⟩
  show x.actual.isFinite = true
  rw [(bornOut_of_evaluate htrace hx).1]
  exact a.isFinite_valueOf_context x.field

end Violation

namespace Policy

/-- **Policies and violations outlast their storage.** Let `p` be created, and asked `requests`,
within the limits of the reader of documents (`Within`), at times that are `Tellable`, and with
intents none of whose parameters goes by the name of the kind (`Plain`). Wherever its life has led,
the policy `q` is read back from its document by `ofJson`, history and transitions included. So is
every violation `v` that judging `q` finds, wherever its `handling` has led. -/
theorem stored_lossless [Pattern.Library] (id : PolicyId) (now : Timestamp)
    (limits : ValidationLimits) (new : NewPolicy) (p : Policy)
    (h : create id now limits new = .ok p) (hwithin : limits.Within .default)
    (hnow : now.Tellable) (hintents : ∀ a ∈ new.content.onViolation, a.Plain)
    (requests : List Request) (hrequests : ∀ r ∈ requests, r.Storable) :
    let q := p.live requests
    (∀ fresh later, ofJson fresh later q.toJson = .ok q)
      ∧ ∀ (e : Engine) ids then' a o, then'.Tellable → e.judge ids then' a q = .ok o →
        ∀ v ∈ o.violations, ∀ handling : List Violation.Request,
          (∀ r ∈ handling, r.time.Tellable) →
            Violation.ofJson (v.live handling).toJson = .ok (v.live handling) := by
  intro q
  have hq : q.Storable := (storable_of_create h hwithin hnow hintents).live hrequests
  refine ⟨fun fresh later => hq.ofJson_toJson fresh later, ?_⟩
  intro e ids then' a o hthen ho v hv handling hhandling
  have hv : v.Storable := Violation.storable_of_judge ho hthen hq.conditions.finiteOperands hv
  exact (hv.live hhandling).ofJson_toJson

/-- A policy with two intents that is made less severe and deprecated, and one of its violations,
which is acknowledged and, within a second, resolved. -/
theorem stored_lossless_remedyRule :
    let requests : List Request :=
      [.update ⟨60, 0⟩ .default 1 (severityUpdate .low), .markDeprecated ⟨120, 0⟩]
    let handling : List Violation.Request :=
      [.acknowledge ⟨240, 0⟩ none, .resolve ⟨240, 500000000⟩ ⟨"dpo", "risk is known"⟩]
    let a := Assessment.bare ⟨⟨"system", by decide⟩⟩ Engine.remedyRule.tenant
    let e : Engine := ⟨.still, .default⟩
    ∃ p, create ⟨Uuid.ofNat 1⟩ ⟨0, 0⟩ .default Engine.remedyRule = .ok p
      ∧ let q := p.live requests
        q.history.length = 1 ∧ q.transitions.length = 1 ∧ q.content.onViolation.length = 2
          ∧ ofJson ⟨Uuid.ofNat 7⟩ ⟨9, 0⟩ q.toJson = .ok q
          ∧ ∃ o, e.judge ⟨Uuid.ofNat, 2⟩ ⟨180, 0⟩ a q = .ok o
            ∧ ∃ v ∈ o.violations,
              (v.live handling).transitions.length = 2
                ∧ (v.live handling).resolvedAt = some ⟨240, 500000000⟩
                ∧ Violation.ofJson (v.live handling).toJson = .ok (v.live handling) := by
  intro requests handling a e
  let p := initial ⟨Uuid.ofNat 1⟩ ⟨0, 0⟩ Engine.remedyRule
    (.or [.leaf ⟨"humanOversight", .isTrue, .null⟩, .not (.leaf ⟨"riskLevel", .isNull, .null⟩)])
  have hp : create ⟨Uuid.ofNat 1⟩ ⟨0, 0⟩ .default Engine.remedyRule = .ok p := rfl
  have htold (t : Timestamp) (hrange : t.inRange = true) (hnanos : t.nanos < Timestamp.perSecond) :
      t.Tellable := ⟨hrange, .inl hnanos⟩
  have hwithin : ValidationLimits.default.Within .default := ⟨Nat.le_refl _, Nat.le_refl _⟩
  have hintents : ∀ i ∈ Engine.remedyRule.content.onViolation, i.Plain := by
    unfold ActionIntent.Plain
    decide
  have hrequests : ∀ r ∈ requests, r.Storable := by
    rw [List.forall_mem_cons, List.forall_mem_singleton]
    exact ⟨⟨htold _ (by decide) (by decide), hwithin, nofun⟩, htold _ (by decide) (by decide)⟩
  have hhandling : ∀ r ∈ handling, r.time.Tellable := by
    rw [List.forall_mem_cons, List.forall_mem_singleton]
    exact ⟨htold _ (by decide) (by decide), htold _ (by decide) (by decide)⟩
  obtain ⟨hread, hfound⟩ := stored_lossless _ _ _ Engine.remedyRule p hp hwithin
    (htold _ (by decide) (by decide)) hintents requests hrequests
  have hjudge : (e.judge ⟨Uuid.ofNat, 2⟩ ⟨180, 0⟩ a (p.live requests)).map
      (fun o => o.violations.map fun v =>
        ((v.live handling).transitions.length, (v.live handling).resolvedAt))
      = .ok [(2, some ⟨240, 500000000⟩), (2, some ⟨240, 500000000⟩)] := by decide +kernel
  obtain ⟨o, ho, hends⟩ := map_eq_ok_iff.1 hjudge
  obtain ⟨v, w, hvw⟩ : ∃ v w, o.violations = [v, w] :=
    List.length_eq_two.1 (by simpa using congrArg List.length hends)
  have hv : v ∈ o.violations := hvw ▸ List.mem_cons_self
  rw [hvw] at hends
  obtain ⟨hlength, hresolved⟩ := Prod.mk.inj (List.cons.inj hends).1
  exact ⟨p, hp, rfl, rfl, rfl, hread _ _, o, ho, v, hv, hlength, hresolved,
    hfound e _ _ a o (htold _ (by decide) (by decide)) ho v hv handling hhandling⟩

end Policy

end Governance
