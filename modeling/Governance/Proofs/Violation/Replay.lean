import Governance.Proofs.Evaluation.Reasons
import Governance.Proofs.Json.Records
import Governance.Proofs.Judgement.Outcome
import Governance.Proofs.Policy.Audit
import Governance.Pattern.Program

/-!
# Replaying a violation

A violation keeps enough to judge its leaf again. `ViolationData.replay` asks the recorded operator
about the recorded values, and nothing else. It says what the leaf said when the policy was judged:
the recorded `negated`, or the error whose message is the recorded `warning`.

* `replay_violationData`: a result that tells the value of its field is replayed as its leaf.
* `judge_replay`: so it is for every violation of every outcome, and a violation whose operand is
  finite is read back from the document that it is written to.
-/

namespace Governance

open Decode

namespace ViolationData

section Library

variable [Pattern.Library]

/-- What the recorded operator of `d` says of the recorded values. A value that was missing fails
every operator that is not defined for it. -/
def replay (env : Surroundings) (d : ViolationData) : Option (Except EvaluationError Bool) :=
  d.operator.judgement?.map fun judgement =>
    if d.actual.isNull && !d.operator.definedForMissing then .ok false
    else judgement env d.actual d.expected

/-- The record `d` is what its `replay` bears out: an answer that counts as recorded, or the
recorded error, for which no negation counts. -/
def BornOut (env : Surroundings) (d : ViolationData) : Prop :=
  match d.warning with
  | none => d.replay env = some (.ok d.negated)
  | some message =>
    d.negated = false ∧ ∃ e, d.replay env = some (.error e) ∧ e.message = message

omit [Pattern.Library] in
/-- A record `d` of finite values is read back from its document: `ofJson` inverts `toJson`. -/
theorem ofJson_toJson {d : ViolationData} (hexpected : d.expected.isFinite = true)
    (hactual : d.actual.isFinite = true) : ofJson d.toJson = .ok d := by
  obtain ⟨field, operator, expected, actual, negated, warning⟩ := d
  have hreadExpected : FieldValue.decode expected.toJson = .ok expected :=
    FieldValue.decode_toJson hexpected
  have hreadActual : FieldValue.decode actual.toJson = .ok actual :=
    FieldValue.decode_toJson hactual
  simp [ofJson, toJson, text, Decode.bool, hreadExpected, hreadActual, Operator.ofJson_toJson]

end Library

end ViolationData

/-! ### Results and their replays -/

theorem LeafResult.replay_violationData [Pattern.Library] {s : Setting} {x : LeafResult}
    (h : x.actual = s.context.valueOf x.field) :
    x.violationData.replay s.surroundings = s.reply x.leaf := by
  obtain ⟨field, operator, expected, actual, passed, negated, error⟩ := x
  obtain rfl : actual = s.context.valueOf field := h
  rfl

/-- What backs a truth other than `holds` is `BornOut` by its replay. -/
theorem Setting.Backs.bornOut [Pattern.Library] {s : Setting} {t : Truth} {x : LeafResult}
    (h : s.Backs t x) (ht : t ≠ .holds) :
    x.actual = s.context.valueOf x.field ∧ x.violationData.BornOut s.surroundings := by
  cases h with
  | holding => exact absurd rfl ht
  | failing _ hactual herror hreply =>
    refine ⟨hactual, ?_⟩
    have hwarning : x.violationData.warning = none := herror
    rw [ViolationData.BornOut, hwarning]
    show x.violationData.replay s.surroundings = some (.ok x.negated)
    rw [LeafResult.replay_violationData hactual, hreply]
  | erring e hactual herror hnegated hreply =>
    refine ⟨hactual, ?_⟩
    have hwarning : x.violationData.warning = some e.message := herror
    rw [ViolationData.BornOut, hwarning]
    refine ⟨hnegated, e, ?_, rfl⟩
    rw [LeafResult.replay_violationData hactual, hreply]

/-- All `t.failingLeaves` are `BornOut`. -/
theorem bornOut_of_evaluate [Pattern.Library] {clock : Pattern.Clock} {limits : EvaluationLimits}
    {context : Context} {c : Condition} {t : Trace} (h : c.evaluate clock limits context = .ok t)
    {x : LeafResult} (hx : x ∈ t.failingLeaves) :
    x.actual = context.valueOf x.field ∧ x.violationData.BornOut ⟨limits.patterns, clock⟩ := by
  obtain ⟨f, hf, rfl⟩ := Condition.evaluate_eq_ok_iff.1 h
  obtain ⟨hfails, hreason⟩ := Finding.mem_failingLeaves_iff.1 hx
  exact (Setting.walk_backs hf x hreason).bornOut hfails

namespace Engine

/-- **Violations can be replayed.** Whatever leaf of whatever conditions the violation `v` is about,
`v.data.actual` is the value that `a.context` gives to the leaf's field, null where there is none,
and the recorded operator, asked again under the limits and the clock of `e` (`replay`), bears the
record out. Where the operands of the conditions are finite, the document of the record says all of
it. The clock of `e` is one for all visits (`Evaluator.Steady`). -/
theorem judge_replay [Pattern.Library] (e : Engine) (ids : IdSource) (now : Timestamp)
    (a : Assessment) (p : Policy) (o : Outcome) (h : e.judge ids now a p = .ok o) (v : Violation)
    (hv : v ∈ o.violations) :
    v.data.actual = a.context.valueOf v.data.field
      ∧ (match v.data.warning with
        | none => v.data.replay ⟨e.limits.patterns, e.clock⟩ = some (.ok v.data.negated)
        | some message =>
          v.data.negated = false
            ∧ ∃ cause, v.data.replay ⟨e.limits.patterns, e.clock⟩ = some (.error cause)
              ∧ cause.message = message)
      ∧ ((∀ l ∈ p.content.conditions.leaves, l.value.isFinite = true) →
        ViolationData.ofJson v.data.toJson = .ok v.data) := by
  have hleaf := (judge_violation h hv).2.2.2.2
  obtain ⟨trace, htrace, rfl⟩ := judge_eq_ok_iff.1 h
  obtain ⟨id, x, hx, rfl⟩ := Policy.exists_of_mem_violations hv
  obtain ⟨hactual, hborn⟩ := bornOut_of_evaluate htrace hx
  refine ⟨hactual, hborn, fun hfinite => ViolationData.ofJson_toJson (hfinite _ hleaf) ?_⟩
  show x.actual.isFinite = true
  rw [hactual]
  exact a.isFinite_valueOf_context x.field

/-- Condition that either there is no `industry`, or the level of `risk` is a number above zero. -/
def industryRule : Condition :=
  .or
    [.not (.leaf ⟨"industry", .isNotNull, .null⟩),
     .leaf ⟨"riskLevel", .greaterThan, .number .zero⟩]

/-- With an `industry` that is there, and a level of `risk` that is no number, one violation is
replayed to the answer that counts turned round, the other to the error that was its warning. -/
theorem judge_replay_industryRule :
    let p := Policy.initial ⟨Uuid.ofNat 1⟩ ⟨0, 0⟩ Policy.oversightRule industryRule
    let a : Assessment :=
      { Assessment.bare ⟨⟨"system", by decide⟩⟩ p.tenant with
        industry := some "health"
        riskLevel := some "high" }
    let e : Engine := ⟨.still, .default⟩
    ∃ o, e.judge ⟨Uuid.ofNat, 2⟩ ⟨0, 0⟩ a p = .ok o
      ∧ ∃ v w, o.violations = [v, w]
        ∧ v.data.field = "industry" ∧ v.data.negated = true
        ∧ v.data.replay ⟨e.limits.patterns, e.clock⟩ = some (.ok true)
        ∧ w.data.field = "riskLevel" ∧ w.data.negated = false
        ∧ (∃ cause, w.data.replay ⟨e.limits.patterns, e.clock⟩ = some (.error cause)
          ∧ w.data.warning = some cause.message)
        ∧ ViolationData.ofJson w.data.toJson = .ok w.data := by
  intro p a e
  have hjudge : (e.judge ⟨Uuid.ofNat, 2⟩ ⟨0, 0⟩ a p).map (fun o => o.violations.map fun v =>
      (v.data.field, v.data.negated, v.data.warning.isSome))
      = .ok [("industry", true, false), ("riskLevel", false, true)] := by decide +kernel
  obtain ⟨o, ho, hkinds⟩ := map_eq_ok_iff.1 hjudge
  obtain ⟨v, w, hvw⟩ : ∃ v w, o.violations = [v, w] :=
    List.length_eq_two.1 (by simpa using congrArg List.length hkinds)
  simp only [hvw, List.map_cons, List.map_nil, List.cons.injEq, Prod.mk.injEq, and_true] at hkinds
  obtain ⟨⟨hv, hvnegated, hvanswered⟩, hw, hwnegated, hwwarning⟩ := hkinds
  have hvwarning : v.data.warning = none := by simpa using hvanswered
  obtain ⟨-, hvreplay, -⟩ := judge_replay e _ _ a p o ho v (by simp [hvw])
  obtain ⟨-, hwreplay, hwread⟩ := judge_replay e _ _ a p o ho w (by simp [hvw])
  obtain ⟨message, hmessage⟩ := Option.isSome_iff_exists.1 hwwarning
  rw [hvwarning, hvnegated] at hvreplay
  rw [hmessage] at hwreplay
  obtain ⟨-, cause, hcause, rfl⟩ := hwreplay
  refine ⟨o, ho, v, w, hvw, hv, hvnegated, hvreplay, hw, hwnegated, ⟨cause, hcause, hmessage⟩,
    hwread ?_⟩
  decide

end Engine

end Governance
