import Governance.Proofs.Condition.Equality
import Governance.Proofs.Violation.Replay
import Governance.Pattern.Program

/-!
# One violation for each leaf that failed

Of the results with one field, one operator, one operand and one negation, a violation is opened for
the first. Operands are compared by value, so a leaf may be dropped though its operand is the other
zero. Nothing is lost by it: all results of one key tell one value, that of their field, and give
one error or none, since an operator that errs with an operand errs alike with an equal one.

* `distinct_eq_firsts`: what the loop keeps is what no earlier result shares its key with.
* `countP_distinct`: every key is kept once.
* `error_of_beq`: an operator errs alike with operands that are equal.
* `tells_alike`: in one evaluation, results of one key tell one value and one error.
* `violations_lossless`: the violations of a trace, and what each failing leaf finds among them.
-/

namespace Governance

open Number

/-! ### Equal operands -/

/-- When the operand `x` is finite, `ordering` errs over the value `a` of the field only. -/
theorem ordering_eq_error_iff {op : Operator} {holds : Binary64 → Binary64 → Bool} {a : FieldValue}
    {x : Binary64} (hx : x.isFinite = true) {e : EvaluationError} :
    ordering op holds a (.number x) = .error e ↔
      a.asNumber = none ∧ EvaluationError.notNumeric op .context a.kind a.display = e := by
  have hnumber : (FieldValue.number x).asNumber = some x := if_pos hx
  unfold ordering numericPair
  cases a.asNumber <;> simp [hnumber, Except.map]

/-- **Equal operands fail alike**: if `v == w`, a `judgement` that errs with `v` errs with `w`. The
sign of zero is of no account for whether there is an answer, even where it is for what the answer
is. -/
theorem Operator.error_of_beq [Pattern.Library] {op : Operator} {judgement : Judgement}
    (hjudgement : op.judgement? = some judgement) {env : Surroundings} {a v w : FieldValue}
    (hv : v.isFinite = true) (hw : w.isFinite = true) (hvw : (v == w) = true)
    {e : EvaluationError} (h : judgement env a v = .error e) : judgement env a w = .error e := by
  rcases FieldValue.eq_or_numbers_of_beq hvw with rfl | ⟨x, y, rfl, rfl, -⟩
  · exact h
  have hordering {op : Operator} {holds : Binary64 → Binary64 → Bool}
      (h : ordering op holds a (.number x) = .error e) :
      ordering op holds a (.number y) = .error e :=
    (ordering_eq_error_iff hw).2 ((ordering_eq_error_iff hv).1 h)
  cases op
  case and | or | not => exact absurd hjudgement (by simp [judgement?])
  all_goals obtain rfl := Option.some.inj hjudgement
  case greaterThan | lessThan | greaterThanOrEqual | lessThanOrEqual => exact hordering h
  case regexMatch => exact h
  all_goals exact absurd h (by simp)

/-! ### Keys -/

/-- What a violation with the data `d` is known by. -/
def ViolationData.key (d : ViolationData) : String × Operator × FieldValue × Bool :=
  (d.field, d.operator, d.expected, d.negated)

namespace LeafResult

/-- What the result `r` is known by: its leaf and whether the answer counts turned round. -/
def key (r : LeafResult) : String × Operator × FieldValue × Bool :=
  (r.field, r.operator, r.expected, r.negated)

variable {r s q : LeafResult}

theorem sameLeaf_eq (r s : LeafResult) : r.sameLeaf s = (r.key == s.key) := by
  simp only [sameLeaf, Bool.and_assoc]
  rfl

theorem sameLeaf_iff : r.sameLeaf s = true ↔
    r.field = s.field ∧ r.operator = s.operator ∧ (r.expected == s.expected) = true
      ∧ r.negated = s.negated := by
  simp [sameLeaf, and_assoc]

theorem sameLeaf_self (h : r.expected.isFinite = true) : r.sameLeaf r = true :=
  sameLeaf_iff.2 ⟨rfl, rfl, FieldValue.beq_self h, rfl⟩

theorem sameLeaf_symm (h : r.sameLeaf s = true) : s.sameLeaf r = true := by
  obtain ⟨hfield, hoperator, hexpected, hnegated⟩ := sameLeaf_iff.1 h
  exact sameLeaf_iff.2
    ⟨hfield.symm, hoperator.symm, FieldValue.beq_symm hexpected, hnegated.symm⟩

theorem sameLeaf_trans (h : r.sameLeaf s = true) (h' : s.sameLeaf q = true) :
    r.sameLeaf q = true := by
  obtain ⟨hfield, hoperator, hexpected, hnegated⟩ := sameLeaf_iff.1 h
  obtain ⟨hfield', hoperator', hexpected', hnegated'⟩ := sameLeaf_iff.1 h'
  exact sameLeaf_iff.2 ⟨hfield.trans hfield', hoperator.trans hoperator',
    FieldValue.beq_trans hexpected hexpected', hnegated.trans hnegated'⟩

theorem sameLeaf_comm (r s : LeafResult) : r.sameLeaf s = s.sameLeaf r :=
  Bool.eq_iff_iff.2 ⟨sameLeaf_symm, sameLeaf_symm⟩

/-! ### The loop over the results -/

/-- Those of `results` whose key none before them has, in their order. -/
def firsts (results : List LeafResult) : List LeafResult :=
  (results.zipIdx.filter fun x => !(results.take x.2).any fun s => x.1.key == s.key).map Prod.fst

/-- The loop `distinctAfter` remembers in `seen` what it has kept. As far as keys go, that is all it
has passed. -/
theorem distinctAfter_eq {seen before rest : List LeafResult}
    (h : ∀ q : LeafResult, seen.any q.sameLeaf = before.any q.sameLeaf) :
    distinctAfter seen rest
      = ((rest.zipIdx before.length).filter
          fun x => !((before ++ rest).take x.2).any x.1.sameLeaf).map Prod.fst := by
  induction rest generalizing seen before with
  | nil => rfl
  | cons r rest ih =>
    have hsplit : before ++ r :: rest = (before ++ [r]) ++ rest := by simp
    have hpassed : (before ++ r :: rest).take before.length = before := List.take_left' rfl
    rw [List.zipIdx_cons, List.filter_cons, hpassed, distinctAfter, h r]
    cases hany : before.any r.sameLeaf with
    | true =>
      obtain ⟨s, hs, hrs⟩ := List.any_eq_true.1 hany
      have hseen (q : LeafResult) : seen.any q.sameLeaf = (before ++ [r]).any q.sameLeaf := by
        rw [h q, List.any_append, List.any_cons, List.any_nil, Bool.or_false]
        cases hqr : q.sameLeaf r with
        | false => rw [Bool.or_false]
        | true => rw [Bool.or_true, List.any_eq_true.2 ⟨s, hs, sameLeaf_trans hqr hrs⟩]
      rw [if_pos rfl, if_neg (by simp), ih hseen, hsplit, List.length_append, List.length_singleton]
    | false =>
      have hseen (q : LeafResult) :
          (r :: seen).any q.sameLeaf = (before ++ [r]).any q.sameLeaf := by
        rw [List.any_cons, h q, List.any_append, List.any_cons, List.any_nil, Bool.or_false,
          Bool.or_comm]
      rw [if_neg (by simp), if_pos (by simp), List.map_cons, ih hseen, hsplit, List.length_append,
        List.length_singleton]

/-- **What is kept is what comes first**: `distinct` is `firsts`. -/
theorem distinct_eq_firsts (results : List LeafResult) : distinct results = firsts results := by
  have hloop : distinct results = _ := @distinctAfter_eq [] [] results fun _ => rfl
  rw [hloop, firsts]
  simp only [List.length_nil, List.nil_append]
  congr! 3 with x
  exact congrArg (fun test => !(results.take x.2).any test) (funext (sameLeaf_eq x.1))

theorem any_sameLeaf_of_mem_distinctAfter {seen results : List LeafResult}
    (h : r ∈ distinctAfter seen results) : seen.any r.sameLeaf = false := by
  induction results generalizing seen with
  | nil => exact absurd h List.not_mem_nil
  | cons first rest ih =>
    unfold distinctAfter at h
    split at h
    · exact ih h
    · next hnew =>
      rcases List.mem_cons.1 h with rfl | hrest
      · exact Bool.eq_false_iff.2 hnew
      · have hseen := ih hrest
        rw [List.any_cons, Bool.or_eq_false_iff] at hseen
        exact hseen.2

/-- No key is kept twice by `distinctAfter`. -/
theorem pairwise_distinctAfter (seen results : List LeafResult) :
    (distinctAfter seen results).Pairwise fun r s => r.sameLeaf s = false := by
  induction results generalizing seen with
  | nil => exact .nil
  | cons first rest ih =>
    unfold distinctAfter
    split
    · exact ih seen
    · refine .cons (fun s hs => ?_) (ih (first :: seen))
      have hseen := any_sameLeaf_of_mem_distinctAfter hs
      rw [List.any_cons, Bool.or_eq_false_iff] at hseen
      rw [sameLeaf_comm]
      exact hseen.1

/-- No key is missed by `distinctAfter`. -/
theorem any_sameLeaf_of_mem {seen results : List LeafResult} (h : r ∈ results)
    (hself : r.sameLeaf r = true) :
    seen.any r.sameLeaf = true ∨ (distinctAfter seen results).any r.sameLeaf = true := by
  induction results generalizing seen with
  | nil => exact absurd h List.not_mem_nil
  | cons first rest ih =>
    unfold distinctAfter
    split
    · next hold =>
      rcases List.mem_cons.1 h with rfl | hrest
      · exact .inl hold
      · exact ih hrest
    · rw [List.any_cons, Bool.or_eq_true]
      rcases List.mem_cons.1 h with rfl | hrest
      · exact .inr (.inl hself)
      · rcases @ih (first :: seen) hrest with hseen | hkept
        · rw [List.any_cons, Bool.or_eq_true] at hseen
          exact hseen.elim (fun hfirst => .inr (.inl hfirst)) .inl
        · exact .inr (.inr hkept)

theorem countP_of_pairwise {results : List LeafResult}
    (h : results.Pairwise fun r s => r.sameLeaf s = false) (hany : results.any r.sameLeaf = true) :
    results.countP (·.sameLeaf r) = 1 := by
  induction results with
  | nil => exact absurd hany (by simp)
  | cons first rest ih =>
    obtain ⟨hfirst, hrest⟩ := List.pairwise_cons.1 h
    rw [List.countP_cons]
    cases hsame : first.sameLeaf r with
    | true =>
      have hnone : rest.countP (·.sameLeaf r) = 0 := List.countP_eq_zero.2 fun s hs hsr =>
        Bool.eq_false_iff.1 (hfirst s hs) (sameLeaf_trans hsame (sameLeaf_symm hsr))
      rw [hnone, if_pos rfl]
    | false =>
      rw [List.any_cons, sameLeaf_comm, hsame, Bool.false_or] at hany
      rw [ih hrest hany, if_neg (by simp)]

/-- **Every key is kept once** by `distinct`. -/
theorem countP_distinct {results : List LeafResult} (h : r ∈ results)
    (hfinite : r.expected.isFinite = true) : (distinct results).countP (·.sameLeaf r) = 1 :=
  countP_of_pairwise (pairwise_distinctAfter [] results)
    ((any_sameLeaf_of_mem h (sameLeaf_self hfinite)).resolve_left (by simp))

/-! ### Results of one evaluation -/

/-- Results `r` and `s` of one key, with the same `actual`, err alike on `replay`. -/
theorem replay_error_of_sameLeaf [Pattern.Library] {env : Surroundings}
    (hsame : r.sameLeaf s = true) (hactual : r.actual = s.actual)
    (hr : r.expected.isFinite = true) (hs : s.expected.isFinite = true) {e : EvaluationError}
    (h : r.violationData.replay env = some (.error e)) :
    s.violationData.replay env = some (.error e) := by
  obtain ⟨-, hoperator, hexpected, -⟩ := sameLeaf_iff.1 hsame
  unfold ViolationData.replay violationData at h ⊢
  obtain ⟨judgement, hjudgement, herror⟩ := Option.map_eq_some_iff.1 h
  refine Option.map_eq_some_iff.2 ⟨judgement, hoperator ▸ hjudgement, ?_⟩
  simp only [← hoperator, ← hactual]
  split at herror
  · exact absurd herror nofun
  · next hasked =>
    rw [if_neg hasked]
    exact Operator.error_of_beq hjudgement hr hs hexpected herror

/-- What is `BornOut` has an error exactly if its `replay` has. -/
theorem error_eq_of_bornOut [Pattern.Library] {env : Surroundings} (hsame : r.sameLeaf s = true)
    (hactual : r.actual = s.actual) (hr : r.expected.isFinite = true)
    (hs : s.expected.isFinite = true) (hrborn : r.violationData.BornOut env)
    (hsborn : s.violationData.BornOut env) {message : String} (h : r.error = some message) :
    s.error = some message := by
  have hwarning : r.violationData.warning = some message := h
  rw [ViolationData.BornOut, hwarning] at hrborn
  obtain ⟨-, e, hreplay, rfl⟩ := hrborn
  have hreplay' := replay_error_of_sameLeaf hsame hactual hr hs hreplay
  unfold ViolationData.BornOut at hsborn
  split at hsborn
  · rw [hreplay'] at hsborn
    exact absurd hsborn (by simp)
  · next message hmessage =>
    obtain ⟨-, e', he', rfl⟩ := hsborn
    rw [hreplay'] at he'
    obtain rfl : e = e' := by simpa using he'
    exact hmessage

end LeafResult

/-- **In one evaluation results of one key tell one value and one error**: `r` and `s`, both in
`t.failingLeaves`, agree on `actual` and `error`. -/
theorem tells_alike [Pattern.Library] {clock : Pattern.Clock} {limits : EvaluationLimits}
    {context : Context} {c : Condition} {t : Trace} (h : c.evaluate clock limits context = .ok t)
    (hfinite : c.FiniteOperands) {r s : LeafResult} (hr : r ∈ t.failingLeaves)
    (hs : s ∈ t.failingLeaves) (hsame : r.sameLeaf s = true) :
    r.actual = s.actual ∧ r.error = s.error := by
  obtain ⟨hractual, hrborn⟩ := bornOut_of_evaluate h hr
  obtain ⟨hsactual, hsborn⟩ := bornOut_of_evaluate h hs
  have hrfinite : r.expected.isFinite = true := hfinite _ (leaf_mem_of_evaluate h hr)
  have hsfinite : s.expected.isFinite = true := hfinite _ (leaf_mem_of_evaluate h hs)
  have hactual : r.actual = s.actual := by
    rw [hractual, hsactual, (LeafResult.sameLeaf_iff.1 hsame).1]
  refine ⟨hactual, Option.ext fun message => ⟨fun h => ?_, fun h => ?_⟩⟩
  · exact LeafResult.error_eq_of_bornOut hsame hactual hrfinite hsfinite hrborn hsborn h
  · exact LeafResult.error_eq_of_bornOut (LeafResult.sameLeaf_symm hsame) hactual.symm hsfinite
      hrfinite hsborn hrborn h

namespace Policy

theorem map_data_openAll (p : Policy) (assessmentId : AssessmentId) (now : Timestamp)
    (ids : IdSource) (results : List LeafResult) :
    (p.openAll assessmentId now ids results).map Violation.data
      = results.map LeafResult.violationData := by
  induction results generalizing ids with
  | nil => rfl
  | cons r rest ih =>
    rw [openAll, List.map_cons, ih]
    rfl

/-- **Violations lose nothing of what failed.** Let conditions with finite operands leave `trace`,
and let `vs` be the violations of the policy for it. No two of `vs` have one `key`. They stand in
the order in which the keys come first among `trace.failingLeaves`, and each keeps what the first
result of its key says. For every leaf `r` that failed there is one violation of its key, and it
tells the very value and the very error, or that there was none, that `r` tells. And there is no
violation but of a leaf that failed. One `clock` serves every visit (`Evaluator.Steady`). -/
theorem violations_lossless [Pattern.Library] (p : Policy) (clock : Pattern.Clock)
    (limits : EvaluationLimits) (context : Context) (assessmentId : AssessmentId)
    (now : Timestamp) (ids : IdSource) (trace : Trace)
    (hfinite : p.content.conditions.FiniteOperands)
    (htrace : p.content.conditions.evaluate clock limits context = .ok trace) :
    let vs := p.violations assessmentId now ids trace
    vs.Pairwise (fun v w => (v.data.key == w.data.key) = false)
      ∧ vs.map Violation.data = (LeafResult.firsts trace.failingLeaves).map LeafResult.violationData
      ∧ (∀ r ∈ trace.failingLeaves,
        vs.countP (fun v => v.data.key == r.key) = 1
          ∧ ∀ v ∈ vs, (v.data.key == r.key) = true →
            v.data.actual = r.actual ∧ v.data.warning = r.error)
      ∧ ∀ v ∈ vs, ∃ r ∈ trace.failingLeaves, v.data = r.violationData := by
  intro vs
  have hdata : vs.map Violation.data
      = (LeafResult.distinct trace.failingLeaves).map LeafResult.violationData := by
    rw [← violatedLeaves_of_evaluate htrace]
    exact p.map_data_openAll assessmentId now ids (violatedLeaves trace)
  have hkept : ∀ v ∈ vs, ∃ r ∈ trace.failingLeaves, v.data = r.violationData := fun v hv => by
    obtain ⟨id, r, hr, rfl⟩ := exists_of_mem_violations hv
    exact ⟨r, hr, rfl⟩
  refine ⟨?_, LeafResult.distinct_eq_firsts _ ▸ hdata, fun r hr => ⟨?_, fun v hv hkey => ?_⟩, hkept⟩
  · have hpairwise : ((LeafResult.distinct trace.failingLeaves).map
        LeafResult.violationData).Pairwise fun d e => (d.key == e.key) = false :=
      List.pairwise_map.2 ((LeafResult.pairwise_distinctAfter [] _).imp fun {r s} hrs =>
        (LeafResult.sameLeaf_eq r s).symm.trans hrs)
    rw [← hdata] at hpairwise
    exact List.pairwise_map.1 hpairwise
  · have hcount := LeafResult.countP_distinct hr (hfinite _ (leaf_mem_of_evaluate htrace hr))
    have hkeys : (vs.map Violation.data).countP (fun d => d.key == r.key) = 1 := by
      rw [hdata, List.countP_map, ← hcount]
      exact List.countP_congr fun s _ => by rw [LeafResult.sameLeaf_eq]; rfl
    rwa [List.countP_map] at hkeys
  · obtain ⟨s, hs, hv⟩ := hkept v hv
    rw [hv] at hkey ⊢
    exact tells_alike htrace hfinite hs hr ((LeafResult.sameLeaf_eq s r).trans hkey)

/-- Condition that the level of `risk` is above either zero, or there is no `industry`, which is
said twice. -/
def zerosRule : Condition :=
  .or
    [.leaf ⟨"riskLevel", .greaterThan, .number .zero⟩,
     .not (.leaf ⟨"industry", .isNotNull, .null⟩),
     .leaf ⟨"riskLevel", .greaterThan, .number (.finite true 0 Binary64.representable_zero)⟩,
     .not (.leaf ⟨"industry", .isNotNull, .null⟩)]

/-- A level of `risk` that is no number, and an `industry`: four leaves fail, two of them with an
error, and two violations tell all of it. -/
theorem violations_lossless_zerosRule :
    let p := initial ⟨Uuid.ofNat 1⟩ ⟨0, 0⟩ oversightRule zerosRule
    let a : Assessment :=
      { Assessment.bare ⟨⟨"system", by decide⟩⟩ p.tenant with
        industry := some "health"
        riskLevel := some "high" }
    p.content.conditions.FiniteOperands
      ∧ ∃ trace, p.content.conditions.evaluate .still .default a.context = .ok trace
        ∧ trace.passed = false ∧ trace.failingLeaves.length = 4
        ∧ let vs := p.violations a.id ⟨0, 0⟩ ⟨Uuid.ofNat, 2⟩ trace
          vs.map (fun v => v.data.field) = ["riskLevel", "industry"]
            ∧ ∀ r ∈ trace.failingLeaves,
              vs.countP (fun v => v.data.key == r.key) = 1
                ∧ ∀ v ∈ vs, (v.data.key == r.key) = true →
                  v.data.actual = r.actual ∧ v.data.warning = r.error := by
  intro p a
  have hfinite : p.content.conditions.FiniteOperands := by
    unfold Condition.FiniteOperands
    decide
  have hevaluate : (p.content.conditions.evaluate .still .default a.context).map (fun t =>
      (t.passed, t.failingLeaves.length,
        (p.violations a.id ⟨0, 0⟩ ⟨Uuid.ofNat, 2⟩ t).map fun v => v.data.field))
      = .ok (false, 4, ["riskLevel", "industry"]) := by decide +kernel
  obtain ⟨trace, htrace, hfound⟩ := map_eq_ok_iff.1 hevaluate
  simp only [Prod.mk.injEq] at hfound
  obtain ⟨hfails, hleaves, hfields⟩ := hfound
  obtain ⟨-, -, honce, -⟩ := violations_lossless p .still .default a.context a.id ⟨0, 0⟩
    ⟨Uuid.ofNat, 2⟩ trace hfinite htrace
  exact ⟨hfinite, trace, htrace, hfails, hleaves, hfields, honce⟩

end Policy

end Governance
