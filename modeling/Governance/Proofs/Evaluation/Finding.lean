import Governance.Evaluation.Evaluator

/-!
# What a walk finds

An evaluator keeps two lists of leaves for each node and threads its warnings and its count through
the walk. Of the two lists one is always empty, and what a walk adds to the warnings and to the
count does not depend on what was there before. A `Finding` is what is left: the `truth` of a node,
the one list of `reasons`, and the node's own `warnings` and `visited` leaves. `Setting.walk` finds
it by recursion over the condition.

* `Evaluator.node_eq`: under a clock that is the same at every visit, what the evaluator does at a
  node, from any progress on, is what the walk finds there.
* `Condition.evaluate_eq`: a trace is that of the finding at the root.
-/

namespace Governance

/-- Negation of a truth; `errs` stays `errs`. -/
def Truth.flip : Truth → Truth
  | holds => fails
  | fails => holds
  | errs => errs

/-- What a `walk` over a node finds. -/
structure Finding where
  truth : Truth
  /-- The leaves responsible for the truth, from left to right. -/
  reasons : List LeafResult
  /-- A warning for each visited leaf that gave no answer, in the order of visits. -/
  warnings : List Warning
  /-- How many leaves were visited. -/
  visited : Nat

namespace Finding

def negate (f : Finding) : Finding :=
  match f.truth with
  | .errs => f
  | truth => { f with truth := truth.flip, reasons := f.reasons.map LeafResult.flip }

/-- A conjunction whose `first` child holds: the `rest` decides. -/
def conjoin (first rest : Finding) : Finding :=
  { truth := rest.truth
    reasons := if rest.truth = .holds then first.reasons ++ rest.reasons else rest.reasons
    warnings := first.warnings ++ rest.warnings
    visited := first.visited + rest.visited }

/-- A disjunction whose `first` child does not hold: the `rest` decides, but an error of the first
stays one. -/
def disjoin (first rest : Finding) : Finding :=
  { truth := if rest.truth = .fails then first.truth else rest.truth
    reasons := if rest.truth = .holds then rest.reasons else first.reasons ++ rest.reasons
    warnings := first.warnings ++ rest.warnings
    visited := first.visited + rest.visited }

/-- Finding of a conjunction of nothing. -/
def vacuous : Finding := ⟨.holds, [], [], 0⟩

/-- Finding of a disjunction of nothing. -/
def impossible : Finding := ⟨.fails, [], [], 0⟩

end Finding

namespace Setting

/-- What an answer of the leaf `l` amounts to. -/
def findingOf (s : Setting) (l : Leaf) : Except EvaluationError Bool → Finding
  | .ok true => ⟨.holds, [s.resultOf l true none], [], 1⟩
  | .ok false => ⟨.fails, [s.resultOf l false none], [], 1⟩
  | .error e =>
    ⟨.errs, [s.resultOf l false (some e.message)], [⟨l.field, l.operator, e.code, e.message⟩], 1⟩

variable [Pattern.Library]

/-- Visits the leaf `l`; a logical operator cannot be evaluated at one. -/
def visit (s : Setting) (l : Leaf) : Except FatalError Finding :=
  match l.operator.judgement? with
  | none => .error (.unhandledOperator l.operator l.field)
  | some judgement => .ok (s.findingOf l (s.answer l judgement))

/-! ### Nodes -/

mutual

/-- Walks over the node `c` at a depth, which is checked against `s.maxDepth`. -/
def walk (s : Setting) (depth : Nat) (c : Condition) : Except FatalError Finding :=
  if s.maxDepth < depth then .error (.depthExceeded s.maxDepth)
  else
    match c with
    | .leaf l => s.visit l
    | .and [] => .error (.emptyComposite .and)
    | .and (c :: cs) => walkAll s (depth + 1) (c :: cs)
    | .or [] => .error (.emptyComposite .or)
    | .or (c :: cs) => walkAny s (depth + 1) (c :: cs)
    | .not c => (walk s (depth + 1) c).map Finding.negate

/-- Walks over the children of a conjunction, up to the first that does not hold. -/
def walkAll (s : Setting) (depth : Nat) : List Condition → Except FatalError Finding
  | [] => .ok .vacuous
  | c :: cs =>
    match walk s depth c with
    | .error e => .error e
    | .ok first =>
      if first.truth = .holds then (walkAll s depth cs).map first.conjoin else .ok first

/-- Walks over the children of a disjunction, up to the first that holds. -/
def walkAny (s : Setting) (depth : Nat) : List Condition → Except FatalError Finding
  | [] => .ok .impossible
  | c :: cs =>
    match walk s depth c with
    | .error e => .error e
    | .ok first =>
      if first.truth = .holds then .ok first else (walkAny s depth cs).map first.disjoin

end

end Setting

/-! ### Findings as outcomes -/

namespace Finding

/-- The finding in two lists: its `reasons` are the `satisfying` leaves of a node that holds, and
the `failing` ones of any other. -/
def outcome (f : Finding) : NodeOutcome :=
  if f.truth = .holds then ⟨f.truth, [], f.reasons⟩ else ⟨f.truth, f.reasons, []⟩

/-- The progress after the finding, from the progress `p` on. -/
def onto (f : Finding) (p : Progress) : Progress :=
  ⟨p.warnings ++ f.warnings, p.leavesEvaluated + f.visited⟩

/-- What `f`, found for the last children of a conjunction, makes the outcome when the ones before
them hold and collected `satisfying`. -/
def outcomeOfAll (satisfying : List LeafResult) (f : Finding) : NodeOutcome :=
  if f.truth = .holds then ⟨f.truth, [], satisfying ++ f.reasons⟩ else f.outcome

/-- What `f`, found for the last children of a disjunction, makes the outcome when none of the ones
before them holds and they collected `failing` and `errored`. -/
def outcomeOfAny (failing : List LeafResult) (errored : Bool) (f : Finding) : NodeOutcome :=
  if f.truth = .holds then f.outcome
  else ⟨if errored then .errs else f.truth, failing ++ f.reasons, []⟩

/-- The trace that a walk leaves when it finds `f` at the root. -/
def trace (f : Finding) : Trace :=
  { passed := f.truth == .holds
    failingLeaves := if f.truth = .holds then [] else f.reasons
    warnings := f.warnings
    leavesEvaluated := f.visited }

theorem outcome_of_holds {f : Finding} (h : f.truth = .holds) :
    f.outcome = ⟨.holds, [], f.reasons⟩ := by
  rw [outcome, if_pos h, h]

theorem outcome_of_not_holds {f : Finding} (h : f.truth ≠ .holds) :
    f.outcome = ⟨f.truth, f.reasons, []⟩ := if_neg h

theorem truth_outcome (f : Finding) : f.outcome.truth = f.truth := by
  unfold outcome
  split <;> rfl

/-- Under `negate` the two lists of an outcome change places, as the one list of `f` is flipped. -/
theorem negate_outcome (f : Finding) : f.outcome.negate = f.negate.outcome := by
  obtain ⟨truth, reasons, warnings, visited⟩ := f
  cases truth <;> rfl

theorem onto_negate (f : Finding) (p : Progress) : f.negate.onto p = f.onto p := by
  obtain ⟨truth, reasons, warnings, visited⟩ := f
  cases truth <;> rfl

theorem onto_conjoin (first rest : Finding) (p : Progress) :
    (first.conjoin rest).onto p = rest.onto (first.onto p) := by
  simp only [onto, conjoin, List.append_assoc, Nat.add_assoc]

theorem onto_disjoin (first rest : Finding) (p : Progress) :
    (first.disjoin rest).onto p = rest.onto (first.onto p) := by
  simp only [onto, disjoin, List.append_assoc, Nat.add_assoc]

theorem onto_start (f : Finding) : f.onto .start = ⟨f.warnings, f.visited⟩ := by
  rw [onto, Progress.start, List.nil_append, Nat.zero_add]

theorem outcomeOfAll_nil (f : Finding) : f.outcomeOfAll [] = f.outcome := by
  unfold outcomeOfAll outcome
  split <;> rfl

theorem outcomeOfAny_nil (f : Finding) : f.outcomeOfAny [] false = f.outcome := by
  unfold outcomeOfAny outcome
  split <;> rfl

/-- By `conjoin` a first child that holds adds its reasons to those collected, `satisfying`. -/
theorem outcomeOfAll_conjoin {first : Finding} (h : first.truth = .holds)
    (satisfying : List LeafResult) (rest : Finding) :
    (first.conjoin rest).outcomeOfAll satisfying
      = rest.outcomeOfAll (satisfying ++ first.outcome.satisfying) := by
  rw [outcome_of_holds h]
  by_cases hrest : rest.truth = .holds
  · simp [outcomeOfAll, conjoin, hrest]
  · simp [outcomeOfAll, outcome, conjoin, hrest]

/-- By `disjoin` a first child that does not hold adds its reasons to those collected, `failing`,
and its error to `errored`. -/
theorem outcomeOfAny_disjoin {first : Finding} (h : first.truth ≠ .holds)
    (failing : List LeafResult) (errored : Bool) (rest : Finding) :
    (first.disjoin rest).outcomeOfAny failing errored
      = rest.outcomeOfAny (failing ++ first.outcome.failing)
          (errored || decide (first.truth = .errs)) := by
  rw [outcome_of_not_holds h]
  cases hrest : rest.truth <;> cases hfirst : first.truth <;> cases errored <;>
    simp_all [outcomeOfAny, outcome, disjoin]

end Finding

/-! ### The evaluator's walk -/

namespace Evaluator

/-- Every visit finds the same `clock`, so that a pattern takes the same time on the same text
whenever it is matched. -/
def Steady (e : Evaluator) (clock : Pattern.Clock) : Prop := ∀ k, e.clock k = clock

variable {e : Evaluator} {clock : Pattern.Clock}

theorem Steady.setting_eq (h : e.Steady clock) (k : Nat) :
    e.setting k = ⟨⟨e.patterns, clock⟩, e.context, e.maxDepth⟩ := by
  rw [setting, h k]

variable [Pattern.Library]

theorem leaf_eq (h : e.Steady clock) (l : Leaf) (p : Progress) :
    e.leaf l p = ((e.setting 0).visit l).map fun f => (f.outcome, f.onto p) := by
  unfold leaf Setting.visit
  rw [h.setting_eq, h.setting_eq]
  cases l.operator.judgement? with
  | none => rfl
  | some judgement =>
    simp only [Except.map]
    cases Setting.answer ⟨⟨e.patterns, clock⟩, e.context, e.maxDepth⟩ l judgement with
    | error cause => simp [Setting.findingOf, Finding.outcome, Finding.onto, Progress.counted,
        Progress.absorb]
    | ok passed =>
      cases passed <;>
        simp [Setting.findingOf, Finding.outcome, Finding.onto, Progress.counted]

/-- After a child that does not hold, `orFrom` goes on, and `errored` remembers an error. -/
theorem orFrom_cons_of_not_holds {depth : Nat} {c : Condition} {p p' : Progress}
    {outcome : NodeOutcome} (hnode : e.node depth c p = .ok (outcome, p'))
    (h : outcome.truth ≠ .holds) (failing : List LeafResult) (errored : Bool)
    (cs : List Condition) :
    e.orFrom depth failing errored (c :: cs) p
      = e.orFrom depth (failing ++ outcome.failing)
          (errored || decide (outcome.truth = .errs)) cs p' := by
  rw [orFrom, hnode]
  cases htruth : outcome.truth with
  | holds => exact absurd htruth h
  | fails => simp [htruth]
  | errs => simp [htruth]

mutual

/-- **The evaluator finds what the walk finds**, whatever the progress `p` before: `node` gives the
`outcome` of the finding, and goes from `p` on by what was found. -/
theorem node_eq (h : e.Steady clock) (depth : Nat) (c : Condition) (p : Progress) :
    e.node depth c p = ((e.setting 0).walk depth c).map fun f => (f.outcome, f.onto p) := by
  unfold node Setting.walk
  rw [show (e.setting 0).maxDepth = e.maxDepth from rfl]
  by_cases hdepth : e.maxDepth < depth
  · rw [if_pos hdepth, if_pos hdepth]
    rfl
  · rw [if_neg hdepth, if_neg hdepth]
    match c with
    | .leaf l => exact leaf_eq h l p
    | .and [] => rfl
    | .and (c :: cs) =>
      show e.andFrom (depth + 1) [] (c :: cs) p = _
      rw [andFrom_eq h]
      simp only [Finding.outcomeOfAll_nil]
    | .or [] => rfl
    | .or (c :: cs) =>
      show e.orFrom (depth + 1) [] false (c :: cs) p = _
      rw [orFrom_eq h]
      simp only [Finding.outcomeOfAny_nil]
    | .not c =>
      simp only [node_eq h (depth + 1) c p]
      cases (e.setting 0).walk (depth + 1) c with
      | error fatal => rfl
      | ok f =>
        simp only [Except.map, Finding.negate_outcome, Finding.onto_negate]

theorem andFrom_eq (h : e.Steady clock) (depth : Nat) (satisfying : List LeafResult)
    (cs : List Condition) (p : Progress) :
    e.andFrom depth satisfying cs p
      = ((e.setting 0).walkAll depth cs).map fun f => (f.outcomeOfAll satisfying, f.onto p) := by
  match cs with
  | [] => simp [andFrom, Setting.walkAll, Except.map, Finding.outcomeOfAll, Finding.vacuous,
      Finding.onto]
  | c :: cs =>
    unfold andFrom Setting.walkAll
    rw [node_eq h depth c p]
    cases (e.setting 0).walk depth c with
    | error fatal => rfl
    | ok first =>
      simp only [Except.map, Finding.truth_outcome]
      by_cases hfirst : first.truth = .holds
      · rw [if_pos hfirst, if_pos hfirst, andFrom_eq h depth _ cs]
        cases (e.setting 0).walkAll depth cs with
        | error fatal => rfl
        | ok rest =>
          simp only [Except.map, Finding.outcomeOfAll_conjoin hfirst, Finding.onto_conjoin]
      · rw [if_neg hfirst, if_neg hfirst]
        simp only [Finding.outcomeOfAll, if_neg hfirst]

theorem orFrom_eq (h : e.Steady clock) (depth : Nat) (failing : List LeafResult) (errored : Bool)
    (cs : List Condition) (p : Progress) :
    e.orFrom depth failing errored cs p
      = ((e.setting 0).walkAny depth cs).map
          fun f => (f.outcomeOfAny failing errored, f.onto p) := by
  match cs with
  | [] => simp [orFrom, Setting.walkAny, Except.map, Finding.outcomeOfAny, Finding.impossible,
      Finding.onto]
  | c :: cs =>
    have hnode := node_eq h depth c p
    unfold Setting.walkAny
    cases hwalk : (e.setting 0).walk depth c with
    | error fatal =>
      rw [hwalk] at hnode
      rw [orFrom, hnode]
      rfl
    | ok first =>
      rw [hwalk] at hnode
      by_cases hfirst : first.truth = .holds
      · rw [orFrom, hnode]
        simp only [Except.map, Finding.truth_outcome, hfirst, if_true, Finding.outcomeOfAny]
      · have hgoes : first.outcome.truth ≠ .holds := by rwa [Finding.truth_outcome]
        rw [orFrom_cons_of_not_holds hnode hgoes, orFrom_eq h depth _ _ cs]
        simp only [if_neg hfirst]
        cases (e.setting 0).walkAny depth cs with
        | error fatal => rfl
        | ok rest =>
          simp only [Except.map, Finding.truth_outcome, Finding.outcomeOfAny_disjoin hfirst,
            Finding.onto_disjoin]

end

/-- Under a steady clock `run` leaves the trace of what the `walk` finds at the root. -/
theorem run_eq (h : e.Steady clock) (c : Condition) :
    e.run c = ((e.setting 0).walk 1 c).map Finding.trace := by
  unfold run
  rw [node_eq h]
  cases (e.setting 0).walk 1 c with
  | error fatal => rfl
  | ok f =>
    by_cases hf : f.truth = .holds
    · simp [Except.map, Finding.outcome, Finding.trace, hf, Finding.onto_start]
    · simp [Except.map, Finding.outcome, Finding.trace, hf, Finding.onto_start]

end Evaluator

/-- The setting in which a condition is evaluated under `limits`. -/
def EvaluationLimits.setting (limits : EvaluationLimits) (clock : Pattern.Clock)
    (context : Context) : Setting :=
  ⟨⟨limits.patterns, clock⟩, context, limits.maxDepth⟩

variable [Pattern.Library]

/-- **A trace is that of the finding at the root**: `evaluate` is the `walk` from depth one, with
`Finding.trace` after it. -/
theorem Condition.evaluate_eq (clock : Pattern.Clock) (limits : EvaluationLimits)
    (context : Context) (c : Condition) :
    c.evaluate clock limits context
      = ((limits.setting clock context).walk 1 c).map Finding.trace :=
  Evaluator.run_eq (e := ⟨context, limits.patterns, fun _ => clock, limits.maxDepth⟩)
    (fun _ => rfl) c

end Governance
