import Governance.Proofs.Evaluation.Algebra
import Governance.Proofs.Evaluation.Errors
import Governance.Pattern.Program

/-!
# Rewriting conditions

Some ways of writing a condition differ in nothing that an evaluation shows: neither in the trace,
whether leaves err or not, nor in why there is none.

* `evaluate_not_not`: a double negation.
* `walk_eq_of_exchanged`: what may be exchanged on its own may be exchanged anywhere.
* `evaluate_eq_of_flattening`: a conjunction in a conjunction, a disjunction in a disjunction, and a
  combination of one child.

The conditions have to fit the limit on depth: one that does not fit may be refused for a node that
the other does not have.
-/

namespace Governance

namespace Condition

/-! ### Double negations -/

/-- **Double negations do not show.** With room for it, `.not (.not c)` evaluates as `c` does,
well-formed or not: to the same trace, or to the same error. One `clock` serves every visit
(`Evaluator.Steady`). -/
theorem evaluate_not_not [Pattern.Library] (clock : Pattern.Clock) (limits : EvaluationLimits)
    (context : Context) (c : Condition) (hd : c.depth + 2 ≤ limits.maxDepth) :
    (Condition.not (.not c)).evaluate clock limits context = c.evaluate clock limits context := by
  have hmax : (limits.setting clock context).maxDepth = limits.maxDepth := rfl
  have hwalk : (limits.setting clock context).walk 1 (.not (.not c))
      = (limits.setting clock context).walk 1 c := by
    rw [Setting.walk_not (by omega), Setting.walk_not (by omega), Finding.map_negate_map_negate]
    exact Setting.walk_eq_of_room (by omega) (by omega)
  rw [evaluate_eq, evaluate_eq, hwalk]

/-- A `risk` that is no number leaves its warning under two negations, too. -/
theorem evaluate_not_not_releaseRule :
    let context := Context.empty.insert "risk" (.text "high")
    releaseRule.depth + 2 ≤ EvaluationLimits.default.maxDepth
    ∧ ∃ t, releaseRule.evaluate .still .default context = .ok t
      ∧ t.passed = false ∧ t.warnings.map Warning.code = ["NOT_NUMERIC"] ∧ t.leavesEvaluated = 2
      ∧ (Condition.not (.not releaseRule)).evaluate .still .default context = .ok t := by
  intro context
  have hd : releaseRule.depth + 2 ≤ EvaluationLimits.default.maxDepth := by decide
  obtain ⟨t, ht⟩ : ∃ t, releaseRule.evaluate .still .default context = .ok t := ⟨_, rfl⟩
  have htrace : t.passed = false ∧ t.warnings.map Warning.code = ["NOT_NUMERIC"]
      ∧ t.leavesEvaluated = 2 := by
    obtain rfl := Except.ok.inj ht
    exact ⟨rfl, rfl, rfl⟩
  exact ⟨hd, t, ht, htrace.1, htrace.2.1, htrace.2.2,
    (evaluate_not_not .still .default context releaseRule hd).trans ht⟩

/-! ### Exchanging a part -/

/-- Written `Exchanged R c d`: `d` is `c` with one part, at any place in it, exchanged for a part
that `R` relates to it. -/
inductive Exchanged (R : Condition → Condition → Prop) : Condition → Condition → Prop
  | here {c d : Condition} (h : R c d) : Exchanged R c d
  | insideAnd {c d : Condition} (before after : List Condition) (h : Exchanged R c d) :
      Exchanged R (.and (before ++ c :: after)) (.and (before ++ d :: after))
  | insideOr {c d : Condition} (before after : List Condition) (h : Exchanged R c d) :
      Exchanged R (.or (before ++ c :: after)) (.or (before ++ d :: after))
  | insideNot {c d : Condition} (h : Exchanged R c d) : Exchanged R (.not c) (.not d)

/-- If `R` makes no part deeper, then `d.depth` is at most `c.depth`. -/
theorem Exchanged.depth_le {R : Condition → Condition → Prop}
    (hR : ∀ c d, R c d → d.depth ≤ c.depth) {c d : Condition} (h : Exchanged R c d) :
    d.depth ≤ c.depth := by
  induction h with
  | here h => exact hR _ _ h
  | insideAnd before after _ ih =>
    simp only [depth, depthAll_append, depthAll]
    omega
  | insideOr before after _ ih =>
    simp only [depth, depthAll_append, depthAll]
    omega
  | insideNot _ ih =>
    simp only [depth]
    omega

end Condition

namespace Setting

open Condition

/-- **Exchange.** Let `R` relate only parts that are walked over alike wherever there is room for
both. Then so are `c` and `d` that differ in such a part, wherever it stands. -/
theorem walk_eq_of_exchanged [Pattern.Library] {s : Setting} {R : Condition → Condition → Prop}
    (hR : ∀ c d depth, R c d → depth + c.depth ≤ s.maxDepth + 1 →
      depth + d.depth ≤ s.maxDepth + 1 → s.walk depth c = s.walk depth d)
    {c d : Condition} (h : Exchanged R c d) {depth : Nat} (hc : depth + c.depth ≤ s.maxDepth + 1)
    (hd : depth + d.depth ≤ s.maxDepth + 1) : s.walk depth c = s.walk depth d := by
  induction h generalizing depth with
  | here h => exact hR _ _ _ h hc hd
  | insideAnd before after _ ih =>
    have hle := depth_le_of_room hc
    simp only [Condition.depth, depthAll_append, depthAll] at hc hd
    rw [walk_and hle (by simp), walk_and hle (by simp), walkAll_eq, walkAll_eq, List.map_append,
      List.map_append, List.map_cons, List.map_cons, ih (by omega) (by omega)]
  | insideOr before after _ ih =>
    have hle := depth_le_of_room hc
    simp only [Condition.depth, depthAll_append, depthAll] at hc hd
    rw [walk_or hle (by simp), walk_or hle (by simp), walkAny_eq, walkAny_eq, List.map_append,
      List.map_append, List.map_cons, List.map_cons, ih (by omega) (by omega)]
  | insideNot _ ih =>
    have hle := depth_le_of_room hc
    simp only [Condition.depth] at hc hd
    rw [walk_not hle, walk_not hle, ih (by omega) (by omega)]

end Setting

namespace Condition

/-! ### Flattening -/

/-- Written `Flattening c d`: `d` is `c` without a combination at its root or right below that
groups children to no effect. -/
inductive Flattening : Condition → Condition → Prop
  | nestedAnd (before inner after : List Condition) (h : inner ≠ []) :
      Flattening (.and (before ++ .and inner :: after)) (.and (before ++ inner ++ after))
  | nestedOr (before inner after : List Condition) (h : inner ≠ []) :
      Flattening (.or (before ++ .or inner :: after)) (.or (before ++ inner ++ after))
  | onlyAnd (c : Condition) : Flattening (.and [c]) c
  | onlyOr (c : Condition) : Flattening (.or [c]) c

theorem Flattening.depth_le {c d : Condition} (h : Flattening c d) : d.depth ≤ c.depth := by
  cases h with
  | nestedAnd before inner after _ =>
    simp only [depth, depthAll_append, depthAll]
    omega
  | nestedOr before inner after _ =>
    simp only [depth, depthAll_append, depthAll]
    omega
  | onlyAnd c =>
    simp only [depth, depthAll]
    omega
  | onlyOr c =>
    simp only [depth, depthAll]
    omega

end Condition

namespace Setting

open Condition

/-- The `walk` over a nested combination is the same part of a longer fold, so `Flattening` leaves
it alone. -/
theorem walk_eq_of_flattening [Pattern.Library] {s : Setting} {c d : Condition} {depth : Nat}
    (h : Flattening c d) (hc : depth + c.depth ≤ s.maxDepth + 1) :
    s.walk depth c = s.walk depth d := by
  have hle := depth_le_of_room hc
  cases h with
  | nestedAnd before inner after hne =>
    simp only [Condition.depth, depthAll_append, depthAll] at hc
    have hinner : s.walk (depth + 1) (.and inner)
        = Finding.meets (inner.map (s.walk (depth + 1))) := by
      rw [walk_and (by omega) hne, walkAll_eq]
      exact congrArg _ (map_walk_eq_of_room (by omega) (by omega))
    rw [walk_and hle (by simp), walk_and hle (by simp [hne]), walkAll_eq, walkAll_eq,
      List.map_append, List.map_cons, hinner, List.map_append, List.map_append]
    exact foldr_nested _ _ _
  | nestedOr before inner after hne =>
    simp only [Condition.depth, depthAll_append, depthAll] at hc
    have hinner : s.walk (depth + 1) (.or inner)
        = Finding.joins (inner.map (s.walk (depth + 1))) := by
      rw [walk_or (by omega) hne, walkAny_eq]
      exact congrArg _ (map_walk_eq_of_room (by omega) (by omega))
    rw [walk_or hle (by simp), walk_or hle (by simp [hne]), walkAny_eq, walkAny_eq,
      List.map_append, List.map_cons, hinner, List.map_append, List.map_append]
    exact foldr_nested _ _ _
  | onlyAnd =>
    simp only [Condition.depth, depthAll] at hc
    rw [walk_and hle (by simp), walkAll_eq]
    exact (Finding.meet_vacuous _).trans (walk_eq_of_room (by omega) (by omega))
  | onlyOr =>
    simp only [Condition.depth, depthAll] at hc
    rw [walk_or hle (by simp), walkAny_eq]
    exact (Finding.join_impossible _).trans (walk_eq_of_room (by omega) (by omega))

end Setting

namespace Condition

/-- **Flattening does not show.** If `d` is `c` with some combination, at any place, flattened, then
`d` evaluates as `c` does: to the same trace, or to the same error. One `clock` serves every visit
(`Evaluator.Steady`). -/
theorem evaluate_eq_of_flattening [Pattern.Library] (clock : Pattern.Clock)
    (limits : EvaluationLimits) (context : Context) {c d : Condition}
    (h : Exchanged Flattening c d) (hc : c.depth ≤ limits.maxDepth) :
    d.evaluate clock limits context = c.evaluate clock limits context := by
  have hmax : (limits.setting clock context).maxDepth = limits.maxDepth := rfl
  have hd := h.depth_le fun _ _ => Flattening.depth_le
  have hwalk : (limits.setting clock context).walk 1 c
      = (limits.setting clock context).walk 1 d :=
    Setting.walk_eq_of_exchanged (fun _ _ _ hR hroom _ => Setting.walk_eq_of_flattening hR hroom) h
      (by omega) (by omega)
  rw [evaluate_eq, evaluate_eq, hwalk]

/-- Condition against a `draft` and an overseen high `risk`, with the latter in one group or in
two. -/
def groupedRule : Condition :=
  .not
    (.or
      [.and
        [.leaf ⟨"oversight", .isTrue, .null⟩,
         .and [.leaf ⟨"risk", .greaterThan, .number .zero⟩, .leaf ⟨"final", .isTrue, .null⟩]],
       .leaf ⟨"draft", .isTrue, .null⟩])

def ungroupedRule : Condition :=
  .not
    (.or
      [.and
        [.leaf ⟨"oversight", .isTrue, .null⟩, .leaf ⟨"risk", .greaterThan, .number .zero⟩,
         .leaf ⟨"final", .isTrue, .null⟩],
       .leaf ⟨"draft", .isTrue, .null⟩])

/-- The inner conjunction stops at a `risk` that is no number, and so does the one without it. -/
theorem evaluate_eq_of_flattening_groupedRule :
    let context :=
      (Context.empty.insert "oversight" (.bool true)).insert "risk" (.text "high")
    Exchanged Flattening groupedRule ungroupedRule
    ∧ groupedRule.depth ≤ EvaluationLimits.default.maxDepth
    ∧ ∃ t, groupedRule.evaluate .still .default context = .ok t
      ∧ t.passed = false ∧ t.warnings.length = 1 ∧ t.leavesEvaluated = 3
      ∧ ungroupedRule.evaluate .still .default context = .ok t := by
  intro context
  have h : Exchanged Flattening groupedRule ungroupedRule :=
    .insideNot (.insideOr [] _ (.here (.nestedAnd [_] [_, _] [] (by simp))))
  have hd : groupedRule.depth ≤ EvaluationLimits.default.maxDepth := by decide
  obtain ⟨t, ht⟩ : ∃ t, groupedRule.evaluate .still .default context = .ok t := ⟨_, rfl⟩
  have htrace : t.passed = false ∧ t.warnings.length = 1 ∧ t.leavesEvaluated = 3 := by
    obtain rfl := Except.ok.inj ht
    exact ⟨rfl, rfl, rfl⟩
  exact ⟨h, hd, t, ht, htrace.1, htrace.2.1, htrace.2.2,
    (evaluate_eq_of_flattening .still .default context h hd).trans ht⟩

end Condition

end Governance
