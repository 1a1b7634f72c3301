import Governance.Proofs.Evaluation.Walk
import Governance.Pattern.Program

/-!
# Errors and classical truth

What an evaluation says about a condition some of whose leaves give no answer.

* `evaluate_passed_mono`: answers in the place of errors never turn a condition that holds into one
  that does not, and leave alone every node that had not erred.
* `evaluate_passed_eq_value`: an evaluation without warnings gives the classical value of the
  condition, whatever the leaves are taken to say that would have erred; without negations it does
  so with every erring leaf taken to fail, and then the order of children makes no difference.

Both come from the truth in three values that a walk finds: it is monotone, and it lies below the
classical value.
-/

namespace Governance

theorem Finding.passed_trace_iff {f : Finding} : f.trace.passed = true ↔ f.truth = .holds :=
  beq_iff_eq

namespace Setting

section Library

variable [Pattern.Library]

/-- If every leaf says at least as much in `s` as in `s'`, then `f` says at least as much as
`f'`. -/
theorem walk_truth_mono {s s' : Setting} {c : Condition} {depth depth' : Nat} {f f' : Finding}
    (h : ∀ l ∈ c.leaves, s'.reading l ≤ s.reading l) (hf : s.walk depth c = .ok f)
    (hf' : s'.walk depth' c = .ok f') : f'.truth ≤ f.truth := by
  rw [walk_truth hf, walk_truth hf']
  exact Condition.truth_mono h

/-- A leaf that errs in `s'`, or has in `s` the answer that it has there, says no less in `s`. -/
theorem reading_le {s s' : Setting} {l : Leaf}
    (h : (∃ e, s'.reply l = some (.error e))
      ∨ ∃ b, s'.reply l = some (.ok b) ∧ s.reply l = some (.ok b)) :
    s'.reading l ≤ s.reading l := by
  rcases h with ⟨e, he⟩ | ⟨b, hb', hb⟩
  · rw [reading, he]
    exact Truth.errs_le _
  · rw [reading, reading, hb, hb']

/-- The answer of `l`, with `resolve` put in the place of an error. -/
def resolved (s : Setting) (resolve : Bool) (l : Leaf) : Bool :=
  match s.reply l with
  | some (.ok b) => b
  | _ => resolve

theorem reading_le_resolved (s : Setting) (resolve : Bool) (l : Leaf) :
    s.reading l ≤ .ofBool (s.resolved resolve l) := by
  unfold reading resolved
  rcases s.reply l with _ | e | b
  · exact Truth.errs_le _
  · exact Truth.errs_le _
  · exact le_refl _

/-- With `false` in the place of errors, a leaf is true exactly when its `reading` is `holds`. -/
theorem resolved_false_eq (s : Setting) (l : Leaf) :
    s.resolved false l = (s.reading l == .holds) := by
  unfold reading resolved
  rcases s.reply l with _ | e | b
  · rfl
  · rfl
  · cases b <;> rfl

end Library

end Setting

namespace Condition

theorem evaluate_isOk [Pattern.Library] (clock : Pattern.Clock) {limits : EvaluationLimits}
    (context : Context) {c : Condition} (hc : c.isWellFormed = true)
    (hd : c.depth ≤ limits.maxDepth) :
    ∃ f, (limits.setting clock context).walk 1 c = .ok f
      ∧ c.evaluate clock limits context = .ok f.trace := by
  have hroom : 1 + limits.maxDepth = (limits.setting clock context).maxDepth + 1 :=
    Nat.add_comm 1 _
  obtain ⟨f, hf⟩ := Setting.walk_isOk hc hroom hd
  exact ⟨f, hf, by rw [evaluate_eq, hf]; rfl⟩

/-! ### Errors never make a condition hold -/

/-- **An error never makes a condition pass.** Let every leaf of `c` either err in `context'` by
`clock'` or have one and the same answer there and in `context` by `clock`. Then if `c` passes in
the former it passes in the latter, and at every node the former evaluation says no more than the
latter. Each evaluation has one clock for all its visits (`Evaluator.Steady`). -/
theorem evaluate_passed_mono [Pattern.Library] (clock clock' : Pattern.Clock)
    (limits : EvaluationLimits) (context context' : Context) (c : Condition)
    (hc : c.isWellFormed = true) (hd : c.depth ≤ limits.maxDepth)
    (h : ∀ l ∈ c.leaves,
      (∃ e, (limits.setting clock' context').reply l = some (.error e))
        ∨ ∃ b, (limits.setting clock' context').reply l = some (.ok b)
          ∧ (limits.setting clock context).reply l = some (.ok b)) :
    (∃ t t', c.evaluate clock limits context = .ok t
      ∧ c.evaluate clock' limits context' = .ok t' ∧ (t'.passed = true → t.passed = true))
    ∧ ∀ k n, NodeAt k n c →
      ∃ f f', (limits.setting clock context).walk (k + 1) n = .ok f
        ∧ (limits.setting clock' context').walk (k + 1) n = .ok f' ∧ f'.truth ≤ f.truth := by
  have hle : ∀ l ∈ c.leaves,
      (limits.setting clock' context').reading l ≤ (limits.setting clock context).reading l :=
    fun l hl => Setting.reading_le (h l hl)
  have hnode : ∀ k n, NodeAt k n c →
      ∃ f f', (limits.setting clock context).walk (k + 1) n = .ok f
        ∧ (limits.setting clock' context').walk (k + 1) n = .ok f' ∧ f'.truth ≤ f.truth := by
    intro k n hn
    have hroom : k + 1 + (limits.maxDepth - k) = limits.maxDepth + 1 := by
      have hpos := n.depth_pos
      have hkn := hn.depth_le
      omega
    have hnd : n.depth ≤ limits.maxDepth - k := by
      have hkn := hn.depth_le
      omega
    obtain ⟨f, hf⟩ := Setting.walk_isOk (s := limits.setting clock context)
      (hn.isWellFormed hc) hroom hnd
    obtain ⟨f', hf'⟩ := Setting.walk_isOk (s := limits.setting clock' context')
      (hn.isWellFormed hc) hroom hnd
    exact ⟨f, f', hf, hf', Setting.walk_truth_mono (fun l hl => hle l (hn.leaves_subset hl)) hf hf'⟩
  refine ⟨?_, hnode⟩
  obtain ⟨f, hf, ht⟩ := evaluate_isOk clock context hc hd
  obtain ⟨f', hf', ht'⟩ := evaluate_isOk clock' context' hc hd
  refine ⟨f.trace, f'.trace, ht, ht', fun hpassed => ?_⟩
  have hholds := Finding.passed_trace_iff.1 hpassed
  exact Finding.passed_trace_iff.2
    (Truth.eq_holds_of_le (Setting.walk_truth_mono hle hf hf') hholds)

/-- Condition with no high `risk` without `oversight`, and no `draft`. -/
def releaseRule : Condition :=
  .and
    [.or
      [.not (.leaf ⟨"risk", .greaterThan, .number .zero⟩), .leaf ⟨"oversight", .isTrue, .null⟩],
     .not (.leaf ⟨"draft", .isTrue, .null⟩)]

/-- With a `risk` that is no number `releaseRule` passes by `oversight` alone, and with a number in
its place it still does. -/
theorem evaluate_passed_mono_releaseRule :
    releaseRule.isWellFormed = true ∧ releaseRule.depth ≤ EvaluationLimits.default.maxDepth
    ∧ ∃ t t',
      releaseRule.evaluate .still .default
          ((Context.empty.insert "risk" (.number .zero)).insert "oversight" (.bool true)) = .ok t
      ∧ releaseRule.evaluate .still .default
          ((Context.empty.insert "risk" (.bool true)).insert "oversight" (.bool true)) = .ok t'
      ∧ t'.warnings.length = 1 ∧ t'.passed = true ∧ t.passed = true := by
  refine ⟨by decide, by decide, ?_⟩
  obtain ⟨⟨t, t', ht, ht', hmono⟩, -⟩ := evaluate_passed_mono .still .still .default
    ((Context.empty.insert "risk" (.number .zero)).insert "oversight" (.bool true))
    ((Context.empty.insert "risk" (.bool true)).insert "oversight" (.bool true))
    releaseRule (by decide) (by decide) (by
      intro l hl
      obtain rfl | rfl | rfl : l = ⟨"risk", .greaterThan, .number .zero⟩
          ∨ l = ⟨"oversight", .isTrue, .null⟩ ∨ l = ⟨"draft", .isTrue, .null⟩ := by
        simpa [releaseRule, leaves, leavesAll] using hl
      · exact .inl ⟨_, rfl⟩
      · exact .inr ⟨true, rfl, rfl⟩
      · exact .inr ⟨false, rfl, rfl⟩)
  have hpassed : t'.warnings.length = 1 ∧ t'.passed = true := by
    obtain rfl := Except.ok.inj ht'
    exact ⟨rfl, rfl⟩
  exact ⟨t, t', ht, ht', hpassed.1, hpassed.2, hmono hpassed.2⟩

/-! ### Classical truth -/

/-- **Short circuits compute the classical value.** (a) Without warnings, `c` passes exactly when
`c.value` is true, whatever is put in the place of the errors of its leaves, at each place on its
own. (b) Without negations it passes exactly when it is true with every erring leaf false, warnings
or not, and no other order of children (`Rearranged`) changes that. One `clock` serves every visit
(`Evaluator.Steady`). -/
theorem evaluate_passed_eq_value [Pattern.Library] (clock : Pattern.Clock)
    (limits : EvaluationLimits) (context : Context) (c : Condition) (hc : c.isWellFormed = true)
    (hd : c.depth ≤ limits.maxDepth) :
    ∃ t, c.evaluate clock limits context = .ok t
      ∧ (t.warnings = [] → ∀ resolve : List Nat → Bool,
        t.passed = c.value fun way l => (limits.setting clock context).resolved (resolve way) l)
      ∧ (c.isPositive = true →
        t.passed = (c.value fun _ l => (limits.setting clock context).resolved false l)
        ∧ ∀ d, Rearranged c d →
          ∃ u, d.evaluate clock limits context = .ok u ∧ u.passed = t.passed) := by
  have hpositive : ∀ d : Condition, d.isWellFormed = true → d.depth ≤ limits.maxDepth →
      d.isPositive = true → ∃ t, d.evaluate clock limits context = .ok t
        ∧ t.passed = (d.value fun _ l => (limits.setting clock context).resolved false l) := by
    intro d hd hdepth hpos
    obtain ⟨f, hf, ht⟩ := evaluate_isOk clock context hd hdepth
    refine ⟨f.trace, ht, Bool.eq_iff_iff.2 ?_⟩
    rw [Finding.passed_trace_iff, Setting.walk_truth hf, truth_eq_holds_iff_value hpos]
    simp only [Setting.resolved_false_eq]
  obtain ⟨f, hf, ht⟩ := evaluate_isOk clock context hc hd
  refine ⟨f.trace, ht, ?_, ?_⟩
  · intro hw resolve
    have herrs : f.truth ≠ .errs := fun he => Setting.walk_warnings_ne_nil hf he hw
    have hle : f.truth ≤ .ofBool (c.value fun way l =>
        (limits.setting clock context).resolved (resolve way) l) := by
      rw [Setting.walk_truth hf]
      exact truth_le_value fun way l _ => Setting.reading_le_resolved _ (resolve way) l
    rw [Bool.eq_iff_iff, Finding.passed_trace_iff, Truth.eq_of_le_of_ne_errs hle herrs,
      Truth.ofBool_eq_holds_iff]
  · intro hpos
    obtain ⟨t, ht', hvalue⟩ := hpositive c hc hd hpos
    obtain rfl := Except.ok.inj (ht.symm.trans ht')
    refine ⟨hvalue, fun d hcd => ?_⟩
    obtain ⟨u, hu, huvalue⟩ := hpositive d (hcd.isWellFormed hc) (hcd.depth_eq ▸ hd)
      (hcd.isPositive hpos)
    exact ⟨u, hu, by rw [huvalue, hvalue, hcd.value_eq]⟩

/-- The second alternative would err, but the first holds. The other way round the error is met, and
the condition passes all the same. -/
theorem evaluate_passed_eq_value_unvisited :
    let c : Condition :=
      .or [.leaf ⟨"oversight", .isTrue, .null⟩, .leaf ⟨"risk", .greaterThan, .number .zero⟩]
    let context := (Context.empty.insert "risk" (.bool true)).insert "oversight" (.bool true)
    let s := EvaluationLimits.default.setting .still context
    c.isWellFormed = true ∧ c.depth ≤ EvaluationLimits.default.maxDepth ∧ c.isPositive = true
    ∧ ∃ t, c.evaluate .still .default context = .ok t
      ∧ t.warnings = []
      ∧ (∀ resolve : List Nat → Bool, t.passed = c.value fun way l => s.resolved (resolve way) l)
      ∧ (t.passed = c.value fun _ l => s.resolved false l)
      ∧ ∃ u, Condition.evaluate .still .default context
          (.or [.leaf ⟨"risk", .greaterThan, .number .zero⟩, .leaf ⟨"oversight", .isTrue, .null⟩])
          = .ok u
        ∧ u.warnings.length = 1 ∧ u.passed = t.passed := by
  intro c context s
  refine ⟨by decide, by decide, by decide, ?_⟩
  obtain ⟨t, ht, hvalue, hpositive⟩ := evaluate_passed_eq_value .still .default context c
    (by decide) (by decide)
  have hw : t.warnings = [] := by
    obtain rfl := Except.ok.inj ht
    rfl
  obtain ⟨hfalse, horder⟩ := hpositive (by decide)
  obtain ⟨u, hu, hut⟩ := horder
    (.or [.leaf ⟨"risk", .greaterThan, .number .zero⟩, .leaf ⟨"oversight", .isTrue, .null⟩])
    (.permuteOr (List.Perm.swap _ _ []))
  have hwu : u.warnings.length = 1 := by
    obtain rfl := Except.ok.inj hu
    rfl
  exact ⟨t, ht, hw, hvalue hw, hfalse, u, hu, hwu, hut⟩

end Condition

end Governance
