import Governance.Proofs.Evaluation.Errors
import Governance.Pattern.Program

/-!
# The leaves responsible

A walk names the leaves that its truth is due to. It tells what each of them said, and these leaves
alone settle the truth: wherever each of them answers as it did, or errs, the condition has the
truth that the walk found, or errs, whatever all other leaves say. Failing and holding are claimed
together, since a negation makes the reasons for one into reasons for the other.

* `walk_backs`: what a named leaf said speaks for the truth.
* `truth_le_of_upholds`: the named leaves are certificates, for every reading of the leaves.
* `judgement_of_clock`: the clock decides whether a leaf answers, not what.
* `evaluate_fails_of_reasons`: a condition that fails goes on to fail until a field of a failing
  leaf changes.
-/

namespace Governance

namespace Truth

theorem ne_holds_of_le_fails {a : Truth} (h : a ≤ .fails) : a ≠ .holds := by
  rcases h with rfl | rfl <;> decide

theorem le_fails_of_ne_holds {a : Truth} (h : a ≠ .holds) : a ≤ .fails := by
  cases a with
  | holds => exact absurd rfl h
  | fails => exact le_refl _
  | errs => exact errs_le _

/-- By `both`, a conjunction does not hold when its first part does not. -/
theorem both_le_fails_left {a : Truth} (h : a ≤ .fails) (b : Truth) : a.both b ≤ .fails := by
  rw [both, if_neg (ne_holds_of_le_fails h)]
  exact h

theorem both_le_fails_right (a : Truth) {b : Truth} (h : b ≤ .fails) : a.both b ≤ .fails := by
  by_cases ha : a = .holds
  · rw [both, if_pos ha]
    exact h
  · rw [both, if_neg ha]
    exact le_fails_of_ne_holds ha

theorem either_holds (a : Truth) : a.either .holds = .holds := by
  cases a <;> rfl

/-- By `either`, a disjunction does not fail when its first part does not. -/
theorem either_le_holds_left {a : Truth} (h : a ≤ .holds) (b : Truth) : a.either b ≤ .holds := by
  rcases h with rfl | rfl
  · cases b <;> decide
  · exact le_refl _

theorem either_le_holds_right (a : Truth) {b : Truth} (h : b ≤ .holds) :
    a.either b ≤ .holds := by
  rcases h with rfl | rfl <;> cases a <;> decide

end Truth

namespace Finding

theorem negate_of_errs {f : Finding} (h : f.truth = .errs) : f.negate = f := by
  unfold negate
  rw [h]

theorem reasons_negate {f : Finding} (h : f.truth ≠ .errs) :
    f.negate.reasons = f.reasons.map LeafResult.flip := by
  unfold negate
  split
  · next herrs => exact absurd herrs h
  · rfl

end Finding

/-! ### What reasons tell -/

namespace Setting

/-- Written `s.Backs t x`: the result `x` gives the value of its field, and what its leaf said is
what speaks for the truth `t`, once the negations that count for it are taken into account. A leaf
that gave no answer speaks for `errs` only, and no negation counts for it. -/
inductive Backs [Pattern.Library] (s : Setting) : Truth → LeafResult → Prop
  | holding {x : LeafResult} (hactual : x.actual = s.context.valueOf x.field)
      (herror : x.error = none) (hreply : s.reply x.leaf = some (.ok !x.negated)) :
      Backs s .holds x
  | failing {t : Truth} {x : LeafResult} (ht : t ≠ .holds)
      (hactual : x.actual = s.context.valueOf x.field) (herror : x.error = none)
      (hreply : s.reply x.leaf = some (.ok x.negated)) : Backs s t x
  | erring {x : LeafResult} (e : EvaluationError) (hactual : x.actual = s.context.valueOf x.field)
      (herror : x.error = some e.message) (hnegated : x.negated = false)
      (hreply : s.reply x.leaf = some (.error e)) : Backs s .errs x

namespace Backs

variable {s : Setting} {t : Truth} {x : LeafResult}

/-- What backs `t` backs `t.flip` once it is turned round, too. -/
theorem flip [Pattern.Library] (h : s.Backs t x) (ht : t ≠ .errs) : s.Backs t.flip x.flip := by
  cases h with
  | holding hactual herror hreply => exact .failing (by decide) hactual herror hreply
  | failing hne hactual herror hreply =>
    have hfails : t = .fails := by
      cases t <;> simp_all
    subst hfails
    refine .holding hactual herror ?_
    rw [LeafResult.flip, Bool.not_not]
    exact hreply
  | erring e => exact absurd rfl ht

/-- What speaks against holding backs `errs`. -/
theorem errs [Pattern.Library] (h : s.Backs t x) (ht : t ≠ .holds) : s.Backs .errs x := by
  cases h with
  | holding => exact absurd rfl ht
  | failing _ hactual herror hreply => exact .failing (by decide) hactual herror hreply
  | erring e hactual herror hnegated hreply => exact .erring e hactual herror hnegated hreply

end Backs

theorem backs_findingOf [Pattern.Library] {s : Setting} {l : Leaf}
    {a : Except EvaluationError Bool} (h : s.reply l = some a) :
    ∀ x ∈ (s.findingOf l a).reasons, s.Backs (s.findingOf l a).truth x := by
  rcases a with e | b
  · exact List.forall_mem_singleton.2 (.erring e rfl rfl rfl h)
  · cases b with
    | true => exact List.forall_mem_singleton.2 (.holding rfl rfl h)
    | false =>
      have hne : Truth.fails ≠ .holds := by decide
      exact List.forall_mem_singleton.2 (.failing hne rfl rfl h)

/-- **Reasons tell what was said.** Each `x` in `f.reasons` backs `f.truth`: it is given with what
its leaf said of its field's value, turned round as often as negations count for it. -/
theorem walk_backs [Pattern.Library] {s : Setting} {c : Condition} {depth : Nat} {f : Finding}
    (h : s.walk depth c = .ok f) : ∀ x ∈ f.reasons, s.Backs f.truth x := by
  refine walk_induction (P := fun _ f => ∀ x ∈ f.reasons, s.Backs f.truth x)
    (A := fun _ f => ∀ x ∈ f.reasons, s.Backs f.truth x)
    (O := fun _ f => ∀ x ∈ f.reasons, s.Backs f.truth x)
    ?_ ?_ ?_ ?_ ?_ ?_ ?_ ?_ ?_ ?_ h
  · exact fun l a ha => backs_findingOf ha
  · exact fun _ _ _ hf => hf
  · exact fun _ _ _ hf => hf
  · intro c f hf x hx
    by_cases herrs : f.truth = .errs
    · rw [Finding.negate_of_errs herrs] at hx ⊢
      exact hf x hx
    · rw [Finding.reasons_negate herrs] at hx
      obtain ⟨y, hy, rfl⟩ := List.mem_map.1 hx
      rw [Finding.truth_negate]
      exact (hf y hy).flip herrs
  · exact fun x hx => absurd hx List.not_mem_nil
  · exact fun _ _ _ _ _ hf _ => hf
  · intro c cs d f g _ hf hgo hg x hx
    show s.Backs g.truth x
    by_cases hholds : g.truth = .holds
    · rw [Finding.conjoin, if_pos hholds] at hx
      rcases List.mem_append.1 hx with hxf | hxg
      · have hback := hf x hxf
        rw [hgo] at hback
        rw [hholds]
        exact hback
      · exact hg x hxg
    · rw [Finding.conjoin, if_neg hholds] at hx
      exact hg x hx
  · exact fun x hx => absurd hx List.not_mem_nil
  · exact fun _ _ _ _ _ hf _ => hf
  · intro c cs d f g _ hf hgo hg x hx
    rw [Finding.truth_disjoin hgo]
    by_cases hholds : g.truth = .holds
    · rw [Finding.disjoin, if_pos hholds] at hx
      rw [hholds, Truth.either_holds]
      exact hholds ▸ hg x hx
    · rw [Finding.disjoin, if_neg hholds] at hx
      -- Both parts fail, or the disjunction errs.
      by_cases hboth : f.truth = .fails ∧ g.truth = .fails
      · rw [hboth.1, hboth.2]
        show s.Backs .fails x
        rw [hboth.1] at hf
        rw [hboth.2] at hg
        rcases List.mem_append.1 hx with hxf | hxg
        · exact hf x hxf
        · exact hg x hxg
      · have herrs : f.truth.either g.truth = .errs := by
          cases hft : f.truth <;> cases hgt : g.truth <;> simp_all [Truth.either]
        rw [herrs]
        rcases List.mem_append.1 hx with hxf | hxg
        · exact (hf x hxf).errs hgo
        · exact (hg x hxg).errs hholds

/-- When `f` does not err, each of its reasons has an answer. -/
theorem reply_of_walk_reasons [Pattern.Library] {s : Setting} {c : Condition} {depth : Nat}
    {f : Finding} (h : s.walk depth c = .ok f) (hf : f.truth ≠ .errs) {x : LeafResult}
    (hx : x ∈ f.reasons) : ∃ b, s.reply x.leaf = some (.ok b) := by
  generalize ht : f.truth = t at hf
  have hback := walk_backs h x hx
  rw [ht] at hback
  cases hback with
  | holding _ _ hreply => exact ⟨_, hreply⟩
  | failing _ _ _ hreply => exact ⟨_, hreply⟩
  | erring e => exact absurd rfl hf

end Setting

/-! ### Certificates -/

namespace Finding

section Library

variable [Pattern.Library]

/-- With the truths `r`, each leaf in `f.reasons` says at most what it said to the walk. -/
def Upholds (s : Setting) (r : Leaf → Truth) (f : Finding) : Prop :=
  ∀ l ∈ f.reasons.map LeafResult.leaf, r l ≤ s.reading l

variable {s : Setting} {r : Leaf → Truth} {f g : Finding}

theorem upholds_negate : f.negate.Upholds s r ↔ f.Upholds s r := by
  rw [Upholds, leaf_reasons_negate]
  rfl

/-- The reasons for a `conjoin` that holds are those of both parts. -/
theorem upholds_conjoin_of_holds (hg : g.truth = .holds) (h : (f.conjoin g).Upholds s r) :
    f.Upholds s r ∧ g.Upholds s r := by
  rw [Upholds, conjoin, if_pos hg, List.map_append, List.forall_mem_append] at h
  exact h

theorem upholds_conjoin_of_not_holds (hg : g.truth ≠ .holds) (h : (f.conjoin g).Upholds s r) :
    g.Upholds s r := by
  rw [Upholds, conjoin, if_neg hg] at h
  exact h

theorem upholds_disjoin_of_holds (hg : g.truth = .holds) (h : (f.disjoin g).Upholds s r) :
    g.Upholds s r := by
  rw [Upholds, disjoin, if_pos hg] at h
  exact h

/-- The reasons for a `disjoin` that fails are those of both parts. -/
theorem upholds_disjoin_of_not_holds (hg : g.truth ≠ .holds) (h : (f.disjoin g).Upholds s r) :
    f.Upholds s r ∧ g.Upholds s r := by
  rw [Upholds, disjoin, if_neg hg, List.map_append, List.forall_mem_append] at h
  exact h

end Library

end Finding

namespace Setting

/-- **Reasons are certificates.** Let a `walk` find `f`, that `c` holds or fails. Wherever every
leaf in `f.reasons` answers as before, or errs, `c` has that truth, or errs. -/
theorem truth_le_of_upholds [Pattern.Library] {s : Setting} {r : Leaf → Truth} {c : Condition}
    {depth : Nat} {f : Finding} (h : s.walk depth c = .ok f) (hf : f.truth ≠ .errs)
    (hr : f.Upholds s r) : c.truth r ≤ f.truth := by
  refine walk_induction
    (P := fun c f => f.truth ≠ .errs → f.Upholds s r → c.truth r ≤ f.truth)
    (A := fun cs f => f.truth ≠ .errs → f.Upholds s r →
      .conjunction (Condition.truths r cs) ≤ f.truth)
    (O := fun cs f => f.truth ≠ .errs → f.Upholds s r →
      .disjunction (Condition.truths r cs) ≤ f.truth)
    ?_ ?_ ?_ ?_ ?_ ?_ ?_ ?_ ?_ ?_ h hf hr
  · intro l a ha _ hr
    have hreading : s.reading l = (s.findingOf l a).truth := by
      rw [findingOf_truth, reading, ha]
      rfl
    rw [← hreading]
    exact hr l (by rw [findingOf_reasons]; exact List.mem_singleton_self l)
  · exact fun _ _ _ hf => hf
  · exact fun _ _ _ hf => hf
  · intro c f hf hne hr
    rw [Finding.truth_negate] at hne ⊢
    exact Truth.flip_mono
      (hf (fun he => hne (Truth.flip_eq_errs_iff.2 he)) (Finding.upholds_negate.1 hr))
  · exact fun _ _ => le_refl _
  · -- The child that stopped a conjunction fails, so it still keeps the conjunction from holding.
    intro c cs d f _ hf hstop hne hr
    have hfails : f.truth = .fails := by
      cases htruth : f.truth <;> simp_all
    have hc := hf hne hr
    rw [hfails] at hc ⊢
    exact Truth.both_le_fails_left hc _
  · intro c cs d f g _ hf hgo hg hne hr
    show (c.truth r).both _ ≤ g.truth
    by_cases hholds : g.truth = .holds
    · obtain ⟨hrf, hrg⟩ := Finding.upholds_conjoin_of_holds hholds hr
      have hc := hf (by rw [hgo]; decide) hrf
      have hcs := hg hne hrg
      rw [hholds] at hcs ⊢
      rw [hgo] at hc
      exact Truth.both_mono hc hcs
    · have hfails : g.truth = .fails := by
        cases htruth : g.truth <;> simp_all [Finding.conjoin]
      have hcs := hg hne (Finding.upholds_conjoin_of_not_holds hholds hr)
      rw [hfails] at hcs ⊢
      exact Truth.both_le_fails_right _ hcs
  · exact fun _ _ => le_refl _
  · intro c cs d f _ hf hstop hne hr
    have hc := hf hne hr
    rw [hstop] at hc ⊢
    exact Truth.either_le_holds_left hc _
  · intro c cs d f g _ hf hgo hg hne hr
    show (c.truth r).either _ ≤ (f.disjoin g).truth
    rw [Finding.truth_disjoin hgo] at hne ⊢
    by_cases hholds : g.truth = .holds
    · have hcs := hg (by rw [hholds]; decide) (Finding.upholds_disjoin_of_holds hholds hr)
      rw [hholds] at hcs ⊢
      rw [Truth.either_holds f.truth]
      exact Truth.either_le_holds_right _ hcs
    · obtain ⟨hrf, hrg⟩ := Finding.upholds_disjoin_of_not_holds hholds hr
      -- Neither part holds, and the disjunction does not err: both fail.
      have hboth : f.truth = .fails ∧ g.truth = .fails := by
        cases hft : f.truth <;> cases hgt : g.truth <;> simp_all [Truth.either]
      have hc := hf (by rw [hboth.1]; decide) hrf
      have hcs := hg (by rw [hboth.2]; decide) hrg
      exact Truth.either_mono hc hcs

end Setting

/-! ### Other clocks -/

/-- Whether the clock lets `matchWithin` answer or not, the answer is that of the `Library` for the
compiled pattern and the text. -/
theorem Pattern.exists_isMatch_of_matchWithin [Pattern.Library] {clock : Clock} {limits : Limits}
    {pattern text : String} {b : Bool} (h : matchWithin clock limits pattern text = .ok b) :
    ∃ program, compile pattern limits.sizeLimit = .ok program
      ∧ Library.isMatch program text = b := by
  unfold matchWithin at h
  split at h
  · exact absurd h (by simp)
  · next program hprogram =>
    split at h
    · exact absurd h (by simp)
    · exact ⟨program, hprogram, Except.ok.inj h⟩

theorem matchesPattern_of_clock [Pattern.Library] {limits : Pattern.Limits}
    {clock clock' : Pattern.Clock} {actual expected : FieldValue} {b b' : Bool}
    (h : matchesPattern ⟨limits, clock⟩ actual expected = .ok b)
    (h' : matchesPattern ⟨limits, clock'⟩ actual expected = .ok b') : b = b' := by
  cases expected with
  | text pattern =>
    simp only [matchesPattern] at h h'
    cases hhay : actual.toText with
    | none =>
      rw [hhay] at h h'
      exact Except.ok.inj (h.symm.trans h')
    | some hay =>
      rw [hhay] at h h'
      cases hm : Pattern.matchWithin clock limits pattern hay with
      | error e => simp [hm] at h
      | ok m =>
        cases hm' : Pattern.matchWithin clock' limits pattern hay with
        | error e => simp [hm'] at h'
        | ok m' =>
          simp only [hm, hm', Except.ok.injEq] at h h'
          obtain ⟨program, hprogram, hb⟩ := Pattern.exists_isMatch_of_matchWithin hm
          obtain ⟨program', hprogram', hb'⟩ := Pattern.exists_isMatch_of_matchWithin hm'
          obtain rfl := Except.ok.inj (hprogram.symm.trans hprogram')
          rw [← h, ← h', ← hb, ← hb']
  | _ => exact absurd h (by simp [matchesPattern])

/-- **The clock decides whether a leaf answers, not what.** If `judgement` answers `b` by `clock`
and `b'` by `clock'`, the two are one. -/
theorem judgement_of_clock [Pattern.Library] {limits : Pattern.Limits}
    {clock clock' : Pattern.Clock} {op : Operator} {judgement : Judgement}
    {actual expected : FieldValue} {b b' : Bool} (hop : op.judgement? = some judgement)
    (h : judgement ⟨limits, clock⟩ actual expected = .ok b)
    (h' : judgement ⟨limits, clock'⟩ actual expected = .ok b') : b = b' := by
  by_cases hregex : op = .regexMatch
  · subst hregex
    obtain rfl := Option.some.inj hop
    exact matchesPattern_of_clock h h'
  · -- No other operator looks at the clock.
    cases op with
    | regexMatch => exact absurd rfl hregex
    | and | or | not => exact absurd hop (by simp [Operator.judgement?])
    | _ =>
      obtain rfl := Option.some.inj hop
      exact Except.ok.inj (h.symm.trans h')

namespace EvaluationLimits

variable {limits : EvaluationLimits} {clock clock' : Pattern.Clock} {context context' : Context}
  {l : Leaf}

/-- A leaf whose field keeps its value in `context'` answers as it did, or errs. -/
theorem reading_setting_le [Pattern.Library]
    (hvalue : context'.valueOf l.field = context.valueOf l.field) {b : Bool}
    (hb : (limits.setting clock context).reply l = some (.ok b)) :
    (limits.setting clock' context').reading l ≤ (limits.setting clock context).reading l := by
  obtain ⟨judgement, hop, hanswer⟩ := Option.map_eq_some_iff.1 hb
  rw [Setting.reading, Setting.reading, hb, Setting.reply, hop]
  show Truth.ofAnswer ((limits.setting clock' context').answer l judgement) ≤ .ofBool b
  cases hanswer' : (limits.setting clock' context').answer l judgement with
  | error e => exact Truth.errs_le _
  | ok b' =>
    suffices b' = b by rw [this]; exact le_refl _
    have hcontext : (limits.setting clock' context').context.valueOf l.field
        = (limits.setting clock context).context.valueOf l.field := hvalue
    unfold Setting.answer at hanswer hanswer'
    rw [hcontext] at hanswer'
    split at hanswer
    · next hmissing =>
      rw [if_pos hmissing] at hanswer'
      exact Except.ok.inj (hanswer'.symm.trans hanswer)
    · next hpresent =>
      rw [if_neg hpresent] at hanswer'
      exact judgement_of_clock hop hanswer' hanswer

end EvaluationLimits

/-! ### Failing leaves -/

namespace Condition

/-- **The failing leaves are a sufficient reason.** Let `c` fail by `clock` without warnings. In
every `context'` that leaves alone the fields of `t.failingLeaves`, and by every `clock'`, it fails
again, whatever the other fields hold and whether or not their leaves err. Only a `c` that is deeper
than the limit may get no trace there. Each evaluation has one clock for all its visits
(`Evaluator.Steady`). -/
theorem evaluate_fails_of_reasons [Pattern.Library] (clock clock' : Pattern.Clock)
    (limits : EvaluationLimits) (context context' : Context) (c : Condition) (t : Trace)
    (hc : c.isWellFormed = true) (ht : c.evaluate clock limits context = .ok t)
    (hfails : t.passed = false) (hwarnings : t.warnings = [])
    (hsame : ∀ x ∈ t.failingLeaves, context'.valueOf x.field = context.valueOf x.field) :
    (∀ t', c.evaluate clock' limits context' = .ok t' → t'.passed = false)
      ∧ (c.depth ≤ limits.maxDepth →
        ∃ t', c.evaluate clock' limits context' = .ok t' ∧ t'.passed = false) := by
  rw [evaluate_eq] at ht
  obtain ⟨f, hf, rfl⟩ := map_eq_ok_iff.1 ht
  have hholds : f.truth ≠ .holds := fun h => by simp [Finding.trace, h] at hfails
  have herrs : f.truth ≠ .errs := fun h => Setting.walk_warnings_ne_nil hf h hwarnings
  have hleaves : f.trace.failingLeaves = f.reasons := if_neg hholds
  rw [hleaves] at hsame
  have hupholds : f.Upholds (limits.setting clock context)
      (limits.setting clock' context').reading := by
    intro l hl
    obtain ⟨x, hx, rfl⟩ := List.mem_map.1 hl
    obtain ⟨b, hb⟩ := Setting.reply_of_walk_reasons hf herrs hx
    exact EvaluationLimits.reading_setting_le (hsame x hx) hb
  have hagain : ∀ f', (limits.setting clock' context').walk 1 c = .ok f' →
      f'.trace.passed = false := by
    intro f' hf'
    have hle : f'.truth ≤ f.truth := by
      rw [Setting.walk_truth hf']
      exact Setting.truth_le_of_upholds hf herrs hupholds
    rw [Bool.eq_false_iff, ne_eq, Finding.passed_trace_iff]
    intro h
    exact hholds ((Truth.eq_of_le_of_ne_errs hle (by rw [h]; decide)).symm.trans h)
  constructor
  · intro t' ht'
    rw [evaluate_eq] at ht'
    obtain ⟨f', hf', rfl⟩ := map_eq_ok_iff.1 ht'
    exact hagain f' hf'
  · intro hd
    obtain ⟨f', hf', ht'⟩ := evaluate_isOk clock' context' hc hd
    exact ⟨f'.trace, ht', hagain f' hf'⟩

/-- With a `draft` the condition fails, and `oversight` in the place of a known `risk` does not
change that. -/
theorem evaluate_fails_of_reasons_draft :
    let context := (Context.empty.insert "risk" (.number .zero)).insert "draft" (.bool true)
    let context' := (Context.empty.insert "oversight" (.bool true)).insert "draft" (.bool true)
    releaseRule.isWellFormed = true ∧ releaseRule.depth ≤ EvaluationLimits.default.maxDepth
    ∧ ∃ t, releaseRule.evaluate .still .default context = .ok t
      ∧ t.passed = false ∧ t.warnings = []
      ∧ t.failingLeaves.map (fun x => (x.field, x.negated)) = [("draft", true)]
      ∧ (∀ x ∈ t.failingLeaves, context'.valueOf x.field = context.valueOf x.field)
      ∧ ∃ t', releaseRule.evaluate .still .default context' = .ok t' ∧ t'.passed = false := by
  intro context context'
  have hc : releaseRule.isWellFormed = true := by decide
  have hd : releaseRule.depth ≤ EvaluationLimits.default.maxDepth := by decide
  obtain ⟨t, ht⟩ : ∃ t, releaseRule.evaluate .still .default context = .ok t := ⟨_, rfl⟩
  have htrace : t.passed = false ∧ t.warnings = []
      ∧ t.failingLeaves.map (fun x => (x.field, x.negated)) = [("draft", true)]
      ∧ ∀ x ∈ t.failingLeaves, context'.valueOf x.field = context.valueOf x.field := by
    obtain rfl := Except.ok.inj ht
    exact ⟨rfl, rfl, rfl, List.forall_mem_singleton.2 rfl⟩
  obtain ⟨hfails, hwarnings, hleaves, hsame⟩ := htrace
  exact ⟨hc, hd, t, ht, hfails, hwarnings, hleaves, hsame,
    (evaluate_fails_of_reasons .still .still .default context context' releaseRule t hc ht hfails
      hwarnings hsame).2 hd⟩

end Condition

end Governance
