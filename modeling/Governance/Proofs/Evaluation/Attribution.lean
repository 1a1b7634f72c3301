import Governance.Proofs.Condition.Occurrences
import Governance.Proofs.Evaluation.Reasons
import Governance.Pattern.Program

/-!
# Where the leaves responsible stand

A walk names leaves by their results, and a result does not tell at which place its leaf stands.
Every result comes from one place all the same: the results that a walk names belong, one by one, to
places of the condition in their order.

* `walk_attributedTo`: so it is for every walk, and unless the walk errs a result counts as negated
  when the negations above its place are odd in number.
* `walk_reasons_passed`: a result keeps what the leaf said, whatever the negations.
* `evaluate_attributes`: the failing leaves of a trace are attributed to their places.

Of a walk that errs no more can be said. A negation leaves an error as it is, and with it what the
failing leaves below count as.
-/

namespace Governance

namespace Truth

/-- When `b` does not hold, `errs.either b` is `errs`, too. -/
theorem errs_either {b : Truth} (hb : b ≠ .holds) : Truth.errs.either b = .errs := by
  cases b with
  | holds => exact absurd rfl hb
  | fails => rfl
  | errs => rfl

theorem either_errs {a : Truth} (ha : a ≠ .holds) : a.either .errs = .errs := by
  cases a with
  | holds => exact absurd rfl ha
  | fails => rfl
  | errs => rfl

end Truth

namespace Finding

variable {f g : Finding} {x : LeafResult} {o : Occurrence} {os ps : List Occurrence}

theorem mem_reasons_conjoin (h : x ∈ (f.conjoin g).reasons) : x ∈ f.reasons ∨ x ∈ g.reasons := by
  unfold conjoin at h
  by_cases hg : g.truth = .holds
  · rw [if_pos hg] at h
    exact List.mem_append.1 h
  · rw [if_neg hg] at h
    exact .inr h

theorem mem_reasons_disjoin (h : x ∈ (f.disjoin g).reasons) : x ∈ f.reasons ∨ x ∈ g.reasons := by
  unfold disjoin at h
  by_cases hg : g.truth = .holds
  · rw [if_pos hg] at h
    exact .inr h
  · rw [if_neg hg] at h
    exact List.mem_append.1 h

/-! ### Attribution of one finding -/

/-- Written `f.Attributes x o`: the result `x` is about the leaf at the place `o`, and unless `f`
erred `x.negated` says whether the negations above `o` are odd in number. -/
structure Attributes (f : Finding) (x : LeafResult) (o : Occurrence) : Prop where
  leaf : x.leaf = o.leaf
  negated : f.truth ≠ .errs → x.negated = o.isNegated

/-- The reasons of `f` stand at some of the places `os`, in their order. -/
def AttributedTo (f : Finding) (os : List Occurrence) : Prop :=
  ∃ ps, ps.Sublist os ∧ List.Forall₂ f.Attributes f.reasons ps

/-- What `f` attributes, `g` does too if `g` errs where `f` does. -/
theorem Attributes.mono (h : f.Attributes x o) (hg : g.truth ≠ .errs → f.truth ≠ .errs) :
    g.Attributes x o :=
  ⟨h.leaf, fun hne => h.negated (hg hne)⟩

namespace AttributedTo

/-- The ways in `os` may be seen from further up, with one more `index` before each. -/
theorem below (h : f.AttributedTo os) (index : Nat) :
    f.AttributedTo (os.map (Occurrence.below index)) := by
  obtain ⟨ps, hps, hreasons⟩ := h
  refine ⟨ps.map (Occurrence.below index), hps.map _, ?_⟩
  rw [List.forall₂_map_right_iff]
  exact hreasons.imp fun x o hxo => ⟨hxo.leaf, hxo.negated⟩

/-- More places `ps` may follow those in `os`. -/
theorem append (h : f.AttributedTo os) (ps : List Occurrence) : f.AttributedTo (os ++ ps) := by
  obtain ⟨qs, hqs, hreasons⟩ := h
  exact ⟨qs, hqs.trans (List.sublist_append_left os ps), hreasons⟩

/-- A negation is one more above every place in `os`. It turns the results round too
(`Finding.negate`), unless `f` erred. -/
theorem negate (h : f.AttributedTo os) : f.negate.AttributedTo (os.map Occurrence.negated) := by
  obtain ⟨ps, hps, hreasons⟩ := h
  refine ⟨ps.map Occurrence.negated, hps.map _, ?_⟩
  by_cases herrs : f.truth = .errs
  · rw [negate_of_errs herrs, List.forall₂_map_right_iff]
    exact hreasons.imp fun x o hxo => ⟨hxo.leaf, fun hne => absurd herrs hne⟩
  · rw [reasons_negate herrs, List.forall₂_map_left_iff, List.forall₂_map_right_iff]
    refine hreasons.imp fun x o hxo => ⟨hxo.leaf, fun _ => ?_⟩
    rw [Occurrence.isNegated_negated, ← hxo.negated herrs]
    rfl

theorem conjoin (hholds : f.truth = .holds) (hf : f.AttributedTo os) (hg : g.AttributedTo ps) :
    (f.conjoin g).AttributedTo (os ++ ps) := by
  obtain ⟨qs, hqs, hfreasons⟩ := hf
  obtain ⟨rs, hrs, hgreasons⟩ := hg
  by_cases h : g.truth = .holds
  · refine ⟨qs ++ rs, hqs.append hrs, ?_⟩
    rw [Finding.conjoin, if_pos h]
    refine List.rel_append (hfreasons.imp fun x o hxo => hxo.mono fun _ => ?_)
      (hgreasons.imp fun x o hxo => hxo.mono id)
    rw [hholds]
    decide
  · refine ⟨rs, hrs.trans (List.sublist_append_right os ps), ?_⟩
    rw [Finding.conjoin, if_neg h]
    exact hgreasons.imp fun x o hxo => hxo.mono id

theorem disjoin (hgo : f.truth ≠ .holds) (hf : f.AttributedTo os) (hg : g.AttributedTo ps) :
    (f.disjoin g).AttributedTo (os ++ ps) := by
  obtain ⟨qs, hqs, hfreasons⟩ := hf
  obtain ⟨rs, hrs, hgreasons⟩ := hg
  have htruth := truth_disjoin hgo g
  by_cases h : g.truth = .holds
  · refine ⟨rs, hrs.trans (List.sublist_append_right os ps), ?_⟩
    have hreasons : (f.disjoin g).reasons = g.reasons := if_pos h
    rw [hreasons]
    refine hgreasons.imp fun x o hxo => hxo.mono fun _ => ?_
    rw [h]
    decide
  · refine ⟨qs ++ rs, hqs.append hrs, ?_⟩
    have hreasons : (f.disjoin g).reasons = f.reasons ++ g.reasons := if_neg h
    rw [hreasons]
    -- If either part errs then so does the disjunction.
    refine List.rel_append (hfreasons.imp fun x o hxo => hxo.mono fun hne herrs => hne ?_)
      (hgreasons.imp fun x o hxo => hxo.mono fun hne herrs => hne ?_)
    · rw [htruth, herrs, Truth.errs_either h]
    · rw [htruth, herrs, Truth.either_errs hgo]

end AttributedTo

end Finding

namespace Setting

theorem attributedTo_findingOf (s : Setting) (l : Leaf) (a : Except EvaluationError Bool) :
    (s.findingOf l a).AttributedTo [⟨[], l, 0⟩] := by
  refine ⟨_, List.Sublist.refl _, ?_⟩
  rcases a with e | b
  · exact .cons ⟨rfl, fun _ => rfl⟩ .nil
  · cases b with
    | true => exact .cons ⟨rfl, fun _ => rfl⟩ .nil
    | false => exact .cons ⟨rfl, fun _ => rfl⟩ .nil

section Library

variable [Pattern.Library]

/-- **The leaves responsible have their places.** The reasons of a `walk` over `c` stand at some of
`c.occurrences`, from left to right and each at a place of its own. -/
theorem walk_attributedTo {s : Setting} {c : Condition} {depth : Nat} {f : Finding}
    (h : s.walk depth c = .ok f) : f.AttributedTo c.occurrences := by
  refine walk_induction (P := fun c f => f.AttributedTo c.occurrences)
    (A := fun cs f => ∀ index, f.AttributedTo (Condition.occurrencesFrom index cs))
    (O := fun cs f => ∀ index, f.AttributedTo (Condition.occurrencesFrom index cs))
    ?_ ?_ ?_ ?_ ?_ ?_ ?_ ?_ ?_ ?_ h
  · exact fun l a _ => s.attributedTo_findingOf l a
  · exact fun _ _ _ hf => hf 0
  · exact fun _ _ _ hf => hf 0
  · exact fun _ _ hf => hf.negate
  · exact fun _ => ⟨[], .slnil, .nil⟩
  · exact fun _ _ _ _ _ hf _ index => (hf.below index).append _
  · exact fun _ _ _ _ _ _ hf hgo hg index => .conjoin hgo (hf.below index) (hg (index + 1))
  · exact fun _ => ⟨[], .slnil, .nil⟩
  · exact fun _ _ _ _ _ hf _ index => (hf.below index).append _
  · exact fun _ _ _ _ _ _ hf hgo hg index => .disjoin hgo (hf.below index) (hg (index + 1))

/-! ### What a result keeps -/

/-- A `Q` that holds of the results of leaves, and goes on to hold under `LeafResult.flip`, holds of
all `f.reasons` that a `walk` finds. -/
theorem walk_reasons_forall {s : Setting} {Q : LeafResult → Prop}
    (leaf : ∀ l a, s.reply l = some a → ∀ x ∈ (s.findingOf l a).reasons, Q x)
    (flip : ∀ x, Q x → Q x.flip) {c : Condition} {depth : Nat} {f : Finding}
    (h : s.walk depth c = .ok f) : ∀ x ∈ f.reasons, Q x := by
  refine walk_induction (P := fun _ f => ∀ x ∈ f.reasons, Q x)
    (A := fun _ f => ∀ x ∈ f.reasons, Q x) (O := fun _ f => ∀ x ∈ f.reasons, Q x)
    leaf ?_ ?_ ?_ ?_ ?_ ?_ ?_ ?_ ?_ h
  · exact fun _ _ _ hf => hf
  · exact fun _ _ _ hf => hf
  · intro c f hf x hx
    by_cases herrs : f.truth = .errs
    · rw [Finding.negate_of_errs herrs] at hx
      exact hf x hx
    · rw [Finding.reasons_negate herrs] at hx
      obtain ⟨y, hy, rfl⟩ := List.mem_map.1 hx
      exact flip y (hf y hy)
  · exact fun x hx => absurd hx List.not_mem_nil
  · exact fun _ _ _ _ _ hf _ => hf
  · exact fun _ _ _ _ _ _ hf _ hg x hx => (Finding.mem_reasons_conjoin hx).elim (hf x) (hg x)
  · exact fun x hx => absurd hx List.not_mem_nil
  · exact fun _ _ _ _ _ hf _ => hf
  · exact fun _ _ _ _ _ _ hf _ hg x hx => (Finding.mem_reasons_disjoin hx).elim (hf x) (hg x)

/-- In `f.reasons` a result `x` keeps what its leaf said: `x.passed` is the answer `b`. -/
theorem walk_reasons_passed {s : Setting} {c : Condition} {depth : Nat} {f : Finding}
    (h : s.walk depth c = .ok f) :
    ∀ x ∈ f.reasons, ∀ b, s.reply x.leaf = some (.ok b) → x.passed = b := by
  refine walk_reasons_forall (Q := fun x => ∀ b, s.reply x.leaf = some (.ok b) → x.passed = b)
    ?_ (fun _ hx => hx) h
  intro l a ha x hx b hb
  have hl : x.leaf = l := by
    have hmem := List.mem_map_of_mem (f := LeafResult.leaf) hx
    rw [findingOf_reasons] at hmem
    exact List.mem_singleton.1 hmem
  rw [hl, ha] at hb
  obtain rfl := Option.some.inj hb
  cases b with
  | true => exact (List.mem_singleton.1 hx) ▸ rfl
  | false => exact (List.mem_singleton.1 hx) ▸ rfl

/-- When `f` fails, each of its reasons said the contrary of what it ought to: `x.negated` is
`x.passed`. -/
theorem walk_reasons_negated {s : Setting} {c : Condition} {depth : Nat} {f : Finding}
    (h : s.walk depth c = .ok f) (hf : f.truth = .fails) :
    ∀ x ∈ f.reasons, x.negated = x.passed := by
  intro x hx
  have hback := walk_backs h x hx
  rw [hf] at hback
  cases hback with
  | failing _ _ _ hreply => exact (walk_reasons_passed h x hx _ hreply).symm

end Library

end Setting

theorem Setting.Backs.actual_eq [Pattern.Library] {s : Setting} {t : Truth} {x : LeafResult}
    (h : s.Backs t x) : x.actual = s.context.valueOf x.field := by
  cases h <;> assumption

namespace Condition

/-- **Failing leaves are attributed to their places.** A trace `t` that fails names a leaf, and its
`failingLeaves` belong one by one to places `os` among `c.occurrences`, from left to right and no
place twice; each has the value of its field in `context` as `actual`. Without warnings `x.negated`
is true exactly when `o.negations` is odd, and exactly when `x.passed` is. One `clock` serves every
visit (`Evaluator.Steady`). -/
theorem evaluate_attributes [Pattern.Library] (clock : Pattern.Clock) (limits : EvaluationLimits)
    (context : Context) (c : Condition) (t : Trace) (ht : c.evaluate clock limits context = .ok t)
    (hfails : t.passed = false) :
    t.failingLeaves ≠ []
    ∧ ∃ os : List Occurrence,
      os.Sublist c.occurrences ∧ os.Pairwise Occurrence.Before
      ∧ (os.map Occurrence.leaf).Sublist c.leaves
      ∧ List.Forall₂ (fun x o =>
          x.leaf = o.leaf ∧ x.actual = context.valueOf x.field
          ∧ (t.warnings = [] →
            (x.negated = true ↔ o.negations % 2 = 1) ∧ x.negated = x.passed))
        t.failingLeaves os := by
  rw [evaluate_eq] at ht
  obtain ⟨f, hf, rfl⟩ := map_eq_ok_iff.1 ht
  have hholds : f.truth ≠ .holds := fun h => by simp [Finding.trace, h] at hfails
  have herrs : f.warnings = [] → f.truth ≠ .errs :=
    fun hwarnings h => Setting.walk_warnings_ne_nil hf h hwarnings
  have hleaves : f.trace.failingLeaves = f.reasons := if_neg hholds
  rw [hleaves]
  refine ⟨Setting.walk_reasons_ne_nil hf, ?_⟩
  obtain ⟨os, hos, hattributes⟩ := Setting.walk_attributedTo hf
  have htold : ∀ x ∈ f.reasons, x.actual = context.valueOf x.field
      ∧ (f.warnings = [] → x.negated = x.passed) := by
    intro x hx
    refine ⟨(Setting.walk_backs hf x hx).actual_eq, fun hwarnings => ?_⟩
    have htruth : f.truth = .fails := by
      cases h : f.truth with
      | holds => exact absurd h hholds
      | fails => rfl
      | errs => exact absurd h (herrs hwarnings)
    exact Setting.walk_reasons_negated hf htruth x hx
  refine ⟨os, hos, c.occurrences_ascending.sublist hos, ?_, ?_⟩
  · rw [← map_leaf_occurrences]
    exact hos.map _
  · refine ((List.forall₂_and_left _ _).2 ⟨htold, hattributes⟩).imp fun x o hxo => ?_
    obtain ⟨⟨hactual, hpassed⟩, hattribute⟩ := hxo
    refine ⟨hattribute.leaf, hactual, fun hwarnings => ⟨?_, hpassed hwarnings⟩⟩
    rw [hattribute.negated (herrs hwarnings), Occurrence.isNegated, decide_eq_true_iff]

/-- Condition with an `industry` that is named, and `oversight` for whoever names one. -/
def overseenIndustryRule : Condition :=
  .and
    [.or [.leaf ⟨"oversight", .isTrue, .null⟩, .not (.leaf ⟨"industry", .isNotNull, .null⟩)],
     .leaf ⟨"industry", .isNotNull, .null⟩]

/-- The `industry` that stands below a negation is blamed, and not its other place. -/
theorem evaluate_attributes_overseenIndustryRule :
    let context := Context.empty.insert "industry" (.text "health")
    ∃ t, overseenIndustryRule.evaluate .still .default context = .ok t
      ∧ t.passed = false ∧ t.warnings = []
      ∧ t.failingLeaves.map (fun x => (x.field, x.negated))
          = [("oversight", false), ("industry", true)]
      ∧ t.failingLeaves ≠ []
      ∧ ∃ os : List Occurrence,
        os.Sublist overseenIndustryRule.occurrences ∧ os.Pairwise Occurrence.Before
        ∧ List.Forall₂ (fun x o => x.leaf = o.leaf ∧ x.actual = context.valueOf x.field
            ∧ (x.negated = true ↔ o.negations % 2 = 1) ∧ x.negated = x.passed)
          t.failingLeaves os := by
  intro context
  obtain ⟨t, ht⟩ : ∃ t, overseenIndustryRule.evaluate .still .default context = .ok t := ⟨_, rfl⟩
  have htrace : t.passed = false ∧ t.warnings = []
      ∧ t.failingLeaves.map (fun x => (x.field, x.negated))
          = [("oversight", false), ("industry", true)] := by
    obtain rfl := Except.ok.inj ht
    exact ⟨rfl, rfl, rfl⟩
  obtain ⟨hfails, hwarnings, hleaves⟩ := htrace
  obtain ⟨hne, os, hos, hbefore, -, hattributes⟩ :=
    evaluate_attributes .still .default context overseenIndustryRule t ht hfails
  refine ⟨t, ht, hfails, hwarnings, hleaves, hne, os, hos, hbefore, ?_⟩
  exact hattributes.imp fun x o hxo => ⟨hxo.1, hxo.2.1, hxo.2.2 hwarnings⟩

end Condition

end Governance
