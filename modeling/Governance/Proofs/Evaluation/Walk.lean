import Governance.Proofs.Evaluation.Truth
import Governance.Proofs.Except

/-!
# What every walk does

A walk may stop early, so that what it finds is built from some of the children only.
`walk_induction` lists the ways in which a finding comes about; whatever holds along all of them
holds of every finding, and nothing that follows needs to open the walk again.

* `walk_isOk`: a well-formed condition that is not too deep is walked over to the end.
* `walk_truth`: what a walk finds is the truth of the condition.
* `walk_warnings_ne_nil`: an error leaves a warning.
* `walk_reasons_ne_nil`: whatever a walk finds is due to some leaf.
* `walk_account`: a finding counts the visited leaves, warns of those that err, and blames some of
  them, from left to right.
-/

namespace Governance

variable [Pattern.Library]

/-- A condition is evaluated to `t` when the `walk` from its root finds something whose `trace` is
`t`. -/
theorem Condition.evaluate_eq_ok_iff {clock : Pattern.Clock} {limits : EvaluationLimits}
    {context : Context} {c : Condition} {t : Trace} :
    c.evaluate clock limits context = .ok t ↔
      ∃ f, (limits.setting clock context).walk 1 c = .ok f ∧ f.trace = t := by
  rw [Condition.evaluate_eq]
  exact map_eq_ok_iff

omit [Pattern.Library] in
theorem Finding.mem_failingLeaves_iff {f : Finding} {r : LeafResult} :
    r ∈ f.trace.failingLeaves ↔ f.truth ≠ .holds ∧ r ∈ f.reasons := by
  unfold Finding.trace
  by_cases hholds : f.truth = .holds <;> simp [hholds]

omit [Pattern.Library] in
theorem Finding.failingLeaves_of_fails {f : Finding} (h : f.trace.passed = false) :
    f.trace.failingLeaves = f.reasons :=
  if_neg fun hholds => Bool.eq_false_iff.1 h (beq_iff_eq.2 hholds)

/-- The leaf that the result `r` is about. -/
def LeafResult.leaf (r : LeafResult) : Leaf := ⟨r.field, r.operator, r.expected⟩

/-- The warning that an error `e` of the leaf `l` leaves. -/
def Leaf.warning (l : Leaf) (e : EvaluationError) : Warning :=
  ⟨l.field, l.operator, e.code, e.message⟩

namespace Truth

/-- The truth of a leaf's answer; an error is `errs`. -/
def ofAnswer : Except EvaluationError Bool → Truth
  | .ok b => .ofBool b
  | .error _ => .errs

omit [Pattern.Library] in
theorem flip_eq_errs_iff {a : Truth} : a.flip = .errs ↔ a = .errs := by
  cases a <;> decide

omit [Pattern.Library] in
theorem errs_of_either {a b : Truth} (h : a.either b = .errs) : a = .errs ∨ b = .errs := by
  cases a <;> cases b <;> revert h <;> decide

omit [Pattern.Library] in
theorem ofAnswer_eq_errs_iff {a : Except EvaluationError Bool} :
    ofAnswer a = .errs ↔ ∃ e, a = .error e := by
  rcases a with e | b
  · simp [ofAnswer]
  · cases b <;> simp [ofAnswer, ofBool]

end Truth

namespace Finding

omit [Pattern.Library] in
theorem truth_negate (f : Finding) : f.negate.truth = f.truth.flip := by
  unfold negate
  split
  · next h => rw [h]; rfl
  · rfl

omit [Pattern.Library] in
theorem warnings_negate (f : Finding) : f.negate.warnings = f.warnings := by
  unfold negate
  split <;> rfl

omit [Pattern.Library] in
theorem truth_conjoin {first : Finding} (h : first.truth = .holds) (rest : Finding) :
    (first.conjoin rest).truth = first.truth.both rest.truth := by
  rw [Truth.both, if_pos h]
  rfl

omit [Pattern.Library] in
theorem truth_disjoin {first : Finding} (h : first.truth ≠ .holds) (rest : Finding) :
    (first.disjoin rest).truth = first.truth.either rest.truth := by
  rw [Truth.either, if_neg h]
  rfl

omit [Pattern.Library] in
theorem visited_negate (f : Finding) : f.negate.visited = f.visited := by
  unfold negate
  split <;> rfl

omit [Pattern.Library] in
theorem leaf_reasons_negate (f : Finding) :
    f.negate.reasons.map LeafResult.leaf = f.reasons.map LeafResult.leaf := by
  unfold negate
  split
  · rfl
  · rw [List.map_map]
    rfl

end Finding

namespace Condition

/-! ### Visited leaves -/

mutual

/-- The leaves that a walk reaches when the leaves have the truths `r`: a conjunction is left after
its first child that does not hold, a disjunction after its first child that does. -/
def visited (r : Leaf → Truth) : Condition → List Leaf
  | .leaf l => [l]
  | .and cs => visitedAll r cs
  | .or cs => visitedAny r cs
  | .not c => visited r c

def visitedAll (r : Leaf → Truth) : List Condition → List Leaf
  | [] => []
  | c :: cs => visited r c ++ if c.truth r = .holds then visitedAll r cs else []

def visitedAny (r : Leaf → Truth) : List Condition → List Leaf
  | [] => []
  | c :: cs => visited r c ++ if c.truth r = .holds then [] else visitedAny r cs

end

omit [Pattern.Library] in
theorem visited_sublist (r : Leaf → Truth) (c : Condition) :
    (c.visited r).Sublist c.leaves := by
  induction c with
  | leaf l => exact List.Sublist.refl [l]
  | and cs ih =>
    rw [leaves_and, visited]
    induction cs with
    | nil => exact .slnil
    | cons c cs ihcs =>
      rw [visitedAll, List.flatMap_cons]
      refine (ih c List.mem_cons_self).append ?_
      split
      · exact ihcs fun d hd => ih d (List.mem_cons_of_mem c hd)
      · exact List.nil_sublist _
  | or cs ih =>
    rw [leaves_or, visited]
    induction cs with
    | nil => exact .slnil
    | cons c cs ihcs =>
      rw [visitedAny, List.flatMap_cons]
      refine (ih c List.mem_cons_self).append ?_
      split
      · exact List.nil_sublist _
      · exact ihcs fun d hd => ih d (List.mem_cons_of_mem c hd)
  | not c ih => exact ih

end Condition

namespace Setting

/-! ### Leaves -/

/-- The answer of the leaf `l`, if its operator judges a field. -/
def reply (s : Setting) (l : Leaf) : Option (Except EvaluationError Bool) :=
  l.operator.judgement?.map (s.answer l)

/-- The truth of the leaf `l`; one that has no `reply` counts as an error. -/
def reading (s : Setting) (l : Leaf) : Truth := (s.reply l).elim .errs Truth.ofAnswer

theorem exists_reply_of_wellFormed (s : Setting) {l : Leaf}
    (h : (Condition.leaf l).isWellFormed = true) : ∃ a, s.reply l = some a := by
  rw [reply]
  cases hj : l.operator.judgement? with
  | none =>
    have hlogical := Operator.judgement?_eq_none_iff.1 hj
    rw [Condition.isWellFormed_leaf_iff.1 h] at hlogical
    exact absurd hlogical (by decide)
  | some j => exact ⟨s.answer l j, rfl⟩

theorem visit_of_reply {s : Setting} {l : Leaf} {a : Except EvaluationError Bool}
    (h : s.reply l = some a) : s.visit l = .ok (s.findingOf l a) := by
  obtain ⟨j, hj, rfl⟩ := Option.map_eq_some_iff.1 h
  rw [visit, hj]

theorem reply_of_visit {s : Setting} {l : Leaf} {f : Finding} (h : s.visit l = .ok f) :
    ∃ a, s.reply l = some a ∧ f = s.findingOf l a := by
  unfold visit at h
  split at h
  · exact absurd h (by simp)
  · next j hj => exact ⟨s.answer l j, by rw [reply, hj]; rfl, (Except.ok.inj h).symm⟩

omit [Pattern.Library] in
theorem findingOf_truth (s : Setting) (l : Leaf) (a : Except EvaluationError Bool) :
    (s.findingOf l a).truth = .ofAnswer a := by
  rcases a with e | b
  · rfl
  · cases b <;> rfl

omit [Pattern.Library] in
theorem findingOf_reasons (s : Setting) (l : Leaf) (a : Except EvaluationError Bool) :
    (s.findingOf l a).reasons.map LeafResult.leaf = [l] := by
  rcases a with e | b
  · rfl
  · cases b <;> rfl

/-! ### Equations of a walk that is not too deep -/

section Equations

variable {s : Setting} {depth : Nat} (h : depth ≤ s.maxDepth)
include h

theorem walk_leaf (l : Leaf) : s.walk depth (.leaf l) = s.visit l := by
  rw [walk, if_neg (by omega)]

theorem walk_and {cs : List Condition} (hcs : cs ≠ []) :
    s.walk depth (.and cs) = s.walkAll (depth + 1) cs := by
  cases cs with
  | nil => exact absurd rfl hcs
  | cons c cs => rw [walk, if_neg (by omega)]

theorem walk_or {cs : List Condition} (hcs : cs ≠ []) :
    s.walk depth (.or cs) = s.walkAny (depth + 1) cs := by
  cases cs with
  | nil => exact absurd rfl hcs
  | cons c cs => rw [walk, if_neg (by omega)]

theorem walk_not (c : Condition) :
    s.walk depth (.not c) = (s.walk (depth + 1) c).map Finding.negate := by
  rw [walk, if_neg (by omega)]

end Equations

/-! ### Accounts -/

/-- The warning of the leaf `l`, if it errs. -/
def warning? (s : Setting) (l : Leaf) : Option Warning :=
  match s.reply l with
  | some (.error e) => some (l.warning e)
  | _ => none

theorem warning?_eq_some_iff {s : Setting} {l : Leaf} {w : Warning} :
    s.warning? l = some w ↔ ∃ e, s.reply l = some (.error e) ∧ l.warning e = w := by
  unfold warning?
  split
  · next e he => simp [he]
  · next hne => simpa using fun e he => absurd he (hne e)

/-- The finding `f` counts the leaves `ls`, warns of those that err, and blames some of them. -/
structure Accounts (s : Setting) (ls : List Leaf) (f : Finding) : Prop where
  visited : f.visited = ls.length
  warnings : f.warnings = ls.filterMap s.warning?
  reasons : (f.reasons.map LeafResult.leaf).Sublist ls

theorem accounts_vacuous (s : Setting) : s.Accounts [] .vacuous := ⟨rfl, rfl, .slnil⟩

theorem accounts_impossible (s : Setting) : s.Accounts [] .impossible := ⟨rfl, rfl, .slnil⟩

theorem accounts_findingOf {s : Setting} {l : Leaf} {a : Except EvaluationError Bool}
    (h : s.reply l = some a) : s.Accounts [l] (s.findingOf l a) := by
  refine ⟨?_, ?_, ?_⟩
  · rcases a with e | b
    · rfl
    · cases b <;> rfl
  · rw [List.filterMap_cons, warning?, h]
    rcases a with e | b
    · rfl
    · cases b <;> rfl
  · rw [findingOf_reasons]

namespace Accounts

variable {s : Setting} {ls ms : List Leaf} {f g : Finding}

theorem negate (hf : s.Accounts ls f) : s.Accounts ls f.negate := by
  refine ⟨?_, ?_, ?_⟩
  · rw [Finding.visited_negate, hf.visited]
  · rw [Finding.warnings_negate, hf.warnings]
  · rw [Finding.leaf_reasons_negate]
    exact hf.reasons

theorem conjoin (hf : s.Accounts ls f) (hg : s.Accounts ms g) :
    s.Accounts (ls ++ ms) (f.conjoin g) := by
  refine ⟨?_, ?_, ?_⟩
  · show f.visited + g.visited = _
    rw [hf.visited, hg.visited, List.length_append]
  · show f.warnings ++ g.warnings = _
    rw [hf.warnings, hg.warnings, List.filterMap_append]
  · show (List.map _ (if g.truth = .holds then f.reasons ++ g.reasons else g.reasons)).Sublist _
    split
    · rw [List.map_append]
      exact hf.reasons.append hg.reasons
    · exact hg.reasons.trans (List.sublist_append_right ls ms)

theorem disjoin (hf : s.Accounts ls f) (hg : s.Accounts ms g) :
    s.Accounts (ls ++ ms) (f.disjoin g) := by
  refine ⟨?_, ?_, ?_⟩
  · show f.visited + g.visited = _
    rw [hf.visited, hg.visited, List.length_append]
  · show f.warnings ++ g.warnings = _
    rw [hf.warnings, hg.warnings, List.filterMap_append]
  · show (List.map _ (if g.truth = .holds then g.reasons else f.reasons ++ g.reasons)).Sublist _
    split
    · exact hg.reasons.trans (List.sublist_append_right ls ms)
    · rw [List.map_append]
      exact hf.reasons.append hg.reasons

end Accounts

/-! ### Induction over walks -/

/-- A `walk` that ends started within `s.maxDepth`, and not at an empty combination. -/
theorem depth_le_of_walk {s : Setting} {depth : Nat} {c : Condition} {f : Finding}
    (h : s.walk depth c = .ok f) : depth ≤ s.maxDepth ∧ c ≠ .and [] ∧ c ≠ .or [] := by
  unfold walk at h
  split at h
  · exact absurd h (by simp)
  · next hd =>
    refine ⟨by omega, ?_, ?_⟩
    · rintro rfl
      exact absurd h (by simp)
    · rintro rfl
      exact absurd h (by simp)

/-- **Induction over walks.** `P` is claimed of nodes, `A` of the children of conjunctions and `O`
of the children of disjunctions, each with what the `walk` over them finds. The walk over a child is
at hand wherever its truth decides how the walk goes on. -/
theorem walk_induction {s : Setting} {P : Condition → Finding → Prop}
    {A O : List Condition → Finding → Prop}
    (leaf : ∀ l a, s.reply l = some a → P (.leaf l) (s.findingOf l a))
    (and : ∀ cs f, cs ≠ [] → A cs f → P (.and cs) f)
    (or : ∀ cs f, cs ≠ [] → O cs f → P (.or cs) f)
    (not : ∀ c f, P c f → P (.not c) f.negate)
    (allNil : A [] .vacuous)
    (allStop : ∀ c cs d f, s.walk d c = .ok f → P c f → f.truth ≠ .holds → A (c :: cs) f)
    (allGo : ∀ c cs d f g, s.walk d c = .ok f → P c f → f.truth = .holds → A cs g →
      A (c :: cs) (f.conjoin g))
    (anyNil : O [] .impossible)
    (anyStop : ∀ c cs d f, s.walk d c = .ok f → P c f → f.truth = .holds → O (c :: cs) f)
    (anyGo : ∀ c cs d f g, s.walk d c = .ok f → P c f → f.truth ≠ .holds → O cs g →
      O (c :: cs) (f.disjoin g))
    {c : Condition} {depth : Nat} {f : Finding} (h : s.walk depth c = .ok f) : P c f := by
  -- The children of a combination, once the claim is known of each of them.
  have all (cs : List Condition) (ih : ∀ c ∈ cs, ∀ {depth f}, s.walk depth c = .ok f → P c f)
      {depth : Nat} {f : Finding} (h : s.walkAll depth cs = .ok f) : A cs f := by
    induction cs generalizing f with
    | nil =>
      obtain rfl : Finding.vacuous = f := Except.ok.inj h
      exact allNil
    | cons c cs ihcs =>
      rw [walkAll] at h
      split at h
      · exact absurd h (by simp)
      · next first hfirst =>
        have hc := ih c List.mem_cons_self hfirst
        split at h
        · next hholds =>
          obtain ⟨rest, hrest, rfl⟩ := map_eq_ok_iff.1 h
          exact allGo c cs depth first rest hfirst hc hholds
            (ihcs (fun d hd => ih d (List.mem_cons_of_mem c hd)) hrest)
        · next hholds =>
          obtain rfl := Except.ok.inj h
          exact allStop c cs depth first hfirst hc hholds
  have any (cs : List Condition) (ih : ∀ c ∈ cs, ∀ {depth f}, s.walk depth c = .ok f → P c f)
      {depth : Nat} {f : Finding} (h : s.walkAny depth cs = .ok f) : O cs f := by
    induction cs generalizing f with
    | nil =>
      obtain rfl : Finding.impossible = f := Except.ok.inj h
      exact anyNil
    | cons c cs ihcs =>
      rw [walkAny] at h
      split at h
      · exact absurd h (by simp)
      · next first hfirst =>
        have hc := ih c List.mem_cons_self hfirst
        split at h
        · next hholds =>
          obtain rfl := Except.ok.inj h
          exact anyStop c cs depth first hfirst hc hholds
        · next hholds =>
          obtain ⟨rest, hrest, rfl⟩ := map_eq_ok_iff.1 h
          exact anyGo c cs depth first rest hfirst hc hholds
            (ihcs (fun d hd => ih d (List.mem_cons_of_mem c hd)) hrest)
  induction c generalizing depth f with
  | leaf l =>
    rw [walk_leaf (depth_le_of_walk h).1] at h
    obtain ⟨a, ha, rfl⟩ := reply_of_visit h
    exact leaf l a ha
  | and cs ih =>
    obtain ⟨hd, hand, -⟩ := depth_le_of_walk h
    have hne : cs ≠ [] := fun hcs => hand (by rw [hcs])
    rw [walk_and hd hne] at h
    exact and cs f hne (all cs ih h)
  | or cs ih =>
    obtain ⟨hd, -, hor⟩ := depth_le_of_walk h
    have hne : cs ≠ [] := fun hcs => hor (by rw [hcs])
    rw [walk_or hd hne] at h
    exact or cs f hne (any cs ih h)
  | not c ih =>
    rw [walk_not (depth_le_of_walk h).1] at h
    obtain ⟨g, hg, rfl⟩ := map_eq_ok_iff.1 h
    exact not c g (ih hg)

/-! ### Walks to the end -/

/-- If all of `cs` are walked over to the end, so are they by `walkAll`. -/
theorem walkAll_isOk {s : Setting} {depth : Nat} {cs : List Condition}
    (h : ∀ c ∈ cs, ∃ f, s.walk depth c = .ok f) : ∃ f, s.walkAll depth cs = .ok f := by
  induction cs with
  | nil => exact ⟨.vacuous, by rw [walkAll]⟩
  | cons c cs ih =>
    obtain ⟨first, hfirst⟩ := h c List.mem_cons_self
    obtain ⟨rest, hrest⟩ := ih fun d hd => h d (List.mem_cons_of_mem c hd)
    simp only [walkAll, hfirst, hrest]
    by_cases hholds : first.truth = .holds
    · exact ⟨first.conjoin rest, by rw [if_pos hholds]; rfl⟩
    · exact ⟨first, by rw [if_neg hholds]⟩

theorem walkAny_isOk {s : Setting} {depth : Nat} {cs : List Condition}
    (h : ∀ c ∈ cs, ∃ f, s.walk depth c = .ok f) : ∃ f, s.walkAny depth cs = .ok f := by
  induction cs with
  | nil => exact ⟨.impossible, by rw [walkAny]⟩
  | cons c cs ih =>
    obtain ⟨first, hfirst⟩ := h c List.mem_cons_self
    obtain ⟨rest, hrest⟩ := ih fun d hd => h d (List.mem_cons_of_mem c hd)
    simp only [walkAny, hfirst, hrest]
    by_cases hholds : first.truth = .holds
    · exact ⟨first, by rw [if_pos hholds]⟩
    · exact ⟨first.disjoin rest, by rw [if_neg hholds]; rfl⟩

/-- **Progress.** A well-formed `c` no deeper than the `room` that is left of the depth is walked
over to the end. -/
theorem walk_isOk {s : Setting} {c : Condition} {depth room : Nat} (hc : c.isWellFormed = true)
    (hroom : depth + room = s.maxDepth + 1) (hd : c.depth ≤ room) :
    ∃ f, s.walk depth c = .ok f := by
  induction c generalizing depth room with
  | leaf l =>
    obtain ⟨n, rfl⟩ := Condition.exists_eq_succ_of_depth_le hd
    obtain ⟨a, ha⟩ := s.exists_reply_of_wellFormed hc
    exact ⟨s.findingOf l a, by rw [walk_leaf (by omega), visit_of_reply ha]⟩
  | and cs ih =>
    obtain ⟨n, rfl⟩ := Condition.exists_eq_succ_of_depth_le hd
    obtain ⟨hne, hall⟩ := Condition.isWellFormed_and_iff.1 hc
    rw [walk_and (by omega) hne]
    exact walkAll_isOk fun c hmem =>
      ih c hmem (hall c hmem) (by omega) (Condition.depth_and_le_succ_iff.1 hd c hmem)
  | or cs ih =>
    obtain ⟨n, rfl⟩ := Condition.exists_eq_succ_of_depth_le hd
    obtain ⟨hne, hall⟩ := Condition.isWellFormed_or_iff.1 hc
    rw [walk_or (by omega) hne]
    exact walkAny_isOk fun c hmem =>
      ih c hmem (hall c hmem) (by omega) (Condition.depth_or_le_succ_iff.1 hd c hmem)
  | not c ih =>
    obtain ⟨n, rfl⟩ := Condition.exists_eq_succ_of_depth_le hd
    rw [Condition.depth] at hd
    have hn : c.depth ≤ n := by omega
    have hbelow : depth + 1 + n = s.maxDepth + 1 := by omega
    obtain ⟨f, hf⟩ := ih hc hbelow hn
    exact ⟨f.negate, by rw [walk_not (by omega), hf]; rfl⟩

/-! ### What walks find -/

/-- **The walk finds the truth**, though it stops early: `f.truth` is `c.truth` by what the leaves
say. -/
theorem walk_truth {s : Setting} {c : Condition} {depth : Nat} {f : Finding}
    (h : s.walk depth c = .ok f) : f.truth = c.truth s.reading := by
  refine walk_induction (P := fun c f => f.truth = c.truth s.reading)
    (A := fun cs f => f.truth = .conjunction (Condition.truths s.reading cs))
    (O := fun cs f => f.truth = .disjunction (Condition.truths s.reading cs))
    ?_ ?_ ?_ ?_ ?_ ?_ ?_ ?_ ?_ ?_ h
  · intro l a ha
    rw [findingOf_truth, Condition.truth, reading, ha]
    rfl
  · exact fun cs f _ hf => hf
  · exact fun cs f _ hf => hf
  · intro c f hf
    rw [Finding.truth_negate, Condition.truth, hf]
  · rfl
  · intro c cs d f _ hf hstop
    show f.truth = (c.truth s.reading).both _
    rw [← hf, Truth.both, if_neg hstop]
  · intro c cs d f g _ hf hgo hg
    show (f.conjoin g).truth = (c.truth s.reading).both _
    rw [Finding.truth_conjoin hgo, hf, hg]
    rfl
  · rfl
  · intro c cs d f _ hf hstop
    show f.truth = (c.truth s.reading).either _
    rw [← hf, Truth.either, if_pos hstop, hstop]
  · intro c cs d f g _ hf hgo hg
    show (f.disjoin g).truth = (c.truth s.reading).either _
    rw [Finding.truth_disjoin hgo, hf, hg]
    rfl

/-- When `f` errs it has warnings. -/
theorem walk_warnings_ne_nil {s : Setting} {c : Condition} {depth : Nat} {f : Finding}
    (h : s.walk depth c = .ok f) (he : f.truth = .errs) : f.warnings ≠ [] := by
  refine walk_induction (P := fun _ f => f.truth = .errs → f.warnings ≠ [])
    (A := fun _ f => f.truth = .errs → f.warnings ≠ [])
    (O := fun _ f => f.truth = .errs → f.warnings ≠ [])
    ?_ ?_ ?_ ?_ ?_ ?_ ?_ ?_ ?_ ?_ h he
  · intro l a _ he
    rw [findingOf_truth] at he
    obtain ⟨e, rfl⟩ := Truth.ofAnswer_eq_errs_iff.1 he
    exact List.cons_ne_nil _ _
  · exact fun _ _ _ hf => hf
  · exact fun _ _ _ hf => hf
  · intro c f hf he
    rw [Finding.truth_negate] at he
    rw [Finding.warnings_negate]
    exact hf (Truth.flip_eq_errs_iff.1 he)
  · exact fun he => absurd he (by decide)
  · exact fun _ _ _ _ _ hf _ => hf
  · intro c cs d f g _ _ _ hg he
    exact List.append_ne_nil_of_right_ne_nil _ (hg he)
  · exact fun he => absurd he (by decide)
  · exact fun _ _ _ _ _ hf _ => hf
  · intro c cs d f g _ hf hgo hg he
    rw [Finding.truth_disjoin hgo] at he
    rcases Truth.errs_of_either he with hfe | hge
    · exact List.append_ne_nil_of_left_ne_nil (hf hfe) _
    · exact List.append_ne_nil_of_right_ne_nil _ (hg hge)

/-- **The account of a walk.** It counts the leaves `c.visited s.reading` and warns of those that
err, in their order; its reasons are among them (`Accounts`). -/
theorem walk_account {s : Setting} {c : Condition} {depth : Nat} {f : Finding}
    (h : s.walk depth c = .ok f) : s.Accounts (c.visited s.reading) f := by
  refine walk_induction (P := fun c f => s.Accounts (c.visited s.reading) f)
    (A := fun cs f => s.Accounts (Condition.visitedAll s.reading cs) f)
    (O := fun cs f => s.Accounts (Condition.visitedAny s.reading cs) f)
    ?_ ?_ ?_ ?_ ?_ ?_ ?_ ?_ ?_ ?_ h
  · exact fun l a ha => accounts_findingOf ha
  · exact fun cs f _ hf => hf
  · exact fun cs f _ hf => hf
  · exact fun c f hf => hf.negate
  · exact accounts_vacuous s
  · intro c cs d f hw hf hstop
    rw [walk_truth hw] at hstop
    rw [Condition.visitedAll, if_neg hstop, List.append_nil]
    exact hf
  · intro c cs d f g hw hf hgo hg
    rw [walk_truth hw] at hgo
    rw [Condition.visitedAll, if_pos hgo]
    exact hf.conjoin hg
  · exact accounts_impossible s
  · intro c cs d f hw hf hstop
    rw [walk_truth hw] at hstop
    rw [Condition.visitedAny, if_pos hstop, List.append_nil]
    exact hf
  · intro c cs d f g hw hf hgo hg
    rw [walk_truth hw] at hgo
    rw [Condition.visitedAny, if_neg hgo]
    exact hf.disjoin hg

/-- **Something is always responsible.** Every `walk` finds a leaf that its truth is due to. -/
theorem walk_reasons_ne_nil {s : Setting} {c : Condition} {depth : Nat} {f : Finding}
    (h : s.walk depth c = .ok f) : f.reasons ≠ [] := by
  -- Of no children the walk has no reason to name; then its truth is not the one that makes the
  -- reasons of an earlier child give way to its own.
  refine walk_induction (P := fun _ f => f.reasons ≠ [])
    (A := fun cs f => (f.truth ≠ .holds → f.reasons ≠ []) ∧ (cs ≠ [] → f.reasons ≠ []))
    (O := fun cs f => (f.truth = .holds → f.reasons ≠ []) ∧ (cs ≠ [] → f.reasons ≠ []))
    ?_ ?_ ?_ ?_ ?_ ?_ ?_ ?_ ?_ ?_ h
  · intro l a _ hnil
    have hleaf := s.findingOf_reasons l a
    rw [hnil] at hleaf
    exact absurd hleaf (by simp)
  · exact fun _ _ hne hf => hf.2 hne
  · exact fun _ _ hne hf => hf.2 hne
  · intro c f hf hnil
    have hleaves := f.leaf_reasons_negate
    rw [hnil] at hleaves
    exact hf (List.map_eq_nil_iff.1 hleaves.symm)
  · exact ⟨fun hholds => absurd rfl hholds, fun hne => absurd rfl hne⟩
  · exact fun _ _ _ _ _ hf _ => ⟨fun _ => hf, fun _ => hf⟩
  · intro c cs d f g _ hf _ hg
    have hne : (f.conjoin g).reasons ≠ [] := by
      show (if g.truth = .holds then f.reasons ++ g.reasons else g.reasons) ≠ []
      split
      · exact List.append_ne_nil_of_left_ne_nil hf _
      · next hfails => exact hg.1 hfails
    exact ⟨fun _ => hne, fun _ => hne⟩
  · exact ⟨fun hholds => absurd hholds (by decide), fun hne => absurd rfl hne⟩
  · exact fun _ _ _ _ _ hf _ => ⟨fun _ => hf, fun _ => hf⟩
  · intro c cs d f g _ hf _ hg
    have hne : (f.disjoin g).reasons ≠ [] := by
      show (if g.truth = .holds then g.reasons else f.reasons ++ g.reasons) ≠ []
      split
      · next hholds => exact hg.1 hholds
      · exact List.append_ne_nil_of_left_ne_nil hf _
    exact ⟨fun _ => hne, fun _ => hne⟩

/-- Every warning `w` of a `walk` is that of a leaf of `c` that errs. -/
theorem walk_warning {s : Setting} {c : Condition} {depth : Nat} {f : Finding}
    (h : s.walk depth c = .ok f) {w : Warning} (hw : w ∈ f.warnings) :
    ∃ l ∈ c.leaves, ∃ e, s.reply l = some (.error e) ∧ w = l.warning e := by
  rw [(walk_account h).warnings] at hw
  obtain ⟨l, hl, hlw⟩ := List.mem_filterMap.1 hw
  obtain ⟨e, he, rfl⟩ := warning?_eq_some_iff.1 hlw
  exact ⟨l, (Condition.visited_sublist s.reading c).subset hl, e, he, rfl⟩

/-- The reasons of a `walk` are about `c.leaves`, from left to right. -/
theorem walk_reasons_sublist {s : Setting} {c : Condition} {depth : Nat} {f : Finding}
    (h : s.walk depth c = .ok f) : (f.reasons.map LeafResult.leaf).Sublist c.leaves :=
  (walk_account h).reasons.trans (Condition.visited_sublist s.reading c)

end Setting

end Governance
