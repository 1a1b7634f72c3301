import Governance.Proofs.Evaluation.Walk

/-!
# The algebra of walks

A walk over the children of a combination is put together from the walks over each of them, from
left to right. For conjunctions the operation is `Finding.meet`, for disjunctions `Finding.join`:
the second part is looked at only if the first leaves the matter open, and a condition that cannot
be evaluated ends both. Each is associative and has the combination of nothing for its unit, so that
it does not matter how parts are grouped.

* `walkAll_eq`, `walkAny_eq`: the walk over children is the meet, or the join, of their walks.
* `meet_assoc`, `join_assoc`, `foldr_nested`: grouping does not matter.
* `map_negate_map_negate`: two negations leave a walk as it was.
* `walk_eq_of_room`: where a walk starts does not matter, as long as there is room.
-/

namespace Governance

/-- A `foldr` of an associative `op` may take the arguments `inner` together. -/
theorem foldr_nested {α : Type} {op : α → α → α} {unit : α} [Std.Associative op]
    [Std.LawfulLeftIdentity op unit] (before inner after : List α) :
    (before ++ inner.foldr op unit :: after).foldr op unit
      = (before ++ inner ++ after).foldr op unit := by
  have hassoc : inner.foldr op (op unit (after.foldr op unit))
      = op (inner.foldr op unit) (after.foldr op unit) := List.foldr_assoc
  have hunit : op unit (after.foldr op unit) = after.foldr op unit :=
    Std.LawfulLeftIdentity.left_id _
  rw [List.foldr_append, List.foldr_cons, ← hassoc, hunit, List.append_assoc, List.foldr_append,
    List.foldr_append]

namespace Finding

/-! ### Two parts, one after the other -/

/-- Two parts of a conjunction: `rest` is looked at when `first` finds that it holds. -/
def meet (first rest : Except FatalError Finding) : Except FatalError Finding :=
  match first with
  | .error e => .error e
  | .ok f => if f.truth = .holds then rest.map f.conjoin else .ok f

/-- Two parts of a disjunction: `rest` is looked at when `first` finds that it does not hold. -/
def join (first rest : Except FatalError Finding) : Except FatalError Finding :=
  match first with
  | .error e => .error e
  | .ok f => if f.truth = .holds then .ok f else rest.map f.disjoin

section

variable {f : Finding} (b : Except FatalError Finding)

theorem meet_of_holds (h : f.truth = .holds) : meet (.ok f) b = b.map f.conjoin := if_pos h

theorem meet_of_not_holds (h : f.truth ≠ .holds) : meet (.ok f) b = .ok f := if_neg h

theorem join_of_holds (h : f.truth = .holds) : join (.ok f) b = .ok f := if_pos h

theorem join_of_not_holds (h : f.truth ≠ .holds) : join (.ok f) b = b.map f.disjoin := if_neg h

end

/-! ### Units -/

theorem vacuous_conjoin (f : Finding) : vacuous.conjoin f = f := by
  obtain ⟨truth, reasons, warnings, visited⟩ := f
  simp [vacuous, conjoin]

theorem impossible_disjoin (f : Finding) : impossible.disjoin f = f := by
  obtain ⟨truth, reasons, warnings, visited⟩ := f
  cases truth <;> simp [impossible, disjoin]

theorem conjoin_vacuous {f : Finding} (h : f.truth = .holds) : f.conjoin vacuous = f := by
  obtain ⟨truth, reasons, warnings, visited⟩ := f
  obtain rfl : truth = .holds := h
  simp [vacuous, conjoin]

theorem disjoin_impossible (f : Finding) : f.disjoin impossible = f := by
  obtain ⟨truth, reasons, warnings, visited⟩ := f
  simp [impossible, disjoin]

theorem vacuous_meet (b : Except FatalError Finding) : meet (.ok vacuous) b = b := by
  rw [meet_of_holds b rfl]
  cases b with
  | error e => rfl
  | ok g => exact congrArg _ (vacuous_conjoin g)

theorem impossible_join (b : Except FatalError Finding) : join (.ok impossible) b = b := by
  rw [join_of_not_holds b (by decide)]
  cases b with
  | error e => rfl
  | ok g => exact congrArg _ (impossible_disjoin g)

theorem meet_vacuous (a : Except FatalError Finding) : meet a (.ok vacuous) = a := by
  cases a with
  | error e => rfl
  | ok f =>
    by_cases h : f.truth = .holds
    · rw [meet_of_holds _ h]
      exact congrArg _ (conjoin_vacuous h)
    · rw [meet_of_not_holds _ h]

theorem join_impossible (a : Except FatalError Finding) : join a (.ok impossible) = a := by
  cases a with
  | error e => rfl
  | ok f =>
    by_cases h : f.truth = .holds
    · rw [join_of_holds _ h]
    · rw [join_of_not_holds _ h]
      exact congrArg _ (disjoin_impossible f)

/-! ### Grouping -/

/-- With `conjoin` the reasons of an earlier part stay as long as all parts hold. -/
theorem conjoin_assoc {g : Finding} (hg : g.truth = .holds) (f h : Finding) :
    (f.conjoin g).conjoin h = f.conjoin (g.conjoin h) := by
  unfold conjoin
  by_cases hh : h.truth = .holds
  · simp [hg, hh, Nat.add_assoc]
  · simp [hh, Nat.add_assoc]

/-- With `disjoin` the reasons of an earlier part stay as long as no part holds. -/
theorem disjoin_assoc {g : Finding} (hg : g.truth ≠ .holds) (f h : Finding) :
    (f.disjoin g).disjoin h = f.disjoin (g.disjoin h) := by
  unfold disjoin
  cases hh : h.truth with
  | holds => simp [Nat.add_assoc]
  | fails => simp [hg, Nat.add_assoc]
  | errs => simp [hg, Nat.add_assoc]

/-- **The parts of a conjunction may be grouped**: `meet` is associative, on errors too. -/
theorem meet_assoc (a b c : Except FatalError Finding) :
    meet (meet a b) c = meet a (meet b c) := by
  cases a with
  | error e => rfl
  | ok f =>
    by_cases hf : f.truth = .holds
    · -- The first part leaves it to the second whether the third is looked at.
      rw [meet_of_holds _ hf, meet_of_holds _ hf]
      cases b with
      | error e => rfl
      | ok g =>
        show meet (.ok (f.conjoin g)) c = (meet (.ok g) c).map f.conjoin
        by_cases hg : g.truth = .holds
        · rw [meet_of_holds c hg, meet_of_holds c (f := f.conjoin g) hg]
          cases c with
          | error e => rfl
          | ok h => exact congrArg _ (conjoin_assoc hg f h)
        · rw [meet_of_not_holds c hg, meet_of_not_holds c (f := f.conjoin g) hg]
          rfl
    · rw [meet_of_not_holds _ hf, meet_of_not_holds _ hf, meet_of_not_holds _ hf]

/-- When `f` does not hold, `f.disjoin g` holds exactly when `g` does. -/
theorem truth_disjoin_eq_holds_iff {f : Finding} (hf : f.truth ≠ .holds) (g : Finding) :
    (f.disjoin g).truth = .holds ↔ g.truth = .holds := by
  rw [truth_disjoin hf]
  cases hft : f.truth with
  | holds => exact absurd hft hf
  | fails => cases g.truth <;> decide
  | errs => cases g.truth <;> decide

/-- **The parts of a disjunction may be grouped**: `join` is associative, on errors too. -/
theorem join_assoc (a b c : Except FatalError Finding) :
    join (join a b) c = join a (join b c) := by
  cases a with
  | error e => rfl
  | ok f =>
    by_cases hf : f.truth = .holds
    · rw [join_of_holds _ hf, join_of_holds _ hf, join_of_holds _ hf]
    · rw [join_of_not_holds _ hf, join_of_not_holds _ hf]
      cases b with
      | error e => rfl
      | ok g =>
        show join (.ok (f.disjoin g)) c = (join (.ok g) c).map f.disjoin
        have hfg := truth_disjoin_eq_holds_iff hf g
        by_cases hg : g.truth = .holds
        · rw [join_of_holds c hg, join_of_holds c (hfg.2 hg)]
          rfl
        · rw [join_of_not_holds c hg, join_of_not_holds c (fun h => hg (hfg.1 h))]
          cases c with
          | error e => rfl
          | ok h => exact congrArg _ (disjoin_assoc hg f h)

instance : Std.Associative meet := ⟨meet_assoc⟩

instance : Std.Associative join := ⟨join_assoc⟩

instance : Std.LawfulLeftIdentity meet (.ok vacuous) where
  left_id := vacuous_meet

instance : Std.LawfulLeftIdentity join (.ok impossible) where
  left_id := impossible_join

/-! ### Any number of parts -/

/-- All `parts` of a conjunction, put together by `meet`. -/
def meets (parts : List (Except FatalError Finding)) : Except FatalError Finding :=
  parts.foldr meet (.ok vacuous)

/-- All `parts` of a disjunction, put together by `join`. -/
def joins (parts : List (Except FatalError Finding)) : Except FatalError Finding :=
  parts.foldr join (.ok impossible)

/-! ### Negations -/

/-- Finding by finding, `negate` turns truth and reasons round unless the truth is `errs`; a second
`negate` turns them back or leaves them again. -/
theorem negate_negate (f : Finding) : f.negate.negate = f := by
  obtain ⟨truth, reasons, warnings, visited⟩ := f
  have hflip : LeafResult.flip ∘ LeafResult.flip = id := funext LeafResult.flip_flip
  cases truth <;> simp [negate, Truth.flip, hflip]

theorem map_negate_map_negate (a : Except FatalError Finding) :
    (a.map negate).map negate = a := by
  cases a with
  | error e => rfl
  | ok f => exact congrArg _ (negate_negate f)

end Finding

namespace Setting

open Finding

/-! ### Walks over children -/

variable [Pattern.Library]

theorem walkAll_eq (s : Setting) (depth : Nat) (cs : List Condition) :
    s.walkAll depth cs = meets (cs.map (s.walk depth)) := by
  induction cs with
  | nil => rw [walkAll]; rfl
  | cons c cs ih =>
    rw [walkAll, ih]
    rfl

theorem walkAny_eq (s : Setting) (depth : Nat) (cs : List Condition) :
    s.walkAny depth cs = joins (cs.map (s.walk depth)) := by
  induction cs with
  | nil => rw [walkAny]; rfl
  | cons c cs ih =>
    rw [walkAny, ih]
    rfl

/-! ### Where a walk starts -/

omit [Pattern.Library] in
/-- With room for `c` below `depth`, the `walk` is not too deep. -/
theorem depth_le_of_room {s : Setting} {c : Condition} {depth : Nat}
    (h : depth + c.depth ≤ s.maxDepth + 1) : depth ≤ s.maxDepth := by
  have hpos := c.depth_pos
  omega

theorem walk_and_nil {s : Setting} {depth : Nat} (h : depth ≤ s.maxDepth) :
    s.walk depth (.and []) = .error (.emptyComposite .and) := by
  rw [walk, if_neg (by omega)]

theorem walk_or_nil {s : Setting} {depth : Nat} (h : depth ≤ s.maxDepth) :
    s.walk depth (.or []) = .error (.emptyComposite .or) := by
  rw [walk, if_neg (by omega)]

/-- **Depth is a limit and nothing else.** With room for `c` the `walk` finds the same from `depth`
and from `depth'`, be `c` well-formed or not. -/
theorem walk_eq_of_room {s : Setting} {c : Condition} {depth depth' : Nat}
    (h : depth + c.depth ≤ s.maxDepth + 1) (h' : depth' + c.depth ≤ s.maxDepth + 1) :
    s.walk depth c = s.walk depth' c := by
  -- The room for the children of a combination is what the combination itself leaves.
  have children (cs : List Condition)
      (ih : ∀ c ∈ cs, ∀ {depth depth' : Nat}, depth + c.depth ≤ s.maxDepth + 1 →
        depth' + c.depth ≤ s.maxDepth + 1 → s.walk depth c = s.walk depth' c)
      {depth depth' : Nat} (h : depth + (1 + Condition.depthAll cs) ≤ s.maxDepth + 1)
      (h' : depth' + (1 + Condition.depthAll cs) ≤ s.maxDepth + 1) :
      cs.map (s.walk (depth + 1)) = cs.map (s.walk (depth' + 1)) := by
    refine List.map_congr_left fun c hc => ?_
    have hle := Condition.depth_le_depthAll hc
    exact ih c hc (by omega) (by omega)
  induction c generalizing depth depth' with
  | leaf l => rw [walk_leaf (depth_le_of_room h), walk_leaf (depth_le_of_room h')]
  | and cs ih =>
    by_cases hcs : cs = []
    · subst hcs
      rw [walk_and_nil (depth_le_of_room h), walk_and_nil (depth_le_of_room h')]
    · rw [walk_and (depth_le_of_room h) hcs, walk_and (depth_le_of_room h') hcs, walkAll_eq,
        walkAll_eq, children cs ih h h']
  | or cs ih =>
    by_cases hcs : cs = []
    · subst hcs
      rw [walk_or_nil (depth_le_of_room h), walk_or_nil (depth_le_of_room h')]
    · rw [walk_or (depth_le_of_room h) hcs, walk_or (depth_le_of_room h') hcs, walkAny_eq,
        walkAny_eq, children cs ih h h']
  | not c ih =>
    rw [walk_not (depth_le_of_room h), walk_not (depth_le_of_room h')]
    rw [Condition.depth] at h h'
    have hc : s.walk (depth + 1) c = s.walk (depth' + 1) c := ih (by omega) (by omega)
    rw [hc]

theorem map_walk_eq_of_room {s : Setting} {cs : List Condition} {depth depth' : Nat}
    (h : depth + Condition.depthAll cs ≤ s.maxDepth + 1)
    (h' : depth' + Condition.depthAll cs ≤ s.maxDepth + 1) :
    cs.map (s.walk depth) = cs.map (s.walk depth') := by
  refine List.map_congr_left fun c hc => ?_
  have hle := Condition.depth_le_depthAll hc
  exact walk_eq_of_room (by omega) (by omega)

end Setting

end Governance
