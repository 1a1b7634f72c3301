import Governance.Proofs.Evaluation.Algebra
import Governance.Proofs.Evaluation.Errors
import Governance.Pattern.Program

/-!
# What an evaluation depends on

A walk looks at the fields of the leaves that it reaches and at no others. Which leaves these are is
settled on the way: a child is reached when the children before it have left the matter open, and
nothing is reached once a node cannot be evaluated. A context with the same values for these fields
may say of all others what it likes.

* `reached_sublist`, `reached_eq_visited`: the leaves reached are leaves of the condition, and those
  that a finding counts.
* `walk_inContext`: a walk over another context that agrees on the leaves reached finds the same.
* `evaluate_eq_of_agree`: so evaluations depend on these leaves only.
-/

namespace Governance

namespace Context

/-- The context `c` without the field `name`. -/
def without (c : Context) (name : String) : Context := ⟨Keyed.erase c.fields name⟩

theorem valueOf_without_of_ne {name other : String} (h : other ≠ name) (c : Context) :
    (c.without name).valueOf other = c.valueOf other := by
  simp only [valueOf, get?, without, Keyed.find?_erase_of_ne h]

end Context

/-- A part with the truth `t` leaves it to the next one how a conjunction goes on. -/
def Truth.opensAll (t : Truth) : Bool := t == .holds

/-- A part with the truth `t` leaves it to the next one how a disjunction goes on. -/
def Truth.opensAny (t : Truth) : Bool := t != .holds

theorem Truth.opensAll_iff {t : Truth} : t.opensAll = true ↔ t = .holds := beq_iff_eq

theorem Truth.opensAny_iff {t : Truth} : t.opensAny = true ↔ t ≠ .holds := bne_iff_ne

namespace Setting

/-! ### Leaves reached -/

section Library

variable [Pattern.Library]

mutual

/-- The leaves of `c` whose fields a `walk` looks at, in the order of the visits. -/
def reached (s : Setting) (depth : Nat) (c : Condition) : List Leaf :=
  if s.maxDepth < depth then []
  else
    match c with
    | .leaf l => if l.operator.isLogical then [] else [l]
    | .and cs => reachedWhile s (depth + 1) Truth.opensAll cs
    | .or cs => reachedWhile s (depth + 1) Truth.opensAny cs
    | .not c => reached s (depth + 1) c

/-- Those below some children, which are walked over as long as `isOpen` is true of their truths. -/
def reachedWhile (s : Setting) (depth : Nat) (isOpen : Truth → Bool) : List Condition → List Leaf
  | [] => []
  | c :: cs =>
    reached s depth c ++
      match s.walk depth c with
      | .ok f => if isOpen f.truth then reachedWhile s depth isOpen cs else []
      | .error _ => []

end

section Equations

variable {s : Setting} {depth : Nat} {isOpen : Truth → Bool} {c : Condition} {f : Finding}
  (cs : List Condition)

theorem reachedWhile_of_open (h : s.walk depth c = .ok f) (hf : isOpen f.truth = true) :
    s.reachedWhile depth isOpen (c :: cs)
      = s.reached depth c ++ s.reachedWhile depth isOpen cs := by
  simp only [reachedWhile, h, if_pos hf]

theorem reachedWhile_of_settled (h : s.walk depth c = .ok f) (hf : ¬ isOpen f.truth = true) :
    s.reachedWhile depth isOpen (c :: cs) = s.reached depth c := by
  simp only [reachedWhile, h, if_neg hf, List.append_nil]

theorem reached_subset_reachedWhile :
    s.reached depth c ⊆ s.reachedWhile depth isOpen (c :: cs) := by
  rw [reachedWhile]
  exact List.subset_append_left _ _

end Equations

section Equations

variable {s : Setting} {depth : Nat} (h : depth ≤ s.maxDepth)
include h

theorem reached_leaf {l : Leaf} (hl : l.operator.isLogical = false) :
    s.reached depth (.leaf l) = [l] := by
  simp only [reached, if_neg (Nat.not_lt.2 h), hl, Bool.false_eq_true, if_false]

theorem reached_and (cs : List Condition) :
    s.reached depth (.and cs) = s.reachedWhile (depth + 1) Truth.opensAll cs := by
  rw [reached, if_neg (Nat.not_lt.2 h)]

theorem reached_or (cs : List Condition) :
    s.reached depth (.or cs) = s.reachedWhile (depth + 1) Truth.opensAny cs := by
  rw [reached, if_neg (Nat.not_lt.2 h)]

theorem reached_not (c : Condition) : s.reached depth (.not c) = s.reached (depth + 1) c := by
  rw [reached, if_neg (Nat.not_lt.2 h)]

end Equations

/-- **Only leaves of the condition are reached**, each in its turn: `reached` is a sublist of
`c.leaves`. -/
theorem reached_sublist (s : Setting) (depth : Nat) (c : Condition) :
    (s.reached depth c).Sublist c.leaves := by
  have children (isOpen : Truth → Bool) (cs : List Condition)
      (ih : ∀ c ∈ cs, ∀ depth, (s.reached depth c).Sublist c.leaves) (depth : Nat) :
      (s.reachedWhile depth isOpen cs).Sublist (cs.flatMap Condition.leaves) := by
    induction cs with
    | nil => exact List.nil_sublist _
    | cons c cs ihcs =>
      rw [reachedWhile, List.flatMap_cons]
      refine (ih c List.mem_cons_self depth).append ?_
      split
      · split
        · exact ihcs fun d hd => ih d (List.mem_cons_of_mem c hd)
        · exact List.nil_sublist _
      · exact List.nil_sublist _
  induction c generalizing depth with
  | leaf l =>
    unfold reached
    split
    · exact List.nil_sublist _
    · dsimp only
      split
      · exact List.nil_sublist _
      · exact List.Sublist.refl _
  | and cs ih =>
    rw [reached, Condition.leaves_and]
    split
    · exact List.nil_sublist _
    · exact children _ cs ih (depth + 1)
  | or cs ih =>
    rw [reached, Condition.leaves_or]
    split
    · exact List.nil_sublist _
    · exact children _ cs ih (depth + 1)
  | not c ih =>
    rw [reached]
    split
    · exact List.nil_sublist _
    · exact ih (depth + 1)

theorem isLogical_of_reply {s : Setting} {l : Leaf} {a : Except EvaluationError Bool}
    (h : s.reply l = some a) : l.operator.isLogical = false := by
  obtain ⟨judgement, hj, -⟩ := Option.map_eq_some_iff.1 h
  refine Bool.eq_false_iff.2 fun hlogical => ?_
  rw [Operator.judgement?_eq_none_iff.2 hlogical] at hj
  exact absurd hj (by simp)

/-- **The leaves reached are those that a finding counts**: when the `walk` ends, `reached` and
`visited` are one list. -/
theorem reached_eq_visited {s : Setting} {c : Condition} {depth : Nat} {f : Finding}
    (h : s.walk depth c = .ok f) : s.reached depth c = c.visited s.reading := by
  have all (cs : List Condition)
      (ih : ∀ c ∈ cs, ∀ {depth f}, s.walk depth c = .ok f →
        s.reached depth c = c.visited s.reading)
      {depth : Nat} {f : Finding} (h : s.walkAll depth cs = .ok f) :
      s.reachedWhile depth Truth.opensAll cs = Condition.visitedAll s.reading cs := by
    induction cs generalizing f with
    | nil => rw [reachedWhile, Condition.visitedAll]
    | cons c cs ihcs =>
      rw [walkAll] at h
      split at h
      · exact absurd h (by simp)
      · next first hfirst =>
        rw [Condition.visitedAll, ← ih c List.mem_cons_self hfirst, ← walk_truth hfirst]
        split at h
        · next hholds =>
          obtain ⟨rest, hrest, -⟩ := map_eq_ok_iff.1 h
          rw [reachedWhile_of_open cs hfirst (Truth.opensAll_iff.2 hholds), if_pos hholds,
            ihcs (fun d hd => ih d (List.mem_cons_of_mem c hd)) hrest]
        · next hholds =>
          rw [reachedWhile_of_settled cs hfirst (mt Truth.opensAll_iff.1 hholds), if_neg hholds,
            List.append_nil]
  have any (cs : List Condition)
      (ih : ∀ c ∈ cs, ∀ {depth f}, s.walk depth c = .ok f →
        s.reached depth c = c.visited s.reading)
      {depth : Nat} {f : Finding} (h : s.walkAny depth cs = .ok f) :
      s.reachedWhile depth Truth.opensAny cs = Condition.visitedAny s.reading cs := by
    induction cs generalizing f with
    | nil => rw [reachedWhile, Condition.visitedAny]
    | cons c cs ihcs =>
      rw [walkAny] at h
      split at h
      · exact absurd h (by simp)
      · next first hfirst =>
        rw [Condition.visitedAny, ← ih c List.mem_cons_self hfirst, ← walk_truth hfirst]
        split at h
        · next hholds =>
          rw [reachedWhile_of_settled cs hfirst fun h => Truth.opensAny_iff.1 h hholds,
            if_pos hholds, List.append_nil]
        · next hholds =>
          obtain ⟨rest, hrest, -⟩ := map_eq_ok_iff.1 h
          rw [reachedWhile_of_open cs hfirst (Truth.opensAny_iff.2 hholds), if_neg hholds,
            ihcs (fun d hd => ih d (List.mem_cons_of_mem c hd)) hrest]
  induction c generalizing depth f with
  | leaf l =>
    have hle := (depth_le_of_walk h).1
    rw [walk_leaf hle] at h
    obtain ⟨a, ha, -⟩ := reply_of_visit h
    rw [reached_leaf hle (isLogical_of_reply ha), Condition.visited]
  | and cs ih =>
    obtain ⟨hle, hand, -⟩ := depth_le_of_walk h
    rw [walk_and hle fun hcs => hand (by rw [hcs])] at h
    rw [reached_and hle, Condition.visited, all cs ih h]
  | or cs ih =>
    obtain ⟨hle, -, hor⟩ := depth_le_of_walk h
    rw [walk_or hle fun hcs => hor (by rw [hcs])] at h
    rw [reached_or hle, Condition.visited, any cs ih h]
  | not c ih =>
    have hle := (depth_le_of_walk h).1
    rw [walk_not hle] at h
    obtain ⟨g, hg, -⟩ := map_eq_ok_iff.1 h
    rw [reached_not hle, Condition.visited, ih hg]

/-! ### Walks over another context -/

/-- The setting `s` with another `context`. -/
def inContext (s : Setting) (context : Context) : Setting := { s with context := context }

variable {s : Setting} {context : Context}

/-- A visit of `l` is the same `inContext` when its field has the same value there. -/
theorem visit_inContext {l : Leaf} (h : context.valueOf l.field = s.context.valueOf l.field) :
    (s.inContext context).visit l = s.visit l := by
  have hresult (passed : Bool) (error : Option String) :
      (s.inContext context).resultOf l passed error = s.resultOf l passed error := by
    simp only [resultOf, inContext, h]
  have hanswer (judgement : Judgement) :
      (s.inContext context).answer l judgement = s.answer l judgement := by
    simp only [answer, inContext, h]
  have hfinding (a : Except EvaluationError Bool) :
      (s.inContext context).findingOf l a = s.findingOf l a := by
    rcases a with e | b
    · simp only [findingOf, hresult]
    · cases b <;> simp only [findingOf, hresult]
  simp only [visit, hanswer, hfinding]

theorem walk_of_lt {s : Setting} {depth : Nat} (h : s.maxDepth < depth) (c : Condition) :
    s.walk depth c = .error (.depthExceeded s.maxDepth) := by
  unfold walk
  rw [if_pos h]

theorem visit_of_isLogical {s : Setting} {l : Leaf} (h : l.operator.isLogical = true) :
    s.visit l = .error (.unhandledOperator l.operator l.field) := by
  rw [visit, Operator.judgement?_eq_none_iff.2 h]

/-- An operation on the parts of a combination that looks at the second part only if `isOpen` is
true of the first. -/
structure StopsAt (isOpen : Truth → Bool)
    (op : Except FatalError Finding → Except FatalError Finding → Except FatalError Finding) :
    Prop where
  error : ∀ e b b', op (.error e) b = op (.error e) b'
  settled : ∀ f b b', ¬ isOpen f.truth = true → op (.ok f) b = op (.ok f) b'

omit [Pattern.Library] in
theorem stopsAt_meet : StopsAt Truth.opensAll Finding.meet where
  error _ _ _ := rfl
  settled f b b' h := by
    have hf := mt Truth.opensAll_iff.2 h
    rw [Finding.meet_of_not_holds b hf, Finding.meet_of_not_holds b' hf]

omit [Pattern.Library] in
theorem stopsAt_join : StopsAt Truth.opensAny Finding.join where
  error _ _ _ := rfl
  settled f b b' h := by
    have hf := Decidable.not_not.1 (mt Truth.opensAny_iff.2 h)
    rw [Finding.join_of_holds b hf, Finding.join_of_holds b' hf]

/-- Folded by `op`, the walks over `cs` are alike in both contexts if those over the children
reached are (`ih`). -/
theorem foldr_walk_inContext {isOpen : Truth → Bool}
    {op : Except FatalError Finding → Except FatalError Finding → Except FatalError Finding}
    (hop : StopsAt isOpen op) (unit : Except FatalError Finding) {depth : Nat}
    {cs : List Condition}
    (ih : ∀ c ∈ cs, (∀ l ∈ s.reached depth c,
      context.valueOf l.field = s.context.valueOf l.field) →
        (s.inContext context).walk depth c = s.walk depth c)
    (h : ∀ l ∈ s.reachedWhile depth isOpen cs,
      context.valueOf l.field = s.context.valueOf l.field) :
    (cs.map ((s.inContext context).walk depth)).foldr op unit
      = (cs.map (s.walk depth)).foldr op unit := by
  induction cs with
  | nil => rfl
  | cons c cs ihcs =>
    rw [List.map_cons, List.map_cons, List.foldr_cons, List.foldr_cons,
      ih c List.mem_cons_self fun l hl => h l (reached_subset_reachedWhile cs hl)]
    cases hw : s.walk depth c with
    | error e => exact hop.error e _ _
    | ok f =>
      by_cases hf : isOpen f.truth = true
      · rw [reachedWhile_of_open cs hw hf] at h
        rw [ihcs (fun d hd => ih d (List.mem_cons_of_mem c hd))
          fun l hl => h l (List.mem_append_right _ hl)]
      · exact hop.settled f _ _ hf

/-- **A walk finds what the leaves on its way say.** Over a `context` that gives the same values to
the fields of the leaves `reached`, it finds the same or ends for the same reason. -/
theorem walk_inContext {c : Condition} {depth : Nat}
    (h : ∀ l ∈ s.reached depth c, context.valueOf l.field = s.context.valueOf l.field) :
    (s.inContext context).walk depth c = s.walk depth c := by
  have tooDeep {c : Condition} {depth : Nat} (hlt : s.maxDepth < depth) :
      (s.inContext context).walk depth c = s.walk depth c := by
    rw [walk_of_lt hlt]
    exact walk_of_lt (s := s.inContext context) hlt c
  induction c generalizing depth with
  | leaf l =>
    rcases Nat.lt_or_ge s.maxDepth depth with hlt | hle
    · exact tooDeep hlt
    rw [walk_leaf hle, walk_leaf (s := s.inContext context) hle]
    cases hlogical : l.operator.isLogical with
    | true => rw [visit_of_isLogical hlogical, visit_of_isLogical hlogical]
    | false =>
      rw [reached_leaf hle hlogical] at h
      exact visit_inContext (h l (List.mem_singleton_self l))
  | and cs ih =>
    rcases Nat.lt_or_ge s.maxDepth depth with hlt | hle
    · exact tooDeep hlt
    rw [reached_and hle] at h
    by_cases hcs : cs = []
    · rw [hcs, walk_and_nil hle, walk_and_nil (s := s.inContext context) hle]
    · rw [walk_and hle hcs, walk_and (s := s.inContext context) hle hcs, walkAll_eq, walkAll_eq]
      exact foldr_walk_inContext stopsAt_meet _ (fun c hc hagree => ih c hc hagree) h
  | or cs ih =>
    rcases Nat.lt_or_ge s.maxDepth depth with hlt | hle
    · exact tooDeep hlt
    rw [reached_or hle] at h
    by_cases hcs : cs = []
    · rw [hcs, walk_or_nil hle, walk_or_nil (s := s.inContext context) hle]
    · rw [walk_or hle hcs, walk_or (s := s.inContext context) hle hcs, walkAny_eq, walkAny_eq]
      exact foldr_walk_inContext stopsAt_join _ (fun c hc hagree => ih c hc hagree) h
  | not c ih =>
    rcases Nat.lt_or_ge s.maxDepth depth with hlt | hle
    · exact tooDeep hlt
    rw [reached_not hle] at h
    rw [walk_not hle, walk_not (s := s.inContext context) hle, ih h]

end Library

end Setting

namespace Condition

/-- Contexts that give the same values to the fields of `c.leaves` make no difference to
`evaluate`. -/
theorem evaluate_congr [Pattern.Library] {c : Condition} {clock : Pattern.Clock}
    {limits : EvaluationLimits} {context context' : Context}
    (h : ∀ l ∈ c.leaves, context'.valueOf l.field = context.valueOf l.field) :
    c.evaluate clock limits context' = c.evaluate clock limits context := by
  have hwalk : ((limits.setting clock context).inContext context').walk 1 c
      = (limits.setting clock context).walk 1 c :=
    Setting.walk_inContext fun l hl => h l ((Setting.reached_sublist _ 1 c).subset hl)
  rw [evaluate_eq, evaluate_eq]
  exact congrArg _ hwalk

/-- **An evaluation depends on the leaves that it reaches.** These are some of `c.leaves`, from left
to right, as many as `t.leavesEvaluated` counts. A `context'` that gives the same values to their
fields makes no difference, neither to the trace nor to why there is none; so any other field `name`
may change or go missing. -/
theorem evaluate_eq_of_agree [Pattern.Library] (clock : Pattern.Clock) (limits : EvaluationLimits)
    (context : Context) (c : Condition) :
    let reached := (limits.setting clock context).reached 1 c
    reached.Sublist c.leaves
    ∧ (∀ t, c.evaluate clock limits context = .ok t → t.leavesEvaluated = reached.length)
    ∧ (∀ context' : Context,
      (∀ l ∈ reached, context'.valueOf l.field = context.valueOf l.field) →
        c.evaluate clock limits context' = c.evaluate clock limits context)
    ∧ ∀ name : String, (∀ l ∈ reached, l.field ≠ name) →
      (∀ value, c.evaluate clock limits (context.insert name value)
        = c.evaluate clock limits context)
      ∧ c.evaluate clock limits (context.without name) = c.evaluate clock limits context := by
  intro reached
  have hagree (context' : Context)
      (h : ∀ l ∈ reached, context'.valueOf l.field = context.valueOf l.field) :
      c.evaluate clock limits context' = c.evaluate clock limits context := by
    rw [evaluate_eq, evaluate_eq]
    exact congrArg _ (Setting.walk_inContext h)
  refine ⟨Setting.reached_sublist _ 1 c, fun t ht => ?_, hagree, fun name hname => ⟨?_, ?_⟩⟩
  · obtain ⟨f, hf, rfl⟩ := Condition.evaluate_eq_ok_iff.1 ht
    show f.visited = _
    rw [(Setting.walk_account hf).visited, ← Setting.reached_eq_visited hf]
  · exact fun value => hagree _ fun l hl => Context.valueOf_insert_of_ne (hname l hl) context value
  · exact hagree _ fun l hl => Context.valueOf_without_of_ne (hname l hl) context

/-- Condition with `oversight` or a high `risk`, a `draft`, and an `owner`. -/
def ownedDraftRule : Condition :=
  .and
    [.or [.leaf ⟨"oversight", .isTrue, .null⟩, .leaf ⟨"risk", .greaterThan, .number .zero⟩],
     .leaf ⟨"draft", .isTrue, .null⟩, .leaf ⟨"owner", .isNotNull, .null⟩]

/-- With `oversight` the `risk` is not looked at, and without a `draft` the `owner` is not: a `risk`
that is no number may go missing, and an `owner` may be named. -/
theorem evaluate_eq_of_agree_ownedDraftRule :
    let context :=
      (Context.empty.insert "oversight" (.bool true)).insert "risk" (.text "high")
    let context' :=
      (Context.empty.insert "oversight" (.bool true)).insert "owner" (.text "ops")
    let reached := (EvaluationLimits.default.setting .still context).reached 1 ownedDraftRule
    reached.map Leaf.field = ["oversight", "draft"]
    ∧ (∀ l ∈ reached, context'.valueOf l.field = context.valueOf l.field)
    ∧ (∀ l ∈ reached, l.field ≠ "risk")
    ∧ ∃ t, ownedDraftRule.evaluate .still .default context = .ok t
      ∧ t.passed = false ∧ t.leavesEvaluated = 2
      ∧ ownedDraftRule.evaluate .still .default context' = .ok t
      ∧ ownedDraftRule.evaluate .still .default (context.without "risk") = .ok t := by
  intro context context' reached
  have hreached : reached
      = [⟨"oversight", .isTrue, .null⟩, ⟨"draft", .isTrue, .null⟩] := rfl
  have hagree : ∀ l ∈ reached, context'.valueOf l.field = context.valueOf l.field := by
    rw [hreached]
    exact List.forall_mem_cons.2 ⟨rfl, List.forall_mem_singleton.2 rfl⟩
  have hrisk : ∀ l ∈ reached, l.field ≠ "risk" := by
    rw [hreached]
    decide
  obtain ⟨t, ht⟩ : ∃ t, ownedDraftRule.evaluate .still .default context = .ok t := ⟨_, rfl⟩
  have hpassed : t.passed = false := by
    obtain rfl := Except.ok.inj ht
    rfl
  obtain ⟨-, hcount, hsame, hother⟩ :=
    evaluate_eq_of_agree .still .default context ownedDraftRule
  exact ⟨by rw [hreached]; rfl, hagree, hrisk, t, ht, hpassed, hcount t ht,
    (hsame context' hagree).trans ht, (hother "risk" hrisk).2.trans ht⟩

end Condition

end Governance
