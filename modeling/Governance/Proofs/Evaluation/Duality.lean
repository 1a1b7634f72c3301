import Governance.Proofs.Evaluation.Algebra
import Governance.Proofs.Evaluation.Errors
import Governance.Pattern.Program

/-!
# Negated combinations

The negation of a conjunction and the disjunction of the negations visit the same leaves: the one
stops at the first child that fails, the other at the first negation that holds. So they leave the
same trace, and so do the negation of a disjunction and the conjunction of the negations, as long as
nothing errs.

A child that errs tells them apart: it stops a conjunction, but not a disjunction. The disjunction
of the negations may hold by a child that the negated conjunction never looks at. The other two hold
only if every child fails, so that either of them has looked at all.

* `map_negate_meets`, `map_negate_joins`: a negation goes through combinations that do not err.
* `flip_conjunction_le`, `truth_not_or_eq_holds_iff`: what is left of the laws with errors.
* `evaluate_deMorgan`: both laws for evaluations.
-/

namespace Governance

/-! ### Truths -/

namespace Truth

theorem flip_eq_holds_iff {a : Truth} : a.flip = .holds ↔ a = .fails := by
  cases a <;> decide

theorem either_eq_fails_iff {a b : Truth} : a.either b = .fails ↔ a = .fails ∧ b = .fails := by
  cases a <;> cases b <;> decide

theorem disjunction_eq_fails_iff {ts : List Truth} :
    disjunction ts = .fails ↔ ∀ t ∈ ts, t = .fails := by
  induction ts with
  | nil => simp [disjunction]
  | cons t ts ih =>
    rw [List.forall_mem_cons, ← ih]
    exact either_eq_fails_iff

theorem flip_both_le (a b : Truth) : (a.both b).flip ≤ a.flip.either b.flip := by
  cases a <;> cases b <;> decide

/-- **Half of a law survives errors.** Where the negation of the `conjunction` of `ts` does not err,
the `disjunction` of their negations has its truth. -/
theorem flip_conjunction_le (ts : List Truth) :
    (conjunction ts).flip ≤ disjunction (ts.map flip) := by
  induction ts with
  | nil => exact le_refl _
  | cons t ts ih =>
    calc (t.both (conjunction ts)).flip
        ≤ t.flip.either (conjunction ts).flip := flip_both_le t (conjunction ts)
      _ ≤ t.flip.either (disjunction (ts.map flip)) := either_mono (le_refl _) ih

end Truth

namespace Condition

theorem truths_map_not (r : Leaf → Truth) (cs : List Condition) :
    truths r (cs.map .not) = (truths r cs).map Truth.flip := by
  rw [truths_eq_map, truths_eq_map, List.map_map, List.map_map]
  rfl

/-- The negation of `.or cs` holds when the conjunction of the negations of `cs` does. -/
theorem truth_not_or_eq_holds_iff (r : Leaf → Truth) (cs : List Condition) :
    (Condition.not (.or cs)).truth r = .holds ↔ (Condition.and (cs.map .not)).truth r = .holds := by
  rw [truth, truth, truth, Truth.flip_eq_holds_iff, Truth.disjunction_eq_fails_iff, truths_map_not,
    Truth.conjunction_eq_holds_iff, List.forall_mem_map]
  exact forall₂_congr fun t _ => Truth.flip_eq_holds_iff.symm

theorem truth_not_and_le (r : Leaf → Truth) (cs : List Condition) :
    (Condition.not (.and cs)).truth r ≤ (Condition.or (cs.map .not)).truth r := by
  rw [truth, truth, truth, truths_map_not]
  exact Truth.flip_conjunction_le _

end Condition

/-! ### Findings -/

namespace Finding

/-- What the part `a` found, if anything, does not err. -/
def Settled (a : Except FatalError Finding) : Prop := ∀ f, a = .ok f → f.truth ≠ .errs

theorem Settled.negate {a : Except FatalError Finding} (h : Settled a) :
    Settled (a.map Finding.negate) := by
  intro f hf
  obtain ⟨g, hg, rfl⟩ := map_eq_ok_iff.1 hf
  rw [truth_negate, Ne, Truth.flip_eq_errs_iff]
  exact h g hg

theorem Settled.meet {a b : Except FatalError Finding} (ha : Settled a) (hb : Settled b) :
    Settled (meet a b) := by
  intro f hf
  cases a with
  | error e => exact absurd hf (by simp [Finding.meet])
  | ok g =>
    by_cases hg : g.truth = .holds
    · rw [meet_of_holds b hg] at hf
      obtain ⟨h, hh, rfl⟩ := map_eq_ok_iff.1 hf
      exact hb h hh
    · rw [meet_of_not_holds b hg] at hf
      exact ha f hf

theorem settled_meets {parts : List (Except FatalError Finding)} (h : ∀ a ∈ parts, Settled a) :
    Settled (meets parts) := by
  induction parts with
  | nil =>
    intro f hf
    obtain rfl := Except.ok.inj hf
    decide
  | cons a parts ih =>
    rw [List.forall_mem_cons] at h
    exact h.1.meet (ih h.2)

/-- Below `negate`, a `conjoin` of two parts that hold, or fail at the second, is a `disjoin`. -/
theorem negate_conjoin {f g : Finding} (hf : f.truth = .holds) (hg : g.truth ≠ .errs) :
    (f.conjoin g).negate = f.negate.disjoin g.negate := by
  obtain ⟨truth, reasons, warnings, visited⟩ := f
  obtain ⟨truth', reasons', warnings', visited'⟩ := g
  obtain rfl : truth = .holds := hf
  cases truth' with
  | holds => simp [negate, conjoin, disjoin, Truth.flip]
  | fails => simp [negate, conjoin, disjoin, Truth.flip]
  | errs => exact absurd rfl hg

/-- **A negation goes through a conjunction** whose parts are `Settled`: `meet` becomes `join`. -/
theorem map_negate_meet {a b : Except FatalError Finding} (ha : Settled a) (hb : Settled b) :
    (meet a b).map negate = join (a.map negate) (b.map negate) := by
  cases a with
  | error e => rfl
  | ok f =>
    show (meet (.ok f) b).map negate = join (.ok f.negate) (b.map negate)
    cases hf : f.truth with
    | holds =>
      have hnegate : f.negate.truth ≠ .holds := by
        rw [truth_negate, hf]
        decide
      rw [meet_of_holds b hf, join_of_not_holds _ hnegate]
      cases b with
      | error e => rfl
      | ok g => exact congrArg _ (negate_conjoin hf (hb g rfl))
    | fails =>
      have hfails : f.truth ≠ .holds := by
        rw [hf]
        decide
      have hnegate : f.negate.truth = .holds := by
        rw [truth_negate, hf]
        rfl
      rw [meet_of_not_holds b hfails, join_of_holds _ hnegate]
      rfl
    | errs => exact absurd hf (ha f rfl)

theorem map_negate_meets {parts : List (Except FatalError Finding)}
    (h : ∀ a ∈ parts, Settled a) :
    (meets parts).map negate = joins (parts.map fun a => a.map negate) := by
  induction parts with
  | nil => rfl
  | cons a parts ih =>
    rw [List.forall_mem_cons] at h
    show (meet a (meets parts)).map negate = join (a.map negate) _
    rw [map_negate_meet h.1 (settled_meets h.2), ih h.2]
    rfl

/-- A negation goes through `joins`. This is the law for conjunctions, said of the negations of the
`parts`. -/
theorem map_negate_joins {parts : List (Except FatalError Finding)}
    (h : ∀ a ∈ parts, Settled a) :
    (joins parts).map negate = meets (parts.map fun a => a.map negate) := by
  have hnegations : ∀ a ∈ parts.map fun a => a.map negate, Settled a := by
    intro a ha
    obtain ⟨b, hb, rfl⟩ := List.mem_map.1 ha
    exact (h b hb).negate
  have htwice : (parts.map fun a => a.map negate).map (fun a => a.map negate) = parts := by
    rw [List.map_map]
    exact List.map_id'' map_negate_map_negate parts
  have hmeets := map_negate_meets hnegations
  rw [htwice] at hmeets
  rw [← hmeets, map_negate_map_negate]

end Finding

namespace Setting

open Finding

section Library

variable [Pattern.Library]

/-- A `walk` over a condition no leaf of which errs is `Settled`. -/
theorem settled_walk {s : Setting} {c : Condition}
    (h : ∀ l ∈ c.leaves, ∀ e, s.reply l ≠ some (.error e)) (depth : Nat) :
    Settled (s.walk depth c) := by
  intro f hf herrs
  obtain ⟨w, hw⟩ := List.exists_mem_of_ne_nil _ (walk_warnings_ne_nil hf herrs)
  obtain ⟨l, hl, e, he, -⟩ := walk_warning hf hw
  exact h l hl e he

section

variable {s : Setting} {cs : List Condition} {depth : Nat} (hcs : cs ≠ [])
  (hd : depth + 1 ≤ s.maxDepth)
include hcs hd

/-- The walks below a negated combination start where those below the negations do, at
`depth + 2`. -/
theorem walk_not_and :
    s.walk depth (.not (.and cs)) = (meets (cs.map (s.walk (depth + 2)))).map negate := by
  rw [walk_not (by omega), walk_and hd hcs, walkAll_eq]

theorem walk_not_or :
    s.walk depth (.not (.or cs)) = (joins (cs.map (s.walk (depth + 2)))).map negate := by
  rw [walk_not (by omega), walk_or hd hcs, walkAny_eq]

theorem walk_and_nots :
    s.walk depth (.and (cs.map .not))
      = meets ((cs.map (s.walk (depth + 2))).map fun a => a.map negate) := by
  rw [walk_and (by omega) (by simpa using hcs), walkAll_eq, List.map_map, List.map_map]
  exact congrArg _ (List.map_congr_left fun c _ => walk_not hd c)

theorem walk_or_nots :
    s.walk depth (.or (cs.map .not))
      = joins ((cs.map (s.walk (depth + 2))).map fun a => a.map negate) := by
  rw [walk_or (by omega) (by simpa using hcs), walkAny_eq, List.map_map, List.map_map]
  exact congrArg _ (List.map_congr_left fun c _ => walk_not hd c)

end

end Library

end Setting

namespace Condition

theorem depthAll_map_not_le (cs : List Condition) :
    depthAll (cs.map .not) ≤ depthAll cs + 1 := by
  refine depthAll_le_iff.2 (List.forall_mem_map.2 fun c hc => ?_)
  have hle := depth_le_depthAll hc
  rw [depth]
  omega

theorem depthAll_add_two_le {cs : List Condition} {n : Nat} (hne : cs ≠ [])
    (h : ∀ c ∈ cs, c.depth + 2 ≤ n) : depthAll cs + 2 ≤ n := by
  obtain ⟨c, hc⟩ := List.exists_mem_of_ne_nil cs hne
  have hn := h c hc
  have hle : depthAll cs ≤ n - 2 := depthAll_le_iff.2 fun d hd => Nat.le_sub_of_add_le (h d hd)
  omega

/-- **De Morgan's laws.** Take well-formed conditions `cs` that fit `limits.maxDepth` under two more
nodes. If none of their leaves errs, the negation of `.and cs` and the disjunction of their
negations leave the same trace, and so do the negation of `.or cs` and the conjunction of their
negations. Whether leaves err or not, the latter two pass alike, and if the first of the former two
passes so does the second. One `clock` serves every visit (`Evaluator.Steady`). -/
theorem evaluate_deMorgan [Pattern.Library] (clock : Pattern.Clock) (limits : EvaluationLimits)
    (context : Context) (cs : List Condition) (hne : cs ≠ [])
    (hcs : ∀ c ∈ cs, c.isWellFormed = true) (hd : ∀ c ∈ cs, c.depth + 2 ≤ limits.maxDepth) :
    ∃ notAnd orNots notOr andNots : Trace,
      (Condition.not (.and cs)).evaluate clock limits context = .ok notAnd
      ∧ (Condition.or (cs.map .not)).evaluate clock limits context = .ok orNots
      ∧ (Condition.not (.or cs)).evaluate clock limits context = .ok notOr
      ∧ (Condition.and (cs.map .not)).evaluate clock limits context = .ok andNots
      ∧ ((∀ c ∈ cs, ∀ l ∈ c.leaves, ∀ e, (limits.setting clock context).reply l ≠ some (.error e)) →
        notAnd = orNots ∧ notOr = andNots)
      ∧ (notOr.passed = true ↔ andNots.passed = true)
      ∧ (notAnd.passed = true → orNots.passed = true) := by
  -- All four are well-formed and fit the limit, so all four have a trace.
  have hnots : ∀ c ∈ cs.map Condition.not, c.isWellFormed = true := List.forall_mem_map.2 hcs
  have hnots_ne : cs.map Condition.not ≠ [] := by simpa using hne
  have hdeep := depthAll_add_two_le hne hd
  have hdeepNots := depthAll_map_not_le cs
  have hnotAnd_depth : (Condition.not (.and cs)).depth ≤ limits.maxDepth := by
    rw [depth, depth]
    omega
  have horNots_depth : (Condition.or (cs.map .not)).depth ≤ limits.maxDepth := by
    rw [depth]
    omega
  obtain ⟨notAnd, hnotAnd, htnotAnd⟩ :=
    evaluate_isOk clock context (c := .not (.and cs)) (isWellFormed_and_iff.2 ⟨hne, hcs⟩)
      hnotAnd_depth
  obtain ⟨orNots, horNots, htorNots⟩ :=
    evaluate_isOk clock context (c := .or (cs.map .not))
      (isWellFormed_or_iff.2 ⟨hnots_ne, hnots⟩) horNots_depth
  obtain ⟨notOr, hnotOr, htnotOr⟩ :=
    evaluate_isOk clock context (c := .not (.or cs)) (isWellFormed_or_iff.2 ⟨hne, hcs⟩)
      hnotAnd_depth
  obtain ⟨andNots, handNots, htandNots⟩ :=
    evaluate_isOk clock context (c := .and (cs.map .not))
      (isWellFormed_and_iff.2 ⟨hnots_ne, hnots⟩) horNots_depth
  have hlimit : 2 ≤ limits.maxDepth := by omega
  refine ⟨notAnd.trace, orNots.trace, notOr.trace, andNots.trace, htnotAnd, htorNots, htnotOr,
    htandNots, ?_, ?_, ?_⟩
  · intro hanswers
    have hsettled : ∀ a ∈ cs.map ((limits.setting clock context).walk 3), Finding.Settled a :=
      List.forall_mem_map.2 fun c hc => Setting.settled_walk (hanswers c hc) 3
    rw [Setting.walk_not_and hne hlimit, Finding.map_negate_meets hsettled,
      ← Setting.walk_or_nots hne hlimit, horNots] at hnotAnd
    rw [Setting.walk_not_or hne hlimit, Finding.map_negate_joins hsettled,
      ← Setting.walk_and_nots hne hlimit, handNots] at hnotOr
    rw [Except.ok.inj hnotAnd, Except.ok.inj hnotOr]
    exact ⟨rfl, rfl⟩
  · rw [Finding.passed_trace_iff, Finding.passed_trace_iff, Setting.walk_truth hnotOr,
      Setting.walk_truth handNots]
    exact truth_not_or_eq_holds_iff _ cs
  · rw [Finding.passed_trace_iff, Finding.passed_trace_iff, Setting.walk_truth hnotAnd,
      Setting.walk_truth horNots]
    exact Truth.eq_holds_of_le (truth_not_and_le _ cs)

/-- With `oversight`, and a `draft` that is not there. -/
theorem evaluate_deMorgan_overseen :
    let cs : List Condition :=
      [.leaf ⟨"oversight", .isTrue, .null⟩, .leaf ⟨"draft", .isTrue, .null⟩]
    let context := Context.empty.insert "oversight" (.bool true)
    cs ≠ [] ∧ (∀ c ∈ cs, c.isWellFormed = true)
    ∧ (∀ c ∈ cs, c.depth + 2 ≤ EvaluationLimits.default.maxDepth)
    ∧ (∀ c ∈ cs, ∀ l ∈ c.leaves, ∀ e,
        (EvaluationLimits.default.setting .still context).reply l ≠ some (.error e))
    ∧ ∃ notAnd notOr : Trace,
      (Condition.not (.and cs)).evaluate .still .default context = .ok notAnd
      ∧ (Condition.or (cs.map .not)).evaluate .still .default context = .ok notAnd
      ∧ (Condition.not (.or cs)).evaluate .still .default context = .ok notOr
      ∧ (Condition.and (cs.map .not)).evaluate .still .default context = .ok notOr
      ∧ notAnd.passed = true ∧ notAnd.leavesEvaluated = 2
      ∧ notOr.passed = false ∧ notOr.leavesEvaluated = 1 := by
  intro cs context
  have hne : cs ≠ [] := List.cons_ne_nil _ _
  have hcs : ∀ c ∈ cs, c.isWellFormed = true := by decide
  have hd : ∀ c ∈ cs, c.depth + 2 ≤ EvaluationLimits.default.maxDepth := by decide
  have hanswers : ∀ c ∈ cs, ∀ l ∈ c.leaves, ∀ e,
      (EvaluationLimits.default.setting .still context).reply l ≠ some (.error e) := by
    intro c hc l hl e he
    obtain rfl | rfl : l = ⟨"oversight", .isTrue, .null⟩ ∨ l = ⟨"draft", .isTrue, .null⟩ := by
      have hleaves := leaves_subset_of_mem hc hl
      simpa [cs, leaves] using hleaves
    · have htrue : Except.ok true = Except.error e := Option.some.inj he
      exact absurd htrue (by simp)
    · have hfalse : Except.ok false = Except.error e := Option.some.inj he
      exact absurd hfalse (by simp)
  obtain ⟨notAnd, orNots, notOr, andNots, hnotAnd, horNots, hnotOr, handNots, hsame, -⟩ :=
    evaluate_deMorgan .still .default context cs hne hcs hd
  obtain ⟨rfl, rfl⟩ := hsame hanswers
  have htraces : notAnd.passed = true ∧ notAnd.leavesEvaluated = 2
      ∧ notOr.passed = false ∧ notOr.leavesEvaluated = 1 := by
    obtain rfl := Except.ok.inj hnotAnd
    obtain rfl := Except.ok.inj hnotOr
    exact ⟨rfl, rfl, rfl, rfl⟩
  exact ⟨hne, hcs, hd, hanswers, notAnd, notOr, hnotAnd, horNots, hnotOr, handNots, htraces⟩

/-- With a `risk` that is no number the disjunction of the negations passes by the `draft` that is
not there, and the negation of the conjunction does not. -/
example :
    let cs : List Condition :=
      [.leaf ⟨"risk", .greaterThan, .number .zero⟩, .leaf ⟨"draft", .isTrue, .null⟩]
    let context := Context.empty.insert "risk" (.text "high")
    ((Condition.not (.and cs)).evaluate .still .default context).map Trace.passed = .ok false
    ∧ ((Condition.or (cs.map .not)).evaluate .still .default context).map Trace.passed
      = .ok true := ⟨rfl, rfl⟩

end Condition

end Governance
