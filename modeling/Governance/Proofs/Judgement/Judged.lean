import Governance.Bulk
import Governance.Proofs.Judgement.Outcome

/-!
# Judgements of policies

A policy with what judging it has given, and what is counted and collected of it. The parts of a
judgement agree, and apart from what is minted a judgement is the same whether it is made in a row
with others or by itself.

* `coherent_judge`: what holds of every judgement.
* `AreJudgements`: what holds of the judgements of some policies, however they came about; for
  `judgeEach` and `judgeSingly` it holds (`areJudgements_judgeEach`, `areJudgements_judgeSingly`).
* `AreJudgements.alike`, `alike_judgeEach`: judging in a row is judging one by one.
* `Alike.countP_eq`, `Alike.filterMap_eq`, `Alike.map_flatMap_eq`: what is counted and collected of
  judgements that are alike is the same.
-/

namespace Governance

/-- A policy and what judging it has given. -/
abbrev Judged := Policy × Except Unjudged Outcome

namespace Judged

/-! ### Single judgements -/

/-- Whether the policy of `j` is kept. -/
def passed (j : Judged) : Bool :=
  match j.2 with
  | .ok o => o.passed
  | .error _ => false

/-- Whether the policy of `j` is violated. -/
def violated (j : Judged) : Bool :=
  match j.2 with
  | .ok o => !o.passed
  | .error _ => false

/-- Whether the policy of `j` could not be judged. -/
def fatal (j : Judged) : Bool :=
  match j.2 with
  | .ok _ => false
  | .error _ => true

def violations (j : Judged) : List Violation :=
  match j.2 with
  | .ok o => o.violations
  | .error _ => []

def notifications (j : Judged) : List Notification :=
  match j.2 with
  | .ok o => o.decision.notifications
  | .error _ => []

/-- What is to be done about `j`, if the policy could be judged. -/
def action? (j : Judged) : Option EnforcementAction :=
  match j.2 with
  | .ok o => some o.decision.action
  | .error _ => none

/-- What is told of the policy of `j` if it could not be judged. -/
def failure? (j : Judged) : Option PolicyFailure :=
  match j.2 with
  | .ok _ => none
  | .error e => some ⟨j.1.id, j.1.content.name, e.message⟩

/-- Whether the policy of `j` prevents and is violated. -/
def blocking (j : Judged) : Bool := j.violated && j.1.content.enforcementMode == .prevent

/-- The judgement `j` without what was minted for it. -/
def unminted (j : Judged) : Judged := (j.1, j.2.map Outcome.unminted)

/-- What holds of every judgement: a policy that is kept has no violation, and nothing is to be done
about it; one that is violated has a violation; violations name the policy; and only a violated
policy that prevents is to be blocked. -/
structure Coherent (j : Judged) : Prop where
  kept : j.passed = true → j.violations = [] ∧ j.notifications = [] ∧ j.action? = some .none
  violated : j.violated = true → j.violations ≠ []
  policyId : ∀ v ∈ j.violations, v.policyId = j.1.id
  action : j.action? = some .blocked ↔ j.blocking = true

theorem Coherent.violations_ne_nil_iff {j : Judged} (h : j.Coherent) :
    j.violations ≠ [] ↔ j.violated = true := by
  refine ⟨fun hne => ?_, h.violated⟩
  obtain ⟨p, judgement⟩ := j
  cases judgement with
  | error e => exact absurd rfl hne
  | ok o =>
    cases hpassed : o.passed with
    | true => exact absurd (h.kept hpassed).1 hne
    | false => simp [Judged.violated, hpassed]

theorem blocking_iff {j : Judged} :
    j.blocking = true ↔ j.violated = true ∧ j.1.content.enforcementMode = .prevent := by
  simp [blocking]

/-- In `judged` each policy is `passed`, `violated` or `fatal`. -/
theorem countP_add_countP_add_countP (judged : List Judged) :
    judged.countP passed + judged.countP violated + judged.countP fatal = judged.length := by
  induction judged with
  | nil => rfl
  | cons j judged ih =>
    obtain ⟨p, judgement⟩ := j
    rw [List.countP_cons, List.countP_cons, List.countP_cons, List.length_cons, ← ih]
    cases judgement with
    | error e =>
      simp only [passed, violated, fatal, if_true, Bool.false_eq_true, if_false]
      omega
    | ok o =>
      cases hpassed : o.passed <;>
        simp only [passed, violated, fatal, hpassed, Bool.not_true, Bool.not_false, if_true,
          Bool.false_eq_true, if_false] <;> omega

end Judged

/-- The mode `prevent` alone leads to `blocked`. -/
theorem EnforcementMode.action_eq_blocked_iff {autoRemediate : Bool} {mode : EnforcementMode} :
    mode.action autoRemediate = .blocked ↔ mode = .prevent := by
  cases mode <;> cases autoRemediate <;> decide

variable [Pattern.Library]

theorem Engine.coherent_judge (e : Engine) (ids : IdSource) (now : Timestamp) (a : Assessment)
    (p : Policy) : Judged.Coherent (p, e.judge ids now a p) := by
  cases h : e.judge ids now a p with
  | error e => constructor <;> simp [Judged.passed, Judged.violated, Judged.violations,
      Judged.notifications, Judged.action?, Judged.blocking]
  | ok o =>
    cases hpassed : o.passed with
    | true =>
      obtain ⟨hviolations, hdecision⟩ := judge_of_passed h hpassed
      constructor <;> simp [Judged.passed, Judged.violated, Judged.violations,
        Judged.notifications, Judged.action?, Judged.blocking, hviolations, hdecision, hpassed,
        Decision.pass]
    | false =>
      obtain ⟨hviolations, haction⟩ := judge_of_violated h hpassed
      constructor
      · simp [Judged.passed, hpassed]
      · exact fun _ => hviolations
      · exact fun v hv => (judge_violation h hv).1
      · simp [Judged.action?, Judged.blocking, Judged.violated, haction, hpassed,
          EnforcementMode.action_eq_blocked_iff]

/-! ### Minted parts aside -/

namespace Judged

omit [Pattern.Library] in
/-- What `f` says of an outcome without its minted parts, it says of a judgement without them. -/
theorem comp_unminted {β : Type} {f : Judged → β}
    (hf : ∀ p o, f (p, .ok (Outcome.unminted o)) = f (p, .ok o)) : f ∘ unminted = f := by
  funext ⟨p, judgement⟩
  cases judgement with
  | error e => rfl
  | ok o => exact hf p o

omit [Pattern.Library] in
theorem violations_unminted (j : Judged) :
    j.unminted.violations = j.violations.map Violation.unminted := by
  obtain ⟨p, judgement⟩ := j
  cases judgement <;> rfl

omit [Pattern.Library] in
theorem notifications_unminted (j : Judged) :
    j.unminted.notifications = j.notifications.map Notification.unminted := by
  obtain ⟨p, judgement⟩ := j
  cases judgement <;> rfl

/-- Judgements `xs` and `ys` that differ in what was minted for them only. -/
def Alike (xs ys : List Judged) : Prop := xs.map unminted = ys.map unminted

namespace Alike

variable {xs ys : List Judged} (h : Alike xs ys)
include h

omit [Pattern.Library] in
theorem countP_eq {f : Judged → Bool}
    (hf : ∀ p o, f (p, .ok (Outcome.unminted o)) = f (p, .ok o)) : xs.countP f = ys.countP f := by
  rw [← comp_unminted hf, ← List.countP_map, h, List.countP_map]

omit [Pattern.Library] in
theorem filterMap_eq {β : Type} {f : Judged → Option β}
    (hf : ∀ p o, f (p, .ok (Outcome.unminted o)) = f (p, .ok o)) :
    xs.filterMap f = ys.filterMap f := by
  rw [← comp_unminted hf, ← List.filterMap_map, h, List.filterMap_map]

omit [Pattern.Library] in
/-- What `f` collects from `Alike` judgements is the same once `g` takes its minted parts off. -/
theorem map_flatMap_eq {β : Type} {f : Judged → List β} {g : β → β}
    (hf : ∀ j, f j.unminted = (f j).map g) :
    (xs.flatMap f).map g = (ys.flatMap f).map g := by
  rw [List.map_flatMap, List.map_flatMap]
  simp only [← hf]
  rw [← List.flatMap_map unminted, h, List.flatMap_map]

end Alike

end Judged

/-! ### One by one -/

namespace Engine

/-- Judges the policies `ps` each by itself; every judgement has one of `sources` for its
identifiers and one of `times`. -/
def judgeSingly (e : Engine) (sources : Nat → IdSource) (times : Nat → Timestamp) (a : Assessment)
    (ps : List Policy) : List Judged :=
  ps.mapIdx fun i p => (p, e.judge (sources i) (times i) a p)

/-- A judgement of `p` that mints nothing that lasts. -/
def judgeUnminted (e : Engine) (a : Assessment) (p : Policy) : Judged :=
  (p, (e.judge ⟨Uuid.ofNat, 0⟩ ⟨0, 0⟩ a p).map Outcome.unminted)

/-- What `judgeEach` gives in a row is judged by itself, with a source `own` of identifiers. -/
theorem exists_of_mem_judgeEach {e : Engine} {now : Timestamp} {a : Assessment} {ids : IdSource}
    {ps : List Policy} {j : Judged} (h : j ∈ e.judgeEach now a.id a.context ids ps) :
    ∃ p ∈ ps, ∃ own : IdSource, j = (p, e.judge own now a p) := by
  induction ps generalizing ids with
  | nil => exact absurd h List.not_mem_nil
  | cons p ps ih =>
    rw [judgeEach] at h
    rcases List.mem_cons.1 h with rfl | hrest
    · exact ⟨p, List.mem_cons_self, ids, rfl⟩
    · obtain ⟨q, hq, own, hj⟩ := ih hrest
      exact ⟨q, List.mem_cons_of_mem p hq, own, hj⟩

theorem map_policy_judgeEach (e : Engine) (ids : IdSource) (now : Timestamp) (a : Assessment)
    (ps : List Policy) : (e.judgeEach now a.id a.context ids ps).map Prod.fst = ps := by
  induction ps generalizing ids with
  | nil => rfl
  | cons p ps ih => rw [judgeEach, List.map_cons, ih]

/-- `judged` holds a judgement by `e` of each of the policies `ps`, in their order. Every one of
them may be made with identifiers and at a time of its own. -/
structure AreJudgements (e : Engine) (a : Assessment) (ps : List Policy) (judged : List Judged) :
    Prop where
  policies : judged.map Prod.fst = ps
  made : ∀ j ∈ judged, ∃ (ids : IdSource) (now : Timestamp), j.2 = e.judge ids now a j.1

section Judgements

variable {e : Engine} {a : Assessment} {p : Policy} {ps : List Policy} {j : Judged}
  {judged others : List Judged} {reports : List (Except Unjudged Outcome)}

theorem areJudgements_judgeEach (e : Engine) (now : Timestamp) (a : Assessment) (ids : IdSource)
    (ps : List Policy) : e.AreJudgements a ps (e.judgeEach now a.id a.context ids ps) where
  policies := e.map_policy_judgeEach ids now a ps
  made j hj := by
    obtain ⟨p, -, own, rfl⟩ := exists_of_mem_judgeEach hj
    exact ⟨own, now, rfl⟩

theorem areJudgements_judgeSingly (e : Engine) (sources : Nat → IdSource) (times : Nat → Timestamp)
    (a : Assessment) (ps : List Policy) : e.AreJudgements a ps (e.judgeSingly sources times a ps)
    where
  policies := List.ext_getElem (by simp [judgeSingly]) fun i hi hi' => by simp [judgeSingly]
  made j hj := by
    obtain ⟨i, hi, rfl⟩ := List.mem_mapIdx.1 hj
    exact ⟨sources i, times i, rfl⟩

/-- Reports on policies, one for each, are judgements of them when zipped. -/
theorem areJudgements_zip (h : List.Forall₂ (fun p r =>
      ∃ (ids : IdSource) (now : Timestamp), r = e.judge ids now a p) ps reports) :
    e.AreJudgements a ps (ps.zip reports) where
  policies := List.map_fst_zip (Nat.le_of_eq h.length_eq)
  made j hj := by
    induction h with
    | nil => exact absurd hj List.not_mem_nil
    | cons hfirst _ ih =>
      rcases List.mem_cons.1 hj with rfl | hmem
      · exact hfirst
      · exact ih hmem

namespace AreJudgements

theorem coherent (h : e.AreJudgements a ps judged) : ∀ j ∈ judged, j.Coherent := by
  intro j hj
  obtain ⟨ids, now, hmade⟩ := h.made j hj
  have hcoherent := e.coherent_judge ids now a j.1
  rwa [← hmade] at hcoherent

/-- Without what was minted, `judged` has nothing from when it was made. -/
theorem unminted (h : e.AreJudgements a ps judged) :
    judged.map Judged.unminted = ps.map (e.judgeUnminted a) := by
  rw [← h.policies, List.map_map]
  refine List.map_congr_left fun j hj => ?_
  obtain ⟨ids, now, hmade⟩ := h.made j hj
  show (j.1, j.2.map Outcome.unminted) = e.judgeUnminted a j.1
  rw [hmade]
  exact Prod.ext rfl (e.judge_unminted a j.1 _ _ _ _)

/-- **Two ways of judging the same policies are alike**: any `AreJudgements` of `ps` are `Alike`. -/
theorem alike (h : e.AreJudgements a ps judged) (h' : e.AreJudgements a ps others) :
    Judged.Alike judged others :=
  h.unminted.trans h'.unminted.symm

end AreJudgements

end Judgements

/-- A judgement by `judgeEach` has failed, or has an outcome. -/
theorem cases_of_mem_judgeEach {e : Engine} {now : Timestamp} {a : Assessment} {ids : IdSource}
    {ps : List Policy} {j : Judged} (h : j ∈ e.judgeEach now a.id a.context ids ps) :
    ∃ p ∈ ps, ∃ own : IdSource,
      (∃ cause, e.judge own now a p = .error cause ∧ j = (p, .error cause))
        ∨ ∃ o, e.judge own now a p = .ok o ∧ j = (p, .ok o) := by
  obtain ⟨p, hp, own, rfl⟩ := exists_of_mem_judgeEach h
  refine ⟨p, hp, own, ?_⟩
  cases ho : e.judge own now a p with
  | error cause => exact .inl ⟨cause, rfl, rfl⟩
  | ok o => exact .inr ⟨o, rfl, rfl⟩

theorem coherent_of_mem_judgeEach {e : Engine} {now : Timestamp} {a : Assessment} {ids : IdSource}
    {ps : List Policy} {j : Judged} (h : j ∈ e.judgeEach now a.id a.context ids ps) :
    j.Coherent := by
  obtain ⟨p, -, own, rfl⟩ := exists_of_mem_judgeEach h
  exact e.coherent_judge own now a p

end Engine

end Governance
