import Governance.Command
import Governance.Proofs.Condition.WireForm
import Governance.Proofs.Evaluation.Safety
import Governance.Proofs.Json.Records
import Governance.Proofs.Judgement.Outcome
import Governance.Proofs.Policy.Course
import Governance.Pattern.Program

/-!
# What a report promises

A report on a policy reads its conditions first, on their own, and then the policy. It finds nothing
wrong just when the policy is read and can be created, and whatever can be created under the limits
of a configuration can be judged under them. A document that names an operator is not taken for a
policy, whatever else it holds, but for a condition. Then the conditions of a policy are not the
list of nodes that is looked for in their place, and the report is bad.

* `NewPolicy.conditions_of_ofJson`: the conditions of a policy are read on their own.
* `isValid_iff_of_policy`: a policy's report is good just when the policy can be created.
* `Policy.exists_judge_of_create`: what can be created can be judged.
* `judged_of_isValid`: a policy whose report is good is loaded, created and judged.
* `isValid_iff_of_loaded`, `not_isValid_of_array`: when a policy that is loaded and created has a
  good report, and that a sequence of policies never has one.
-/

namespace Governance

open Decode

/-! ### Policies in documents -/

/-- The conditions of the content `c` are those of the member `conditions`. -/
theorem PolicyContent.conditions_of_content {κ : Type} {read : Json → Reading κ} {r : Record}
    {c : PolicyContent κ} (h : (PolicyContent.slots read r).content r = .ok c) :
    ∃ j, Keyed.find? r.members "conditions" = some j ∧ read j = .ok c.conditions := by
  obtain ⟨name, -, h⟩ := bind_eq_ok_iff.1 h
  obtain ⟨description, -, h⟩ := bind_eq_ok_iff.1 h
  obtain ⟨category, -, h⟩ := bind_eq_ok_iff.1 h
  obtain ⟨severity, -, h⟩ := bind_eq_ok_iff.1 h
  obtain ⟨policyType, -, h⟩ := bind_eq_ok_iff.1 h
  obtain ⟨scope, -, h⟩ := bind_eq_ok_iff.1 h
  obtain ⟨jurisdictions, -, h⟩ := bind_eq_ok_iff.1 h
  obtain ⟨industries, -, h⟩ := bind_eq_ok_iff.1 h
  obtain ⟨conditions, hconditions, h⟩ := bind_eq_ok_iff.1 h
  obtain ⟨mode, -, h⟩ := bind_eq_ok_iff.1 h
  obtain ⟨autoRemediate, -, h⟩ := bind_eq_ok_iff.1 h
  obtain ⟨onViolation, -, h⟩ := bind_eq_ok_iff.1 h
  obtain rfl := Except.ok.inj h
  exact required_slot_eq_ok_iff.1 hconditions

namespace NewPolicy

variable {new : NewPolicy}

/-- **The conditions of a policy are read on their own**, from the member `conditions`. -/
theorem conditions_of_ofJson {ms : List (String × Json)} (h : ofJson (.object ms) = .ok new) :
    ∃ j, Keyed.find? ms "conditions" = some j
      ∧ WrittenCondition.ofJson j = .ok new.content.conditions := by
  unfold ofJson at h
  rw [record_object, ok_bind] at h
  obtain ⟨-, -, h⟩ := bind_eq_ok_iff.1 h
  obtain ⟨tenant, -, h⟩ := bind_eq_ok_iff.1 h
  obtain ⟨content, hcontent, h⟩ := bind_eq_ok_iff.1 h
  obtain ⟨status, -, h⟩ := bind_eq_ok_iff.1 h
  obtain rfl := Except.ok.inj h
  exact PolicyContent.conditions_of_content hcontent

theorem listOfJson_object {ms : List (String × Json)} (h : ofJson (.object ms) = .ok new) :
    listOfJson (.object ms) = .ok [new] := by
  simp only [listOfJson, h]

/-- The first item of an array that is read is a policy, and neither `null` nor a text. -/
theorem head_of_itemsOfJson {first : Json} {rest : List Json} {news : List NewPolicy}
    (h : itemsOfJson 0 (first :: rest) = .ok news) : first ≠ .null ∧ ∀ s, first ≠ .text s := by
  constructor
  · rintro rfl
    exact absurd h (by simp [itemsOfJson, ofJson, record, bind, Except.bind])
  · rintro s rfl
    exact absurd h (by simp [itemsOfJson, ofJson, record, bind, Except.bind])

/-- A document `doc` that holds one policy, and not an array of them, is an object. -/
theorem listOfJson_eq_ok {doc : Json} {news : List NewPolicy} (h : listOfJson doc = .ok news)
    (hsingle : ∀ items, doc ≠ .array items) :
    ∃ ms new, doc = .object ms ∧ ofJson (.object ms) = .ok new ∧ news = [new] := by
  cases doc with
  | array items => exact absurd rfl (hsingle items)
  | object ms =>
    cases hnew : ofJson (.object ms) with
    | error cause => exact absurd h (by simp [listOfJson, hnew])
    | ok new =>
      rw [listOfJson_object hnew] at h
      exact ⟨ms, new, rfl, hnew, (Except.ok.inj h).symm⟩
  | _ => exact absurd h (by simp [listOfJson, ofJson, record, bind, Except.bind])

end NewPolicy

namespace WrittenCondition

/-- A node that is written as an array starts with its field, if it has one, or with `null`. -/
theorem head_of_ofJson {items : List Json} {w : WrittenCondition}
    (h : ofJson (.array items) = .ok w) :
    ∃ first rest, items = first :: rest ∧ (first = .null ∨ ∃ s, first = .text s) := by
  unfold ofJson assemble at h
  obtain ⟨r, hr, h⟩ := bind_eq_ok_iff.1 h
  obtain rfl := Except.ok.inj hr
  obtain ⟨-, -, h⟩ := bind_eq_ok_iff.1 h
  obtain ⟨field, hfield, h⟩ := bind_eq_ok_iff.1 h
  obtain ⟨operator, hoperator, -⟩ := bind_eq_ok_iff.1 h
  cases items with
  | nil =>
    obtain ⟨j, hj, -⟩ := required_slot_eq_ok_iff.1 hoperator
    exact absurd hj (by simp [declared, Keyed.find?_nil])
  | cons first rest =>
    refine ⟨first, rest, rfl, ?_⟩
    have hfirst : option text first = .ok field := hfield
    cases first with
    | null => exact .inl rfl
    | text s => exact .inr ⟨s, rfl⟩
    | _ => exact absurd hfirst (by simp [option, text, Except.map])

/-- Only an object or an array is read as a node, and `null` is neither. -/
theorem ofJson_ne_ok_of_null {w : WrittenCondition} : ofJson .null ≠ .ok w := by
  simp [ofJson, assemble, record, bind, Except.bind]

theorem ofJson_ne_ok_of_text {s : String} {w : WrittenCondition} : ofJson (.text s) ≠ .ok w := by
  simp [ofJson, assemble, record, bind, Except.bind]

/-- **No document is both a node and a list of nodes**, in the sense of `inner`. The first item of
the list would be the field of the node. -/
theorem ofJson_ne_ok_of_inner {j : Json} {nodes : Option (List WrittenCondition)}
    (h : inner j = .ok nodes) (w : WrittenCondition) : ofJson j ≠ .ok w := by
  intro hw
  cases j with
  | null => exact ofJson_ne_ok_of_null hw
  | array items =>
    obtain ⟨first, rest, rfl, hfirst⟩ := head_of_ofJson hw
    obtain ⟨nodes, hnodes, -⟩ := map_eq_ok_iff.1 h
    obtain ⟨node, hnode, -⟩ := bind_eq_ok_iff.1 hnodes
    rcases hfirst with rfl | ⟨s, rfl⟩
    · exact ofJson_ne_ok_of_null hnode
    · exact ofJson_ne_ok_of_text hnode
  | _ => exact absurd h (by simp [inner])

/-- The member `conditions` of an object that is read as a node is a list of nodes. -/
theorem inner_of_ofJson {ms : List (String × Json)} {w : WrittenCondition} {j : Json}
    (h : ofJson (.object ms) = .ok w) (hj : Keyed.find? ms "conditions" = some j) :
    inner j = .ok w.conditions := by
  unfold ofJson assemble at h
  rw [record_object, ok_bind] at h
  obtain ⟨-, -, h⟩ := bind_eq_ok_iff.1 h
  obtain ⟨field, -, h⟩ := bind_eq_ok_iff.1 h
  obtain ⟨operator, -, h⟩ := bind_eq_ok_iff.1 h
  obtain ⟨value, -, h⟩ := bind_eq_ok_iff.1 h
  obtain ⟨conditions, hconditions, h⟩ := bind_eq_ok_iff.1 h
  obtain rfl := Except.ok.inj h
  rw [find?_innerOfMembers, hj] at hconditions
  exact hconditions

/-- What `check` accepts has no issue. -/
theorem issues_of_check [Pattern.Library] {limits : ValidationLimits} {w : WrittenCondition}
    {c : Condition} (h : w.check limits = .ok c) : w.issues limits = [] := by
  by_contra hissues
  rw [check_eq_error_iff.2 ⟨hissues, rfl⟩] at h
  exact absurd h (by simp)

end WrittenCondition

/-! ### Judging what was created -/

section Library

variable [Pattern.Library]

/-- Whether a policy can be created does not depend on `id`, nor on `now`. -/
theorem Policy.exists_create_iff {id : PolicyId} {now : Timestamp} {limits : ValidationLimits}
    {new : NewPolicy} :
    (∃ p, create id now limits new = .ok p) ↔ ∃ c, new.accept limits = .ok c := by
  unfold create
  cases new.accept limits <;> simp [Except.map]

/-- **What can be created can be judged**, whatever assessment `a` it is judged against. -/
theorem Policy.exists_judge_of_create {cfg : Config} {id : PolicyId} {now : Timestamp}
    {new : NewPolicy} {p : Policy} (h : create id now cfg.validationLimits new = .ok p)
    (clock : Pattern.Clock) (ids : IdSource) (then' : Timestamp) (a : Assessment) :
    ∃ o, (⟨clock, cfg.evaluationLimits⟩ : Engine).judge ids then' a p = .ok o := by
  obtain ⟨c, hc, rfl⟩ := map_eq_ok_iff.1 h
  have haccepted : c.Accepted cfg.validationLimits.patternSize cfg.validationLimits.maxDepth :=
    WrittenCondition.accepted_of_check (NewPolicy.accept_eq_ok hc).2.2
  -- The two sets of limits share their depth.
  have hdepth : c.depth ≤ cfg.evaluationLimits.maxDepth := haccepted.depth_le
  obtain ⟨f, -, htrace⟩ := Condition.evaluate_isOk clock a.context haccepted.isWellFormed hdepth
  exact ⟨_, Engine.judge_eq_ok_iff.2 ⟨f.trace, htrace, rfl⟩⟩

/-! ### Reports -/

omit [Pattern.Library] in
theorem Subject.of_eq_policy_iff {doc : Json} :
    Subject.of doc = .policy
      ↔ (∃ j, doc.get? "conditions" = some j) ∧ doc.get? "operator" = none := by
  unfold Subject.of
  cases doc.get? "conditions" <;> cases doc.get? "operator" <;> simp

omit [Pattern.Library] in
/-- A document that is taken for a policy holds one, by `listOfJson`. -/
theorem NewPolicy.listOfJson_of_policy {doc : Json} {new : NewPolicy}
    (hpolicy : Subject.of doc = .policy) (hnew : ofJson doc = .ok new) :
    listOfJson doc = .ok [new] := by
  obtain ⟨⟨j, hj⟩, -⟩ := Subject.of_eq_policy_iff.1 hpolicy
  cases doc with
  | object ms => exact listOfJson_object hnew
  | _ => exact absurd hj (by simp [Json.get?])

end Library

namespace Report

variable {limits : ValidationLimits} {file : String} {doc : Json}

section Library

variable [Pattern.Library]

theorem subject_ofDocument : (ofDocument limits file doc).subject = Subject.of doc := by
  unfold ofDocument
  split <;> rfl

theorem policyProblems_eq_nil_iff :
    policyProblems limits doc = []
      ↔ ∃ new, NewPolicy.ofJson doc = .ok new ∧ ∃ c, new.accept limits = .ok c := by
  unfold policyProblems
  cases NewPolicy.ofJson doc with
  | error cause => simp
  | ok new =>
    cases hc : new.accept limits with
    | error cause => simp [hc]
    | ok c => simp [hc]

/-- By `isValid` a report is good when the condition is read and sound, and nothing else is wrong
with a policy. -/
theorem isValid_iff :
    (ofDocument limits file doc).isValid = true
      ↔ ∃ w, WrittenCondition.ofJson ((Subject.of doc).tree doc) = .ok w ∧ w.issues limits = []
        ∧ (Subject.of doc = .policy → policyProblems limits doc = []) := by
  unfold ofDocument
  cases WrittenCondition.ofJson ((Subject.of doc).tree doc) with
  | error cause => simp [isValid]
  | ok w =>
    by_cases hissues : w.issues limits = []
    · simp [isValid, ofCondition, hissues]
    · simp [isValid, ofCondition, hissues]

/-- **A policy has a good report just when it can be created**, that is, when `accept` accepts
it. -/
theorem isValid_iff_of_policy (h : Subject.of doc = .policy) :
    (ofDocument limits file doc).isValid = true
      ↔ ∃ new, NewPolicy.ofJson doc = .ok new ∧ ∃ c, new.accept limits = .ok c := by
  rw [isValid_iff, ← policyProblems_eq_nil_iff]
  constructor
  · rintro ⟨w, -, -, hproblems⟩
    exact hproblems h
  · intro hproblems
    obtain ⟨new, hnew, c, hc⟩ := policyProblems_eq_nil_iff.1 hproblems
    obtain ⟨⟨j, hj⟩, -⟩ := Subject.of_eq_policy_iff.1 h
    have htree : (Subject.of doc).tree doc = j := by rw [h, Subject.tree, hj, Option.getD_some]
    cases doc with
    | object ms =>
      obtain ⟨i, hi, hconditions⟩ := NewPolicy.conditions_of_ofJson hnew
      obtain rfl : j = i := Option.some.inj (hj.symm.trans hi)
      refine ⟨new.content.conditions, htree ▸ hconditions, ?_, fun _ => hproblems⟩
      exact WrittenCondition.issues_of_check (NewPolicy.accept_eq_ok hc).2.2
    | _ => exact absurd hj (by simp [Json.get?])

/-- **A good report promises a judgement.** Let `doc`, with `conditions` and without an `operator`,
have a good report under `cfg` (`isValid`). Then it holds one policy `new`, which can be created
under `cfg`; and once created it is judged under it, against every assessment `a`. -/
theorem judged_of_isValid (cfg : Config) (file : String) (doc : Json)
    (hconditions : (doc.get? "conditions").isSome = true) (hoperator : doc.get? "operator" = none)
    (hvalid : (ofDocument cfg.validationLimits file doc).isValid = true) :
    ∃ new, NewPolicy.ofJson doc = .ok new ∧ NewPolicy.listOfJson doc = .ok [new]
      ∧ ∀ id now, ∃ p, Policy.create id now cfg.validationLimits new = .ok p
        ∧ ∀ (clock : Pattern.Clock) (ids : IdSource) (then' : Timestamp) (a : Assessment),
          ∃ o, (⟨clock, cfg.evaluationLimits⟩ : Engine).judge ids then' a p = .ok o := by
  have hpolicy : Subject.of doc = .policy :=
    Subject.of_eq_policy_iff.2 ⟨Option.isSome_iff_exists.1 hconditions, hoperator⟩
  obtain ⟨new, hnew, c, hc⟩ := (isValid_iff_of_policy hpolicy).1 hvalid
  refine ⟨new, hnew, NewPolicy.listOfJson_of_policy hpolicy hnew, fun id now => ?_⟩
  obtain ⟨p, hp⟩ := Policy.exists_create_iff.2 ⟨c, hc⟩
  exact ⟨p, hp, fun clock ids then' a => Policy.exists_judge_of_create hp clock ids then' a⟩

/-- Policy about oversight as its author writes it, with one more member, `name`. -/
def oversightDocument (name : String) : Json :=
  .object
    [("geographyAccountId", .text "eu"), ("name", .text "Oversight"), ("severity", .text "HIGH"),
     ("enforcementMode", .text "DETECT"),
     ("conditions", .object
       [("field", .text "humanOversight"), ("operator", .text "IS_TRUE")]),
     (name, .text "safety team")]

end Library

/-- The member does no harm, and a system that nobody oversees violates the rule. -/
theorem judged_of_isValid_oversightDocument :
    let doc := oversightDocument "owner"
    (doc.get? "conditions").isSome = true ∧ doc.get? "operator" = none
      ∧ (ofDocument Config.default.validationLimits "rule.yaml" doc).isValid = true
      ∧ ∃ new p, NewPolicy.listOfJson doc = .ok [new]
        ∧ Policy.create ⟨Uuid.ofNat 1⟩ ⟨0, 0⟩ Config.default.validationLimits new = .ok p
        ∧ ∃ o, (⟨.still, Config.default.evaluationLimits⟩ : Engine).judge ⟨Uuid.ofNat, 2⟩ ⟨0, 0⟩
            (.bare ⟨⟨"system", by decide⟩⟩ p.tenant) p = .ok o ∧ o.passed = false := by
  intro doc
  have hvalid : (ofDocument Config.default.validationLimits "rule.yaml" doc).isValid = true := by
    decide +kernel
  refine ⟨rfl, rfl, hvalid, ?_⟩
  obtain ⟨new, hnew, hload, hcreated⟩ :=
    judged_of_isValid Config.default "rule.yaml" doc rfl rfl hvalid
  obtain ⟨p, hp, hjudged⟩ := hcreated ⟨Uuid.ofNat 1⟩ ⟨0, 0⟩
  obtain ⟨o, ho⟩ := hjudged .still ⟨Uuid.ofNat, 2⟩ ⟨0, 0⟩ (.bare ⟨⟨"system", by decide⟩⟩ p.tenant)
  refine ⟨new, p, hload, hp, o, ho, ?_⟩
  obtain rfl := Except.ok.inj hnew
  obtain rfl := Except.ok.inj hp
  obtain rfl := Except.ok.inj ho
  rfl

/-! ### Documents that name an operator -/

/-- A policy that names an `operator` has no good report: it is taken for a condition, and its own
conditions are a node and not a list of nodes. -/
theorem not_isValid_of_operator [Pattern.Library] {ms : List (String × Json)} {new : NewPolicy}
    (hnew : NewPolicy.ofJson (.object ms) = .ok new)
    (hoperator : (Json.object ms).get? "operator" ≠ none) :
    (ofDocument limits file (.object ms)).isValid = false := by
  have hsubject : Subject.of (.object ms) = .condition := by
    cases hof : Subject.of (.object ms) with
    | policy => exact absurd (Subject.of_eq_policy_iff.1 hof).2 hoperator
    | condition => rfl
  rw [← Bool.not_eq_true, isValid_iff, hsubject]
  rintro ⟨w, hw, -⟩
  obtain ⟨j, hj, hconditions⟩ := NewPolicy.conditions_of_ofJson hnew
  exact WrittenCondition.ofJson_ne_ok_of_inner (WrittenCondition.inner_of_ofJson hw hj) _
    hconditions

/-- **No sequence of policies has a good report**, whatever can be created of it: `ofDocument`
checks an array as one written condition, whose first item would be its field. -/
theorem not_isValid_of_array [Pattern.Library] {items : List Json} {news : List NewPolicy}
    (hload : NewPolicy.listOfJson (.array items) = .ok news) :
    (ofDocument limits file (.array items)).isValid = false := by
  have hsubject : Subject.of (.array items) = .condition := rfl
  rw [← Bool.not_eq_true, isValid_iff, hsubject]
  rintro ⟨w, hw, -⟩
  obtain ⟨first, rest, rfl, hfirst⟩ := WrittenCondition.head_of_ofJson hw
  obtain ⟨hnull, htext⟩ := NewPolicy.head_of_itemsOfJson hload
  rcases hfirst with rfl | ⟨s, rfl⟩
  · exact hnull rfl
  · exact htext s rfl

/-- **When a policy has a good report.** Let `doc`, which is not an array, be loaded as `news`, and
let each of them be created under `limits`. Then its report under `limits` is good (`isValid`) if
and only if `doc` does not name an `operator`; one that does is checked as a condition. -/
theorem isValid_iff_of_loaded [Pattern.Library] (limits : ValidationLimits) (file : String)
    (doc : Json) (news : List NewPolicy) (hload : NewPolicy.listOfJson doc = .ok news)
    (hcreate : ∀ new ∈ news, ∃ id now p, Policy.create id now limits new = .ok p)
    (hsingle : ∀ items, doc ≠ .array items) :
    (ofDocument limits file doc).isValid = true ↔ doc.get? "operator" = none := by
  obtain ⟨ms, new, rfl, hnew, rfl⟩ := NewPolicy.listOfJson_eq_ok hload hsingle
  obtain ⟨id, now, hp⟩ := hcreate new (List.mem_singleton.2 rfl)
  obtain ⟨c, hc⟩ := Policy.exists_create_iff.1 hp
  constructor
  · intro hvalid
    by_contra hoperator
    rw [not_isValid_of_operator hnew hoperator] at hvalid
    exact absurd hvalid (by decide)
  · intro hoperator
    obtain ⟨j, hj, -⟩ := NewPolicy.conditions_of_ofJson hnew
    have hpolicy : Subject.of (.object ms) = .policy :=
      Subject.of_eq_policy_iff.2 ⟨⟨j, hj⟩, hoperator⟩
    exact (isValid_iff_of_policy hpolicy).2 ⟨new, hnew, c, hc⟩

/-- A member of another name leaves the report good. -/
theorem isValid_iff_of_loaded_oversightDocument :
    let doc := oversightDocument "owner"
    ∃ new, NewPolicy.listOfJson doc = .ok [new]
      ∧ (∀ n ∈ [new], ∃ id now p, Policy.create id now .default n = .ok p)
      ∧ (∀ items, doc ≠ .array items)
      ∧ (ofDocument .default "rule.yaml" doc).isValid = true := by
  intro doc
  obtain ⟨new, hload⟩ : ∃ new, NewPolicy.listOfJson doc = .ok [new] := ⟨_, rfl⟩
  have hcreate : ∀ n ∈ [new], ∃ id now p, Policy.create id now .default n = .ok p := by
    intro n hn
    obtain rfl := List.mem_singleton.1 hn
    obtain rfl := List.singleton_inj.1 (Except.ok.inj hload)
    exact ⟨⟨Uuid.ofNat 1⟩, ⟨0, 0⟩, _, rfl⟩
  have hsingle : ∀ items, doc ≠ .array items := fun items => by simp [doc, oversightDocument]
  exact ⟨new, hload, hcreate, hsingle,
    (isValid_iff_of_loaded .default "rule.yaml" doc [new] hload hcreate hsingle).2 rfl⟩

/-- A member that is called `operator` does not keep a policy from being loaded and created, but it
keeps the report from being good; and so does a list around the policy. -/
theorem isValid_iff_of_loaded_refused :
    let named := oversightDocument "operator"
    let listed := Json.array [oversightDocument "owner"]
    (∃ new p, NewPolicy.listOfJson named = .ok [new]
      ∧ Policy.create ⟨Uuid.ofNat 1⟩ ⟨0, 0⟩ .default new = .ok p
      ∧ (ofDocument .default "rule.yaml" named).isValid = false)
    ∧ ∃ new p, NewPolicy.listOfJson listed = .ok [new]
      ∧ Policy.create ⟨Uuid.ofNat 1⟩ ⟨0, 0⟩ .default new = .ok p
      ∧ (ofDocument .default "rule.yaml" listed).isValid = false :=
  ⟨⟨_, _, rfl, rfl, by decide +kernel⟩, _, _, rfl, rfl, by decide +kernel⟩

end Report

end Governance
