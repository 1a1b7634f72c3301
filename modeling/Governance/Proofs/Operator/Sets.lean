import Mathlib.Logic.Relation
import Governance.Proofs.Operator.Texts
import Governance.Proofs.Text.Folding
import Governance.Pattern.Program

/-!
# Lists compared as sets

The operators on arrays look at two lists of texts as sets of folded texts. The order of a list, its
repetitions, blanks around its texts and the case of their ASCII letters make no difference. An
operand in two parts is found as its parts are: all of it if both are, any of it if one is. And
what is found in a value goes on being found when more is put into the value.

* `mem_folded_iff_of_restated`: what a list may be changed into without changing its folded texts.
* `finds_containsAll_iff`, `finds_containsAny_iff`, `finds_notContainsAny_iff`: what the operators
  say of two lists.
* `compared_as_sets`: the laws of sets that they obey.
-/

namespace Governance

open Relation (EqvGen)

/-- One change of a list of texts that keeps its folded texts: the list is put in another order, an
item is repeated, blanks are put around an item, or ASCII letters of an item change their case. -/
inductive Restates : List String → List String → Prop
  | permuted {xs ys : List String} (h : xs.Perm ys) : Restates xs ys
  | repeated {xs : List String} {s : String} (h : s ∈ xs) : Restates xs (s :: xs)
  | padded (xs ys : List String) (before s after : String)
      (hbefore : Text.isAllBlank before = true) (hafter : Text.isAllBlank after = true) :
      Restates (xs ++ s :: ys) (xs ++ (before ++ s ++ after) :: ys)
  | recased (xs ys : List String) {s t : String} (h : Text.sameIgnoringAsciiCase s t = true) :
      Restates (xs ++ s :: ys) (xs ++ t :: ys)

section Library

variable [Pattern.Library]

/-- The operator `op` says yes of the lists `actual` and `expected`. -/
def Operator.Finds (op : Operator) (env : Surroundings) (actual expected : List String) : Prop :=
  op.answer? env (.texts actual) (.texts expected) = some (.ok true)

variable {env : Surroundings} {actual expected xs ys : List String}

/-! ### Folded texts of a list -/

omit [Pattern.Library] in
theorem foldedTexts_texts (items : List String) :
    foldedTexts (.texts items) = items.map Text.folded := rfl

omit [Pattern.Library] in
theorem mem_folded_iff_of_restates (h : Restates xs ys) (t : String) :
    t ∈ xs.map Text.folded ↔ t ∈ ys.map Text.folded := by
  have hitem {s s' : String} (hs : Text.folded s = Text.folded s') (xs ys : List String) :
      t ∈ (xs ++ s :: ys).map Text.folded ↔ t ∈ (xs ++ s' :: ys).map Text.folded := by
    rw [List.map_append, List.map_append, List.map_cons, List.map_cons, hs]
  cases h with
  | permuted h => exact (h.map _).mem_iff
  | repeated h =>
    rw [List.map_cons, List.mem_cons]
    exact ⟨.inr, fun ht => ht.elim (fun heq => heq ▸ List.mem_map_of_mem h) id⟩
  | padded xs ys before s after hbefore hafter =>
    exact hitem (Text.folded_padded hbefore hafter s).symm xs ys
  | recased xs ys h => exact hitem (Text.folded_eq_of_sameIgnoringAsciiCase h) xs ys

omit [Pattern.Library] in
/-- **Restating a list keeps its folded texts**, however often `Restates` is applied, and back
again. -/
theorem mem_folded_iff_of_restated (h : EqvGen Restates xs ys) (t : String) :
    t ∈ xs.map Text.folded ↔ t ∈ ys.map Text.folded := by
  induction h with
  | rel _ _ h => exact mem_folded_iff_of_restates h t
  | refl _ => exact Iff.rfl
  | symm _ _ _ ih => exact ih.symm
  | trans _ _ _ _ _ ih ih' => exact ih.trans ih'

/-! ### Answers -/

theorem finds_containsAll_iff :
    Operator.containsAll.Finds env actual expected ↔
      ∀ t ∈ expected.map Text.folded, t ∈ actual.map Text.folded := by
  simp only [Operator.Finds, Operator.answer?, Operator.judgement?, Option.map_some,
    Option.some.injEq, Except.ok.injEq, sharesAll, foldedTexts_texts, List.all_eq_true,
    List.contains_iff_mem]

theorem finds_containsAny_iff :
    Operator.containsAny.Finds env actual expected ↔
      ∃ t ∈ expected.map Text.folded, t ∈ actual.map Text.folded := by
  simp only [Operator.Finds, Operator.answer?, Operator.judgement?, Option.map_some,
    Option.some.injEq, Except.ok.injEq, sharesAny, foldedTexts_texts, List.any_eq_true,
    List.contains_iff_mem]

theorem finds_notContainsAny_iff :
    Operator.notContainsAny.Finds env actual expected ↔
      ¬ Operator.containsAny.Finds env actual expected := by
  simp only [Operator.Finds, Operator.answer?, Operator.judgement?, Option.map_some,
    Option.some.injEq, Except.ok.injEq, Bool.not_eq_true, Bool.not_eq_eq_eq_not, Bool.not_true]

/-- Every operator on arrays answers `true` or `false`. -/
theorem answer?_of_array {op : Operator} (hop : op.group = .array) (env : Surroundings)
    (actual expected : List String) :
    op.answer? env (.texts actual) (.texts expected) = some (.ok true)
      ∨ op.answer? env (.texts actual) (.texts expected) = some (.ok false) := by
  obtain ⟨b, hb⟩ : ∃ b, op.answer? env (.texts actual) (.texts expected) = some (.ok b) := by
    cases op with
    | containsAny | containsAll | notContainsAny => exact ⟨_, rfl⟩
    | _ => exact absurd hop (by decide)
  rw [hb]
  cases b <;> simp

/-- What an operator on arrays `Finds` is settled by the folded texts of the two lists. -/
theorem finds_congr {op : Operator} (hop : op.group = .array) {actual' expected' : List String}
    (hactual : ∀ t, t ∈ actual.map Text.folded ↔ t ∈ actual'.map Text.folded)
    (hexpected : ∀ t, t ∈ expected.map Text.folded ↔ t ∈ expected'.map Text.folded) :
    op.Finds env actual expected ↔ op.Finds env actual' expected' := by
  have hany : Operator.containsAny.Finds env actual expected ↔
      Operator.containsAny.Finds env actual' expected' := by
    simp only [finds_containsAny_iff, hactual, hexpected]
  cases op with
  | containsAny => exact hany
  | containsAll => simp only [finds_containsAll_iff, hactual, hexpected]
  | notContainsAny => rw [finds_notContainsAny_iff, finds_notContainsAny_iff, hany]
  | _ => exact absurd hop (by decide)

theorem answer?_congr {op : Operator} (hop : op.group = .array) {actual' expected' : List String}
    (h : op.Finds env actual expected ↔ op.Finds env actual' expected') :
    op.answer? env (.texts actual) (.texts expected)
      = op.answer? env (.texts actual') (.texts expected') := by
  rcases answer?_of_array hop env actual expected with hyes | hno
  · rw [hyes, h.1 hyes]
  · rcases answer?_of_array hop env actual' expected' with hyes' | hno'
    · rw [h.2 hyes'] at hno
      exact absurd hno (by simp)
    · rw [hno, hno']

/-! ### Laws -/

/-- **Lists are compared as sets, up to blanks and the case of ASCII letters.** Every operator on
arrays answers yes or no, and alike of lists however they are restated (`Restates`). All of an
operand is found (`containsAll`) if both parts of it are, and any of it (`containsAny`) if one of
its parts is; where all of it is found and it is not empty, any of it is. And a value that holds
more contains more. -/
theorem compared_as_sets (env : Surroundings) :
    (∀ op : Operator, op.group = .array → ∀ actual expected,
        op.answer? env (.texts actual) (.texts expected) = some (.ok true)
          ∨ op.answer? env (.texts actual) (.texts expected) = some (.ok false))
      ∧ (∀ op : Operator, op.group = .array → ∀ actual actual' expected expected',
        EqvGen Restates actual actual' → EqvGen Restates expected expected' →
          op.answer? env (.texts actual) (.texts expected)
            = op.answer? env (.texts actual') (.texts expected'))
      ∧ (∀ actual expected expected',
        (Operator.containsAll.Finds env actual (expected ++ expected') ↔
            Operator.containsAll.Finds env actual expected
              ∧ Operator.containsAll.Finds env actual expected')
          ∧ (Operator.containsAny.Finds env actual (expected ++ expected') ↔
            Operator.containsAny.Finds env actual expected
              ∨ Operator.containsAny.Finds env actual expected'))
      ∧ (∀ actual expected, expected ≠ [] → Operator.containsAll.Finds env actual expected →
        Operator.containsAny.Finds env actual expected)
      ∧ ∀ actual actual' expected, actual ⊆ actual' →
        (Operator.containsAny.Finds env actual expected →
            Operator.containsAny.Finds env actual' expected)
          ∧ (Operator.containsAll.Finds env actual expected →
            Operator.containsAll.Finds env actual' expected)
          ∧ (Operator.notContainsAny.Finds env actual' expected →
            Operator.notContainsAny.Finds env actual expected) := by
  refine ⟨fun op hop => answer?_of_array hop env, fun op hop _ _ _ _ hactual hexpected => ?_,
    fun actual expected expected' => ⟨?_, ?_⟩, fun actual expected hne hall => ?_,
    fun actual actual' expected hsubset => ?_⟩
  · exact answer?_congr hop (finds_congr hop (mem_folded_iff_of_restated hactual)
      (mem_folded_iff_of_restated hexpected))
  · simp only [finds_containsAll_iff, List.map_append, List.forall_mem_append]
  · simp only [finds_containsAny_iff, List.map_append, List.mem_append, or_and_right, exists_or]
  · obtain ⟨s, rest, rfl⟩ := List.exists_cons_of_ne_nil hne
    have hfirst : Text.folded s ∈ (s :: rest).map Text.folded := List.mem_cons_self
    exact finds_containsAny_iff.2 ⟨_, hfirst, finds_containsAll_iff.1 hall _ hfirst⟩
  · have hmore {t : String} (ht : t ∈ actual.map Text.folded) : t ∈ actual'.map Text.folded :=
      List.map_subset _ hsubset ht
    have hany (h : Operator.containsAny.Finds env actual expected) :
        Operator.containsAny.Finds env actual' expected := by
      obtain ⟨t, ht, hfound⟩ := finds_containsAny_iff.1 h
      exact finds_containsAny_iff.2 ⟨t, ht, hmore hfound⟩
    refine ⟨hany, fun h => ?_, fun h => ?_⟩
    · exact finds_containsAll_iff.2 fun t ht => hmore (finds_containsAll_iff.1 h t ht)
    · exact finds_notContainsAny_iff.2 (mt hany (finds_notContainsAny_iff.1 h))

end Library

/-- A list that holds a text twice, and another one with blanks around it and its Latin letters in
lower case: the sigma that ends a word behind capitals ends it behind small letters too. -/
theorem compared_as_sets_dataTypes :
    let env : Surroundings := ⟨.default, .still⟩
    let held := ["PII", "TAXΣ"]
    let restated := ["\ttaxΣ ", "PII", "PII"]
    EqvGen Restates held restated
      ∧ Operator.containsAll.answer? env (.texts held) (.texts ["pii"])
        = Operator.containsAll.answer? env (.texts restated) (.texts ["pii"])
      ∧ restated ≠ [] ∧ Operator.containsAll.Finds env held restated
      ∧ Operator.containsAny.Finds env held restated
      ∧ held ⊆ "PHI" :: held ∧ Operator.containsAll.Finds env ("PHI" :: held) restated
      ∧ Operator.notContainsAny.Finds env ("PHI" :: held) ["DNA"]
      ∧ Operator.notContainsAny.Finds env held ["DNA"] := by
  intro env held restated
  have hrestated : EqvGen Restates held restated := by
    have hrepeated : Restates held ["PII", "PII", "TAXΣ"] := .repeated (by decide)
    have hpermuted : Restates ["PII", "PII", "TAXΣ"] ["TAXΣ", "PII", "PII"] :=
      .permuted (by decide)
    have hrecased : Restates ["TAXΣ", "PII", "PII"] ["taxΣ", "PII", "PII"] :=
      .recased [] ["PII", "PII"] (by decide +kernel)
    have hpadded : Restates ["taxΣ", "PII", "PII"] restated :=
      .padded [] ["PII", "PII"] "\t" "taxΣ" " " (by decide) (by decide)
    exact .trans _ _ _ (.rel _ _ hrepeated) (.trans _ _ _ (.rel _ _ hpermuted)
      (.trans _ _ _ (.rel _ _ hrecased) (.rel _ _ hpadded)))
  have hall : Operator.containsAll.Finds env held restated := by
    have hshares : sharesAll (.texts held) (.texts restated) = true := by decide +kernel
    simp only [Operator.Finds, Operator.answer?, Operator.judgement?, Option.map_some, hshares]
  have hlacks : Operator.notContainsAny.Finds env ("PHI" :: held) ["DNA"] := by
    have hshares : sharesAny (.texts ("PHI" :: held)) (.texts ["DNA"]) = false := by
      decide +kernel
    simp only [Operator.Finds, Operator.answer?, Operator.judgement?, Option.map_some, hshares,
      Bool.not_false]
  have hsubset : held ⊆ "PHI" :: held := List.subset_cons_self _ _
  obtain ⟨-, hsame, -, hany, hmore⟩ := compared_as_sets env
  obtain ⟨-, hall', hlacks'⟩ := hmore held ("PHI" :: held) restated hsubset
  exact ⟨hrestated, hsame .containsAll rfl _ _ _ _ hrestated (.refl _), by decide, hall,
    hany _ _ (by decide) hall, hsubset, hall' hall, hlacks,
    (hmore held ("PHI" :: held) ["DNA"] hsubset).2.2 hlacks⟩

end Governance
