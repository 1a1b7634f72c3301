import Mathlib.Data.List.Forall2
import Governance.Condition.Validation

/-!
# The grammar of written conditions

`StandsFor` says which written conditions are good and what each of them stands for: a leaf with a
field and a suitable operand, or a combination of good conditions one level further down. Checking
decides it. `Suits` tells the operands that suit an operator; the faults of an operand are what is
left.

* `operandFault?_eq_none_iff`: an operand without fault is one that suits.
* `exists_standsFor_of_issuesWithin`: without issues, a written condition stands for something.
* `StandsFor.sound`: what stands for something has no issue, and is read as that.
* `check_eq_ok_iff`: checking accepts the grammar, and nothing else.
-/

namespace Governance

variable [Pattern.Library]

/-- The operands `v` that suit the operator `op` at a leaf, with patterns up to `patternSize`. -/
def Operator.Suits (patternSize : Nat) (op : Operator) (v : FieldValue) : Prop :=
  match op with
  | equals | notEquals => v ≠ .null
  | greaterThan | lessThan | greaterThanOrEqual | lessThanOrEqual =>
    v.asNumber.isSome = true
  | regexMatch => ∃ pattern, v = .text pattern ∧ Pattern.check pattern patternSize = .ok ()
  | contains | notContains | startsWith | endsWith => v ≠ .null ∧ ∀ items, v ≠ .texts items
  | containsAny | containsAll | notContainsAny =>
    (∃ s, v = .text s) ∨ ∃ items, v = .texts items ∧ items ≠ []
  | isTrue | isFalse | isNull | isNotNull => True
  | and | or | not => False

theorem operandFault?_eq_none_iff {patternSize : Nat} {op : Operator} {v : FieldValue}
    (hop : op.isLogical = false) :
    operandFault? patternSize op v = none ↔ op.Suits patternSize v := by
  cases op with
  | equals | notEquals | contains | notContains | startsWith | endsWith =>
    cases v <;> simp [operandFault?, Operator.Suits, Operator.requiresOperand, Operator.group,
      Operator.isOrdering, FieldValue.isNull]
  | greaterThan | lessThan | greaterThanOrEqual | lessThanOrEqual =>
    cases v <;> simp [operandFault?, Operator.Suits, Operator.requiresOperand, Operator.group,
      Operator.isOrdering, FieldValue.isNull, FieldValue.asNumber, Option.isSome_iff_ne_none]
  | regexMatch =>
    cases v with
    | text pattern =>
      cases hcheck : Pattern.check pattern patternSize <;>
        simp [operandFault?, Operator.Suits, Operator.requiresOperand, Operator.group,
          Operator.isOrdering, FieldValue.isNull, hcheck]
    | _ => simp [operandFault?, Operator.Suits, Operator.requiresOperand, Operator.group,
        Operator.isOrdering, FieldValue.isNull]
  | containsAny | containsAll | notContainsAny =>
    rcases v with _ | _ | _ | _ | _ | _ <;>
      simp [operandFault?, Operator.Suits, Operator.requiresOperand, Operator.group,
        Operator.isOrdering, FieldValue.isNull]
  | isTrue | isFalse | isNull | isNotNull =>
    simp [operandFault?, Operator.Suits, Operator.requiresOperand, Operator.group,
      Operator.isOrdering]
  | and | or | not => exact absurd hop (by decide)

namespace WrittenCondition

/-! ### The grammar -/

/-- Written `StandsFor limits depth w c`: at a `depth` within the limits, `w` is a good node, and
`c` is what it stands for. -/
inductive StandsFor (limits : ValidationLimits) : Nat → WrittenCondition → Condition → Prop
  /-- A field, the name of an operator and an operand that suits it; no value is one of null. -/
  | leaf {depth : Nat} {field : String} {op : Operator} {value : Option Json} {v : FieldValue}
      (hdepth : depth ≤ limits.maxDepth) (hop : op.isLogical = false)
      (hfield : Text.isAllBlank field = false)
      (hvalue : FieldValue.ofJson (value.getD .null) = .ok v)
      (hsuits : op.Suits limits.patternSize v) :
      StandsFor limits depth ⟨some field, op.label, value, none⟩ (.leaf ⟨Text.trim field, op, v⟩)
  | and {depth : Nat} {ws : List WrittenCondition} {cs : List Condition}
      (hdepth : depth ≤ limits.maxDepth) (hne : ws ≠ []) (hlength : ws.length = cs.length)
      (hbelow : ∀ pair ∈ ws.zip cs, StandsFor limits (depth + 1) pair.1 pair.2) :
      StandsFor limits depth ⟨none, Operator.and.label, none, some ws⟩ (.and cs)
  | or {depth : Nat} {ws : List WrittenCondition} {cs : List Condition}
      (hdepth : depth ≤ limits.maxDepth) (hne : ws ≠ []) (hlength : ws.length = cs.length)
      (hbelow : ∀ pair ∈ ws.zip cs, StandsFor limits (depth + 1) pair.1 pair.2) :
      StandsFor limits depth ⟨none, Operator.or.label, none, some ws⟩ (.or cs)
  | not {depth : Nat} {w : WrittenCondition} {c : Condition} (hdepth : depth ≤ limits.maxDepth)
      (hbelow : StandsFor limits (depth + 1) w c) :
      StandsFor limits depth ⟨none, Operator.not.label, none, some [w]⟩ (.not c)

section Zip

variable {α β : Type} {xs : List α} {ys : List β} (hlength : xs.length = ys.length)
include hlength

omit [Pattern.Library] in
theorem forall_mem_of_zip_left {P : α → Prop} (h : ∀ pair ∈ xs.zip ys, P pair.1) :
    ∀ x ∈ xs, P x := by
  intro x hx
  rw [← List.map_fst_zip (Nat.le_of_eq hlength)] at hx
  obtain ⟨pair, hpair, rfl⟩ := List.mem_map.1 hx
  exact h pair hpair

omit [Pattern.Library] in
theorem forall_mem_of_zip_right {P : β → Prop} (h : ∀ pair ∈ xs.zip ys, P pair.2) :
    ∀ y ∈ ys, P y := by
  intro y hy
  rw [← List.map_snd_zip (Nat.le_of_eq hlength.symm)] at hy
  obtain ⟨pair, hpair, rfl⟩ := List.mem_map.1 hy
  exact h pair hpair

end Zip

/-! ### Reading -/

omit [Pattern.Library] in
theorem allConditions?_eq_some_iff {ws : List WrittenCondition} {cs : List Condition} :
    allConditions? ws = some cs ↔ List.Forall₂ (fun w c => w.condition? = some c) ws cs := by
  induction ws generalizing cs with
  | nil =>
    rw [allConditions?, List.forall₂_nil_left_iff, Option.some.injEq]
    exact eq_comm
  | cons w ws ih =>
    rw [allConditions?, List.forall₂_cons_left_iff]
    constructor
    · intro h
      split at h
      · exact absurd h (by simp)
      · next c hc =>
        obtain ⟨ds, hds, rfl⟩ := Option.map_eq_some_iff.1 h
        exact ⟨c, ds, hc, ih.1 hds, rfl⟩
    · rintro ⟨c, ds, hc, hds, rfl⟩
      rw [hc, ih.2 hds]
      rfl

omit [Pattern.Library] in
theorem condition?_of_leaf {w : WrittenCondition} {op : Operator}
    (hop : Operator.read? w.operator = some op) (hleaf : op.isLogical = false) :
    w.condition? = leaf? op w := by
  obtain ⟨field, operator, value, conditions⟩ := w
  rw [condition?, hop]
  simp only [hleaf, Bool.false_eq_true, if_false]

omit [Pattern.Library] in
theorem condition?_of_logical {w : WrittenCondition} {op : Operator}
    (hop : Operator.read? w.operator = some op) (hlogical : op.isLogical = true) :
    w.condition? = (allConditions? w.children).bind (combined? op) := by
  obtain ⟨field, operator, value, conditions⟩ := w
  rw [condition?, hop]
  simp only [hlogical, if_true]
  cases conditions with
  | none => rfl
  | some ws => rfl

/-! ### Nodes without issues -/

omit [Pattern.Library] in
theorem issuesBelow_eq_nil_iff {issues : WrittenCondition → List Issue} {index : Nat}
    {ws : List WrittenCondition} : issuesBelow issues index ws = [] ↔ ∀ w ∈ ws, issues w = [] := by
  induction ws generalizing index with
  | nil => simp [issuesBelow]
  | cons w ws ih =>
    rw [issuesBelow, List.append_eq_nil_iff, List.map_eq_nil_iff, ih, List.forall_mem_cons]

omit [Pattern.Library] in
theorem operand_eq (w : WrittenCondition) : w.operand = FieldValue.ofJson (w.value.getD .null) := by
  unfold operand
  cases w.value <;> rfl

omit [Pattern.Library] in
theorem leafShapeIssues_eq_nil_iff {op : Operator} {w : WrittenCondition} :
    leafShapeIssues op w = [] ↔
      w.conditions = none ∧ w.fieldName.isEmpty = false ∧ ∃ v, w.operand = .ok v := by
  rw [leafShapeIssues, List.append_eq_nil_iff, List.append_eq_nil_iff, and_assoc]
  refine and_congr ?_ (and_congr ?_ ?_)
  · cases w.conditions <;> simp
  · cases w.fieldName.isEmpty <;> simp
  · cases w.operand <;> simp

/-- Without `leafIssues` a leaf has a field, no nodes below, and an operand that suits its
operator. -/
theorem leafIssues_eq_nil_iff {patternSize : Nat} {op : Operator} {w : WrittenCondition}
    (hop : op.isLogical = false) :
    leafIssues patternSize op w = [] ↔
      w.conditions = none ∧ w.fieldName.isEmpty = false
        ∧ ∃ v, w.operand = .ok v ∧ op.Suits patternSize v := by
  unfold leafIssues
  split
  · next hshape =>
    obtain ⟨hconditions, hfield, v, hv⟩ := leafShapeIssues_eq_nil_iff.1 hshape
    rw [hv]
    cases hfault : operandFault? patternSize op v with
    | none => simp [hconditions, hfield, ← operandFault?_eq_none_iff hop, hfault]
    | some fault => simp [← operandFault?_eq_none_iff hop, hfault]
  · next hshape =>
    refine ⟨fun h => absurd h hshape, fun ⟨hconditions, hfield, v, hv, _⟩ => ?_⟩
    exact absurd (leafShapeIssues_eq_nil_iff.2 ⟨hconditions, hfield, v, hv⟩) hshape

omit [Pattern.Library] in
/-- Without `combinationIssues` of its own a node has neither field nor value, and as many nodes
below as `op` takes. -/
theorem combinationIssues_eq_nil_iff {op : Operator} {w : WrittenCondition} :
    combinationIssues op w = [] ↔
      w.field = none ∧ w.value = none
        ∧ ∃ ws, w.conditions = some ws ∧ if op = .not then ws.length = 1 else ws ≠ [] := by
  rw [combinationIssues, List.append_eq_nil_iff, List.append_eq_nil_iff, and_assoc]
  refine and_congr ?_ (and_congr ?_ ?_)
  · cases w.field <;> simp
  · cases w.value <;> simp
  · rw [children]
    by_cases hnot : op = .not <;> cases w.conditions <;> simp [hnot]

section Node

variable {limits : ValidationLimits} {room : Nat} {w : WrittenCondition} {op : Operator}

theorem issuesWithin_of_unknown (h : Operator.read? w.operator = none) :
    issuesWithin limits room w ≠ [] := by
  cases room with
  | zero => simp [issuesWithin]
  | succ room => simp [issuesWithin, h]

theorem issuesWithin_of_leaf (h : Operator.read? w.operator = some op)
    (hop : op.isLogical = false) :
    issuesWithin limits (room + 1) w = leafIssues limits.patternSize op w := by
  rw [issuesWithin, h]
  simp only [hop, Bool.false_eq_true, if_false]

theorem issuesWithin_of_logical (h : Operator.read? w.operator = some op)
    (hop : op.isLogical = true) :
    issuesWithin limits (room + 1) w
      = combinationIssues op w ++ issuesBelow (issuesWithin limits room) 0 w.children := by
  rw [issuesWithin, h]
  simp only [hop, if_true]

end Node

/-! ### Checking decides the grammar -/

omit [Pattern.Library] in
/-- Where every node of `ws` stands for something (`P`), they stand for a list of things. -/
theorem exists_forall₂ {ws : List WrittenCondition} {P : WrittenCondition → Condition → Prop}
    (h : ∀ w ∈ ws, ∃ c, P w c) : ∃ cs, List.Forall₂ P ws cs := by
  induction ws with
  | nil => exact ⟨[], .nil⟩
  | cons w ws ih =>
    obtain ⟨c, hc⟩ := h w List.mem_cons_self
    obtain ⟨cs, hcs⟩ := ih fun x hx => h x (List.mem_cons_of_mem w hx)
    exact ⟨c :: cs, .cons hc hcs⟩

/-- **What has no issue stands for something**: by `issuesWithin` with the room that is left at
`depth`. -/
theorem exists_standsFor_of_issuesWithin {limits : ValidationLimits} {depth room : Nat}
    {w : WrittenCondition} (h : issuesWithin limits room w = [])
    (hroom : depth + room = limits.maxDepth + 1) : ∃ c, StandsFor limits depth w c := by
  induction room generalizing depth w with
  | zero => exact absurd h (by simp [issuesWithin])
  | succ room ih =>
    have hdepth : depth ≤ limits.maxDepth := by omega
    cases hread : Operator.read? w.operator with
    | none => exact absurd h (issuesWithin_of_unknown hread)
    | some op =>
      have hlabel := Operator.read?_eq_some hread
      cases hlogical : op.isLogical with
      | false =>
        rw [issuesWithin_of_leaf hread hlogical, leafIssues_eq_nil_iff hlogical] at h
        obtain ⟨hconditions, hfield, v, hv, hsuits⟩ := h
        rw [operand_eq] at hv
        obtain ⟨field, operator, value, conditions⟩ := w
        obtain rfl : operator = op.label := hlabel
        obtain rfl : conditions = none := hconditions
        cases field with
        | none => exact absurd hfield (by simp [fieldName, Text.trim_isEmpty, Text.isAllBlank])
        | some field =>
          rw [fieldName, Option.getD_some, Text.trim_isEmpty] at hfield
          exact ⟨_, .leaf hdepth hlogical hfield hv hsuits⟩
      | true =>
        rw [issuesWithin_of_logical hread hlogical, List.append_eq_nil_iff,
          issuesBelow_eq_nil_iff, combinationIssues_eq_nil_iff] at h
        obtain ⟨⟨hfield, hvalue, ws, hconditions, harity⟩, hbelow⟩ := h
        obtain ⟨field, operator, value, conditions⟩ := w
        obtain rfl : operator = op.label := hlabel
        obtain rfl : field = none := hfield
        obtain rfl : value = none := hvalue
        obtain rfl : conditions = some ws := hconditions
        have hstands : ∀ x ∈ ws, ∃ c, StandsFor limits (depth + 1) x c := fun x hx =>
          ih (hbelow x hx) (by omega)
        cases op with
        | and =>
          obtain ⟨cs, hcs⟩ := exists_forall₂ hstands
          obtain ⟨hlength, hall⟩ := List.forall₂_iff_zip.1 hcs
          exact ⟨_, .and hdepth harity hlength fun pair hpair => hall hpair⟩
        | or =>
          obtain ⟨cs, hcs⟩ := exists_forall₂ hstands
          obtain ⟨hlength, hall⟩ := List.forall₂_iff_zip.1 hcs
          exact ⟨_, .or hdepth harity hlength fun pair hpair => hall hpair⟩
        | not =>
          obtain ⟨x, rfl⟩ := List.length_eq_one_iff.1 harity
          obtain ⟨c, hc⟩ := hstands x (List.mem_singleton_self x)
          exact ⟨_, .not hdepth hc⟩
        | _ => exact absurd hlogical (by decide)

omit [Pattern.Library] in
/-- When `depth` is within `maxDepth`, the `room` is one more than the room `below`. -/
theorem exists_room_below {depth room maxDepth : Nat} (hdepth : depth ≤ maxDepth)
    (hroom : depth + room = maxDepth + 1) :
    ∃ below, room = below + 1 ∧ depth + 1 + below = maxDepth + 1 :=
  ⟨room - 1, by omega, by omega⟩

namespace StandsFor

variable {limits : ValidationLimits} {depth room : Nat} {w : WrittenCondition} {c : Condition}

/-- A combination of `ws` is sound, and read as `combined?` of `cs`, when each of `ws` is and is
read as its fellow in `cs`. -/
private theorem sound_combination {op : Operator} {ws : List WrittenCondition}
    {cs : List Condition} (hop : op.isLogical = true)
    (harity : if op = .not then ws.length = 1 else ws ≠ []) (hc : combined? op cs = some c)
    (hlength : ws.length = cs.length)
    (h : ∀ pair ∈ ws.zip cs, issuesWithin limits room pair.1 = []
      ∧ pair.1.condition? = some pair.2) :
    issuesWithin limits (room + 1) ⟨none, op.label, none, some ws⟩ = []
      ∧ condition? ⟨none, op.label, none, some ws⟩ = some c := by
  have hread := Operator.read?_label op
  have hissues : ∀ x ∈ ws, issuesWithin limits room x = [] :=
    forall_mem_of_zip_left hlength fun pair hpair => (h pair hpair).1
  have hreads : allConditions? ws = some cs :=
    allConditions?_eq_some_iff.2 (List.forall₂_iff_zip.2 ⟨hlength, fun hpair => (h _ hpair).2⟩)
  constructor
  · rw [issuesWithin_of_logical hread hop, List.append_eq_nil_iff, issuesBelow_eq_nil_iff,
      combinationIssues_eq_nil_iff]
    exact ⟨⟨rfl, rfl, ws, rfl, harity⟩, hissues⟩
  · rw [condition?_of_logical hread hop]
    show (allConditions? ws).bind _ = _
    rw [hreads, Option.bind_some, hc]

/-- **What stands for something has no issue, and is read as that**: `issuesWithin` is empty and
`condition?` gives `c`. -/
theorem sound (h : StandsFor limits depth w c) (hroom : depth + room = limits.maxDepth + 1) :
    issuesWithin limits room w = [] ∧ w.condition? = some c := by
  induction h generalizing room with
  | @leaf depth field op value v hdepth hop hfield hvalue hsuits =>
    obtain ⟨room, rfl, -⟩ := exists_room_below hdepth hroom
    have hread := Operator.read?_label op
    have hoperand : operand ⟨some field, op.label, value, none⟩ = .ok v := by
      rw [operand_eq]
      exact hvalue
    constructor
    · rw [issuesWithin_of_leaf hread hop, leafIssues_eq_nil_iff hop]
      refine ⟨rfl, ?_, v, hoperand, hsuits⟩
      rw [fieldName, Option.getD_some, Text.trim_isEmpty, hfield]
    · rw [condition?_of_leaf hread hop, leaf?, hoperand]
      rfl
  | @and depth ws cs hdepth hne hlength _ ih =>
    obtain ⟨room, rfl, hbelow⟩ := exists_room_below hdepth hroom
    exact sound_combination rfl hne rfl hlength fun pair hpair => ih pair hpair hbelow
  | @or depth ws cs hdepth hne hlength _ ih =>
    obtain ⟨room, rfl, hbelow⟩ := exists_room_below hdepth hroom
    exact sound_combination rfl hne rfl hlength fun pair hpair => ih pair hpair hbelow
  | @not depth x d hdepth _ ih =>
    obtain ⟨room, rfl, hbelow⟩ := exists_room_below hdepth hroom
    have hcombined : combined? .not [d] = some (.not d) := rfl
    refine sound_combination rfl rfl hcombined rfl fun pair hpair => ?_
    obtain rfl := List.mem_singleton.1 hpair
    exact ih hbelow

end StandsFor

/-- Accepted by `check` is, as `c`, what `StandsFor` it at the root. -/
theorem check_eq_ok_iff_standsFor {limits : ValidationLimits} {w : WrittenCondition}
    {c : Condition} : w.check limits = .ok c ↔ StandsFor limits 1 w c := by
  have hroot : 1 + limits.maxDepth = limits.maxDepth + 1 := Nat.add_comm _ _
  constructor
  · intro h
    unfold check at h
    split at h
    · next d hissues hd =>
      obtain rfl := Except.ok.inj h
      obtain ⟨c, hc⟩ := exists_standsFor_of_issuesWithin hissues hroot
      obtain rfl : c = d := Option.some.inj ((hc.sound hroot).2.symm.trans hd)
      exact hc
    · exact absurd h (by simp)
  · intro h
    obtain ⟨hissues, hc⟩ := h.sound hroot
    have hnone : w.issues limits = [] := hissues
    rw [check, hnone, hc]

/-- A rejection `r` gives the issues, and there are some. -/
theorem check_eq_error_iff {limits : ValidationLimits} {w : WrittenCondition} {r : Rejection} :
    w.check limits = .error r ↔ w.issues limits ≠ [] ∧ r = ⟨w.issues limits⟩ := by
  cases hissues : w.issues limits with
  | nil =>
    obtain ⟨c, hc⟩ := exists_standsFor_of_issuesWithin hissues (Nat.add_comm 1 limits.maxDepth)
    simp [check_eq_ok_iff_standsFor.2 hc]
  | cons i is => simp [check, hissues, eq_comm]

/-- **Checking accepts the grammar, and nothing else.** Under `limits`, `w.check` accepts `w` as `c`
exactly when `w` stands for `c` at the root (`StandsFor`). A rejection `r` has at least one issue.
`w.report` says that `w` is valid exactly when it is accepted, and tells the issues of the
rejection. -/
theorem check_accepts_grammar (limits : ValidationLimits) (w : WrittenCondition) :
    (∀ c, w.check limits = .ok c ↔ StandsFor limits 1 w c)
      ∧ (∀ r, w.check limits = .error r → r.issues ≠ [])
      ∧ w.report limits
        = match w.check limits with
          | .ok _ => .object [("valid", .bool true), ("errors", .array [])]
          | .error r =>
            .object [("valid", .bool false), ("errors", .array (r.issues.map Issue.toJson))] := by
  refine ⟨fun c => check_eq_ok_iff_standsFor, fun r hr => ?_, ?_⟩
  · obtain ⟨hne, rfl⟩ := check_eq_error_iff.1 hr
    exact hne
  · cases h : w.check limits with
    | ok c =>
      have hissues : w.issues limits = [] :=
        ((check_eq_ok_iff_standsFor.1 h).sound (Nat.add_comm _ _)).1
      simp [report, hissues]
    | error r =>
      obtain ⟨hne, rfl⟩ := check_eq_error_iff.1 h
      simp [report, hne]

end WrittenCondition

end Governance
