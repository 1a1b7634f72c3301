import Governance.Proofs.Operator.Texts

/-!
# Comparison by places

What the comparison operators answer depends on the places of both values in the order of numbers,
and where a value has none, on its text. Two values with places are compared as integers; a value
without one is equal to what has its text, and stands in no order.

* `looselyEqual_eq`: equality, by places and texts.
* `answer?_of_places`: comparison of two values that have places.
* `answer?_of_context`, `answer?_of_operand`: ordering where one of them has none.
-/

namespace Governance

open Number

variable {op : Operator} {actual expected : FieldValue} {m n : Int}

namespace FieldValue

/-- The place of the value `v` in the order of numbers; what is no number has none. -/
def place? (v : FieldValue) : Option Int := v.asNumber.bind Binary64.place?

theorem place?_eq_some_iff {v : FieldValue} :
    v.place? = some n ↔ ∃ x, v.asNumber = some x ∧ x.place? = some n :=
  Option.bind_eq_some_iff

/-- What is a number by `asNumber` is a finite one, so it has a place. -/
theorem place?_eq_none_iff {v : FieldValue} : v.place? = none ↔ v.asNumber = none := by
  unfold place?
  cases hnumber : v.asNumber with
  | none => simp
  | some x =>
    have hplace := Binary64.place?_isSome_of_isFinite (asNumber_isFinite hnumber)
    rw [Option.isSome_iff_ne_none] at hplace
    simp [hplace]

end FieldValue

/-! ### Values with places -/

/-- The comparison of integers that the operator stands for, if it compares numbers. -/
def Operator.comparison? : Operator → Option (Int → Int → Bool)
  | .equals => some fun m n => decide (m = n)
  | .notEquals => some fun m n => !decide (m = n)
  | .lessThan => some fun m n => decide (m < n)
  | .greaterThan => some fun m n => decide (n < m)
  | .lessThanOrEqual => some fun m n => decide (m ≤ n)
  | .greaterThanOrEqual => some fun m n => decide (n ≤ m)
  | _ => none

theorem relates_of_places {x y : Binary64} (r : Int → Int → Bool) (hx : x.place? = some m)
    (hy : y.place? = some n) : Binary64.relates r x y = r m n := by
  rw [Binary64.relates, hx, hy]

/-- **Equality compares the places of two values that have one, and texts otherwise**:
`looselyEqual`, by `place?`. -/
theorem looselyEqual_eq (actual expected : FieldValue) :
    looselyEqual actual expected
      = match actual.place?, expected.place? with
        | some m, some n => decide (m = n)
        | _, _ => actual.toText == expected.toText := by
  cases ha : actual.place? with
  | none => rw [looselyEqual, FieldValue.place?_eq_none_iff.1 ha]
  | some m =>
    obtain ⟨x, hx, hxm⟩ := FieldValue.place?_eq_some_iff.1 ha
    cases he : expected.place? with
    | none => rw [looselyEqual, hx, FieldValue.place?_eq_none_iff.1 he]
    | some n =>
      obtain ⟨y, hy, hyn⟩ := FieldValue.place?_eq_some_iff.1 he
      rw [looselyEqual, hx, hy]
      exact relates_of_places _ hxm hyn

variable [Pattern.Library]

/-- **Two values that have places are compared as integers**, by `op.comparison?`. -/
theorem answer?_of_places (env : Surroundings) {r : Int → Int → Bool}
    (hop : op.comparison? = some r) (ha : actual.place? = some m) (he : expected.place? = some n) :
    op.answer? env actual expected = some (.ok (r m n)) := by
  obtain ⟨x, hx, hxm⟩ := FieldValue.place?_eq_some_iff.1 ha
  obtain ⟨y, hy, hyn⟩ := FieldValue.place?_eq_some_iff.1 he
  have hequal : looselyEqual actual expected = decide (m = n) := by
    rw [looselyEqual_eq, ha, he]
  have horder (op : Operator) (holds : Binary64 → Binary64 → Bool) :
      ordering op holds actual expected = .ok (holds x y) := by
    rw [ordering, numericPair, hx, hy]
    rfl
  have hless := relates_of_places (fun a b => decide (a < b)) hxm hyn
  have hmore := relates_of_places (fun a b => decide (a < b)) hyn hxm
  have hatMost := relates_of_places (fun a b => decide (a ≤ b)) hxm hyn
  have hatLeast := relates_of_places (fun a b => decide (a ≤ b)) hyn hxm
  cases op <;> simp only [Operator.comparison?, Option.some.injEq, reduceCtorEq] at hop <;>
    subst hop <;>
    simp only [Operator.answer?, Operator.judgement?, Option.map_some, hequal, horder,
      Binary64.less, Binary64.atMost, hless, hmore, hatMost, hatLeast]

/-! ### Values without a place -/

omit [Pattern.Library] in
/-- Only what has the text of a value without a place is `looselyEqual` to it. -/
theorem looselyEqual_of_no_place (h : actual.place? = none ∨ expected.place? = none) :
    looselyEqual actual expected = (actual.toText == expected.toText) := by
  rw [looselyEqual_eq]
  split
  · next ha he => simp [ha, he] at h
  · rfl

/-- The value on the side, of the two that are compared. -/
def Side.value : Side → FieldValue → FieldValue → FieldValue
  | context, actual, _ => actual
  | operand, _, expected => expected

/-- The refusal by the ordering `op` of what stands on `side`. -/
def EvaluationError.unordered (op : Operator) (side : Side) (actual expected : FieldValue) :
    EvaluationError :=
  .notNumeric op side (side.value actual expected).kind (side.value actual expected).display

theorem Operator.answer?_of_isOrdering (env : Surroundings) (actual expected : FieldValue)
    (hop : op.isOrdering = true) :
    ∃ holds, op.answer? env actual expected = some (ordering op holds actual expected) := by
  cases op with
  | greaterThan | lessThan | greaterThanOrEqual | lessThanOrEqual => exact ⟨_, rfl⟩
  | _ => exact absurd hop (by decide)

/-- **A context value without a place stands in no order**, whatever `expected` is. -/
theorem answer?_of_context (env : Surroundings) (hop : op.isOrdering = true)
    (ha : actual.place? = none) :
    op.answer? env actual expected = some (.error (.unordered op .context actual expected)) := by
  obtain ⟨holds, hanswer⟩ := Operator.answer?_of_isOrdering env actual expected hop
  rw [hanswer, ordering, numericPair, FieldValue.place?_eq_none_iff.1 ha]
  rfl

/-- **Nor does an operand without a place**; `actual` is looked at first. -/
theorem answer?_of_operand (env : Surroundings) (hop : op.isOrdering = true)
    (ha : actual.place? = some m) (he : expected.place? = none) :
    op.answer? env actual expected = some (.error (.unordered op .operand actual expected)) := by
  obtain ⟨holds, hanswer⟩ := Operator.answer?_of_isOrdering env actual expected hop
  obtain ⟨x, hx, -⟩ := FieldValue.place?_eq_some_iff.1 ha
  rw [hanswer, ordering, numericPair, hx, FieldValue.place?_eq_none_iff.1 he]
  rfl

end Governance
