import Mathlib.Data.List.Forall2
import Governance.Proofs.Condition.WireForm

/-!
# Equality of conditions

Conditions are compared by what they say: they have one shape, with the same fields and operators
at the leaves, and their operands are equal by value. The two signs of zero make no difference then,
and a number that is none differs from itself. So a condition equals itself when its operands are
finite.

* `FieldValue.beq_self`, `FieldValue.beq_symm`, `FieldValue.beq_trans`: equality of values is an
  equivalence on those that are finite.
* `Leaf.beq_iff`, `Combines.beq_iff`: what it takes for leaves and for combinations to be equal.
* `FiniteOperands.beq_self`: a condition with finite operands equals itself.
-/

namespace Governance

open Number

namespace FieldValue

theorem bool_beq (a b : Bool) : (bool a == bool b) = (a == b) := rfl

theorem number_beq (x y : Binary64) : (number x == number y) = x.equal y := rfl

theorem text_beq (s t : String) : (text s == text t) = (s == t) := rfl

theorem texts_beq (xs ys : List String) : (texts xs == texts ys) = (xs == ys) := rfl

theorem beq_self {v : FieldValue} (h : v.isFinite = true) : (v == v) = true := by
  cases v with
  | null => rfl
  | bool b => rw [bool_beq, beq_self_eq_true]
  | number x => exact Binary64.equal_self h
  | text s => rw [text_beq, beq_self_eq_true]
  | texts items => rw [texts_beq, beq_self_eq_true]

/-- Values that are equal by `==` are the same, numbers aside, which are equal by
`Binary64.equal`. -/
theorem eq_or_numbers_of_beq {v w : FieldValue} (h : (v == w) = true) :
    v = w ∨ ∃ x y, v = number x ∧ w = number y ∧ x.equal y = true := by
  cases v <;> cases w
  case null.null => exact .inl rfl
  case bool.bool a b => exact .inl (congrArg bool (eq_of_beq (bool_beq a b ▸ h)))
  case number.number x y => exact .inr ⟨x, y, rfl, rfl, h⟩
  case text.text s t => exact .inl (congrArg text (eq_of_beq (text_beq s t ▸ h)))
  case texts.texts xs ys => exact .inl (congrArg texts (eq_of_beq (texts_beq xs ys ▸ h)))
  all_goals exact absurd h Bool.false_ne_true

theorem beq_symm {v w : FieldValue} (h : (v == w) = true) : (w == v) = true := by
  rcases eq_or_numbers_of_beq h with rfl | ⟨x, y, rfl, rfl, hxy⟩
  · exact h
  · rwa [number_beq, Binary64.equal_comm]

theorem beq_trans {u v w : FieldValue} (h : (u == v) = true) (h' : (v == w) = true) :
    (u == w) = true := by
  rcases eq_or_numbers_of_beq h with rfl | ⟨x, y, rfl, rfl, hxy⟩
  · exact h'
  rcases eq_or_numbers_of_beq h' with rfl | ⟨y', z, hy, rfl, hyz⟩
  · exact h
  obtain rfl : y = y' := FieldValue.number.inj hy
  rw [Binary64.equal_iff] at hxy hyz
  rw [number_beq, Binary64.equal_iff]
  exact ⟨hxy.1, hxy.2.trans hyz.2⟩

end FieldValue

theorem Leaf.beq_iff {l m : Leaf} : (l == m) = true ↔
    l.field = m.field ∧ l.operator = m.operator ∧ (l.value == m.value) = true := by
  obtain ⟨field, operator, value⟩ := l
  obtain ⟨field', operator', value'⟩ := m
  have hbeq : (Leaf.mk field operator value == Leaf.mk field' operator' value')
    = (field == field' && (operator == operator' && value == value')) := rfl
  simp [hbeq]

namespace Condition

theorem equalAll_iff {cs ds : List Condition} :
    equalAll cs ds = true ↔ List.Forall₂ (fun c d => (c == d) = true) cs ds := by
  induction cs generalizing ds with
  | nil => cases ds <;> simp [equalAll]
  | cons c cs ih =>
    cases ds with
    | nil => simp [equalAll]
    | cons d ds =>
      rw [equalAll, Bool.and_eq_true, ih, List.forall₂_cons]
      rfl

/-- Combinations are equal by `==` when their operators are the same, and their parts equal one by
one. -/
theorem Combines.beq_iff {c d : Condition} {op op' : Operator} {cs ds : List Condition}
    (h : Combines c op cs) (h' : Combines d op' ds) :
    (c == d) = true ↔ op = op' ∧ List.Forall₂ (fun x y => (x == y) = true) cs ds := by
  cases h <;> cases h' <;>
    first
    | exact ⟨fun h => ⟨rfl, equalAll_iff.1 h⟩, fun h => equalAll_iff.2 h.2⟩
    | exact ⟨fun h => ⟨rfl, .cons h .nil⟩, fun h => (List.forall₂_cons.1 h.2).1⟩
    | exact ⟨fun h => (Bool.false_ne_true h).elim, fun h => nomatch h.1⟩

/-- **A condition with finite operands equals itself** by `==`. -/
theorem FiniteOperands.beq_self {c : Condition} (h : c.FiniteOperands) : (c == c) = true := by
  induction c using combinesInduction with
  | leaf l =>
    exact Leaf.beq_iff.2 ⟨rfl, rfl, FieldValue.beq_self (h l (List.mem_singleton_self l))⟩
  | combines hcs ih =>
    rw [hcs.finiteOperands_iff] at h
    exact (hcs.beq_iff hcs).2 ⟨rfl, List.forall₂_same.2 fun x hx => ih x hx (h x hx)⟩

end Condition

end Governance
