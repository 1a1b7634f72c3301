import Governance.Operator.Basic
import Governance.FieldValue

/-!
# Conditions

A condition is a leaf, which judges one field, or combines other conditions. Two measures are
defined on it: its depth, where a leaf has depth one, and its leaves from left to right. Equality
compares operands by value.
-/

namespace Governance

/-- A judgement on one field: the operator and its operand. -/
structure Leaf where
  field : String
  operator : Operator
  value : FieldValue
deriving BEq

/-- A condition on the fields of a context. -/
inductive Condition
  | leaf (leaf : Leaf)
  | and (children : List Condition)
  | or (children : List Condition)
  | not (child : Condition)

namespace Condition

instance : Inhabited Condition := ⟨and []⟩

mutual

/-- Equality of trees, their leaves compared by `==`. -/
def equal : Condition → Condition → Bool
  | .leaf a, .leaf b => a == b
  | .and xs, .and ys => equalAll xs ys
  | .or xs, .or ys => equalAll xs ys
  | .not x, .not y => equal x y
  | _, _ => false

def equalAll : List Condition → List Condition → Bool
  | [], [] => true
  | x :: xs, y :: ys => equal x y && equalAll xs ys
  | _, _ => false

end

instance : BEq Condition := ⟨equal⟩

/-- The operator at the root. -/
def operator : Condition → Operator
  | .leaf l => l.operator
  | .and _ => .and
  | .or _ => .or
  | .not _ => .not

mutual

/-- The number of nodes on the longest way from the root to a leaf. -/
def depth : Condition → Nat
  | .leaf _ => 1
  | .and cs => 1 + depthAll cs
  | .or cs => 1 + depthAll cs
  | .not c => 1 + depth c

/-- The greatest `depth` in a list, zero for none. -/
def depthAll : List Condition → Nat
  | [] => 0
  | c :: cs => max (depth c) (depthAll cs)

end

mutual

/-- The leaves from left to right. -/
def leaves : Condition → List Leaf
  | .leaf l => [l]
  | .and cs => leavesAll cs
  | .or cs => leavesAll cs
  | .not c => leaves c

def leavesAll : List Condition → List Leaf
  | [] => []
  | c :: cs => leaves c ++ leavesAll cs

end

def leafCount (c : Condition) : Nat := c.leaves.length

theorem depth_pos (c : Condition) : 0 < c.depth := by
  cases c <;> simp only [depth] <;> omega

theorem depth_le_depthAll {c : Condition} {cs : List Condition} (h : c ∈ cs) :
    c.depth ≤ depthAll cs := by
  induction cs with
  | nil => simp at h
  | cons x xs ih =>
    simp only [depthAll]
    rcases List.mem_cons.1 h with rfl | h
    · omega
    · have := ih h
      omega

theorem leavesAll_eq_flatMap (cs : List Condition) : leavesAll cs = cs.flatMap leaves := by
  induction cs with
  | nil => rfl
  | cons c cs ih => simp [leavesAll, ih]

end Condition

end Governance
