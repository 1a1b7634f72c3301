import Governance.Condition.Basic

/-!
# The structure of conditions

An induction principle that gives the hypothesis for every child of a combination, combinations
whatever their operator, what it takes for a condition to be well-formed, and the nodes of a
condition with the number of steps down to each.

A condition is **well-formed** when no combination in it is empty and no leaf carries an operator
that combines. Whatever bounds a condition bounds its nodes: a node of a well-formed condition is
well-formed (`NodeAt.isWellFormed`), it is shallower by the steps that lead to it
(`NodeAt.depth_le`), and its leaves are leaves of the whole (`NodeAt.leaves_subset`).
-/

namespace Governance.Condition

/-! ### Induction -/

/-- **Induction over conditions.** A combination may use the claim for each of its children. -/
@[elab_as_elim, induction_eliminator]
theorem childInduction {motive : Condition → Prop}
    (leaf : ∀ l, motive (.leaf l))
    (and : ∀ cs, (∀ c ∈ cs, motive c) → motive (.and cs))
    (or : ∀ cs, (∀ c ∈ cs, motive c) → motive (.or cs))
    (not : ∀ c, motive c → motive (.not c)) : ∀ c, motive c
  | .leaf l => leaf l
  | .and cs => and cs fun c _ => childInduction leaf and or not c
  | .or cs => or cs fun c _ => childInduction leaf and or not c
  | .not c => not c (childInduction leaf and or not c)

/-! ### Depth and leaves of combinations -/

theorem depthAll_le_iff {cs : List Condition} {n : Nat} :
    depthAll cs ≤ n ↔ ∀ c ∈ cs, c.depth ≤ n := by
  induction cs with
  | nil => simp [depthAll]
  | cons c cs ih =>
    rw [depthAll, Nat.max_le, ih, List.forall_mem_cons]

theorem depthAll_append (cs ds : List Condition) :
    depthAll (cs ++ ds) = max (depthAll cs) (depthAll ds) := by
  induction cs with
  | nil => simp [depthAll]
  | cons c cs ih =>
    rw [List.cons_append, depthAll, depthAll, ih]
    omega

theorem depthAll_eq_of_perm {cs ds : List Condition} (h : cs.Perm ds) :
    depthAll cs = depthAll ds := by
  apply Nat.le_antisymm
  · exact depthAll_le_iff.2 fun c hc => depth_le_depthAll (h.mem_iff.1 hc)
  · exact depthAll_le_iff.2 fun c hc => depth_le_depthAll (h.mem_iff.2 hc)

theorem depth_and_le_succ_iff {cs : List Condition} {n : Nat} :
    (Condition.and cs).depth ≤ n + 1 ↔ ∀ c ∈ cs, c.depth ≤ n := by
  rw [depth, ← depthAll_le_iff]
  omega

theorem depth_or_le_succ_iff {cs : List Condition} {n : Nat} :
    (Condition.or cs).depth ≤ n + 1 ↔ ∀ c ∈ cs, c.depth ≤ n := by
  rw [depth, ← depthAll_le_iff]
  omega

theorem exists_eq_succ_of_depth_le {c : Condition} {room : Nat} (h : c.depth ≤ room) :
    ∃ n, room = n + 1 :=
  Nat.exists_eq_add_one_of_ne_zero (Nat.ne_of_gt (Nat.lt_of_lt_of_le c.depth_pos h))

theorem leaves_and (cs : List Condition) : (Condition.and cs).leaves = cs.flatMap leaves := by
  rw [leaves, leavesAll_eq_flatMap]

theorem leaves_or (cs : List Condition) : (Condition.or cs).leaves = cs.flatMap leaves := by
  rw [leaves, leavesAll_eq_flatMap]

theorem leaves_subset_of_mem {c : Condition} {cs : List Condition} (h : c ∈ cs) :
    c.leaves ⊆ cs.flatMap leaves :=
  fun _ hl => List.mem_flatMap.2 ⟨c, h, hl⟩

/-! ### Combinations -/

/-- `Combines c op cs`: the condition combines the conditions `cs` under `op`. -/
inductive Combines : Condition → Operator → List Condition → Prop
  | and (cs : List Condition) : Combines (.and cs) .and cs
  | or (cs : List Condition) : Combines (.or cs) .or cs
  | not (c : Condition) : Combines (.not c) .not [c]

theorem leaf_or_combines (c : Condition) : (∃ l, c = .leaf l) ∨ ∃ op cs, Combines c op cs := by
  cases c with
  | leaf l => exact .inl ⟨l, rfl⟩
  | and cs => exact .inr ⟨_, _, .and cs⟩
  | or cs => exact .inr ⟨_, _, .or cs⟩
  | not c => exact .inr ⟨_, _, .not c⟩

theorem Combines.leaves_eq {c : Condition} {op : Operator} {cs : List Condition}
    (h : Combines c op cs) : c.leaves = cs.flatMap leaves := by
  cases h with
  | and => exact leaves_and cs
  | or => exact leaves_or cs
  | not c => simp [leaves]

/-- **Induction with one case for all combinations**, by `Combines`. -/
@[elab_as_elim]
theorem combinesInduction {motive : Condition → Prop} (leaf : ∀ l, motive (.leaf l))
    (combines : ∀ {c op cs}, Combines c op cs → (∀ x ∈ cs, motive x) → motive c)
    (c : Condition) : motive c := by
  induction c with
  | leaf l => exact leaf l
  | and cs ih => exact combines (.and cs) ih
  | or cs ih => exact combines (.or cs) ih
  | not c ih => exact combines (.not c) (by simpa using ih)

/-! ### Well-formed conditions -/

mutual

/-- No combination is empty, and no leaf carries an operator that combines. -/
def isWellFormed : Condition → Bool
  | .leaf l => !l.operator.isLogical
  | .and cs => !cs.isEmpty && allWellFormed cs
  | .or cs => !cs.isEmpty && allWellFormed cs
  | .not c => isWellFormed c

def allWellFormed : List Condition → Bool
  | [] => true
  | c :: cs => isWellFormed c && allWellFormed cs

end

theorem allWellFormed_iff {cs : List Condition} :
    allWellFormed cs = true ↔ ∀ c ∈ cs, c.isWellFormed = true := by
  induction cs with
  | nil => simp [allWellFormed]
  | cons c cs ih =>
    rw [allWellFormed, Bool.and_eq_true, ih, List.forall_mem_cons]

theorem isWellFormed_leaf_iff {l : Leaf} :
    (Condition.leaf l).isWellFormed = true ↔ l.operator.isLogical = false := by
  simp [isWellFormed]

theorem isWellFormed_and_iff {cs : List Condition} :
    (Condition.and cs).isWellFormed = true ↔ cs ≠ [] ∧ ∀ c ∈ cs, c.isWellFormed = true := by
  simp [isWellFormed, allWellFormed_iff]

theorem isWellFormed_or_iff {cs : List Condition} :
    (Condition.or cs).isWellFormed = true ↔ cs ≠ [] ∧ ∀ c ∈ cs, c.isWellFormed = true := by
  simp [isWellFormed, allWellFormed_iff]

/-! ### Nodes -/

/-- `NodeAt k n c`: the node `n` stands `k` steps below the root of `c`. -/
inductive NodeAt : Nat → Condition → Condition → Prop
  | root (c : Condition) : NodeAt 0 c c
  | and {k : Nat} {n c : Condition} {cs : List Condition} (hc : c ∈ cs) (h : NodeAt k n c) :
      NodeAt (k + 1) n (.and cs)
  | or {k : Nat} {n c : Condition} {cs : List Condition} (hc : c ∈ cs) (h : NodeAt k n c) :
      NodeAt (k + 1) n (.or cs)
  | not {k : Nat} {n c : Condition} (h : NodeAt k n c) : NodeAt (k + 1) n (.not c)

namespace NodeAt

theorem isWellFormed {k : Nat} {n c : Condition} (h : NodeAt k n c)
    (hc : c.isWellFormed = true) : n.isWellFormed = true := by
  induction h with
  | root c => exact hc
  | and hmem _ ih => exact ih ((isWellFormed_and_iff.1 hc).2 _ hmem)
  | or hmem _ ih => exact ih ((isWellFormed_or_iff.1 hc).2 _ hmem)
  | not _ ih => exact ih hc

theorem depth_le {k : Nat} {n c : Condition} (h : NodeAt k n c) : k + n.depth ≤ c.depth := by
  induction h with
  | root c => omega
  | and hmem _ ih =>
    have hle := depth_le_depthAll hmem
    simp only [depth]
    omega
  | or hmem _ ih =>
    have hle := depth_le_depthAll hmem
    simp only [depth]
    omega
  | not _ ih =>
    simp only [depth]
    omega

theorem leaves_subset {k : Nat} {n c : Condition} (h : NodeAt k n c) : n.leaves ⊆ c.leaves := by
  induction h with
  | root c => exact List.Subset.refl _
  | @and _ _ _ cs hmem _ ih =>
    rw [leaves_and]
    exact List.Subset.trans ih (leaves_subset_of_mem hmem)
  | @or _ _ _ cs hmem _ ih =>
    rw [leaves_or]
    exact List.Subset.trans ih (leaves_subset_of_mem hmem)
  | not _ ih => exact ih

end NodeAt

end Governance.Condition
