import Governance.Proofs.Condition.Structure

/-!
# The classical reading of conditions

`Condition.value` is the truth value of a condition as a formula: every child is looked at, a
conjunction is the conjunction of its children, a disjunction their disjunction, and nothing can
err. The leaves are read by a function that also sees the child indices on the way to a leaf, so
that one leaf that stands at two places may be read in two ways.

Where the reading does not look at the way, the value does not depend on the order of the children
of any combination (`Rearranged.value_eq`). Rearranging keeps depth, well-formedness and the absence
of negations.
-/

namespace Governance.Condition

/-! ### Values -/

mutual

/-- The truth value of a condition whose leaves are read by `v`. -/
def value (v : List Nat → Leaf → Bool) : Condition → Bool
  | .leaf l => v [] l
  | .and cs => (valuesFrom v 0 cs).all id
  | .or cs => (valuesFrom v 0 cs).any id
  | .not c => !value (fun way => v (0 :: way)) c

/-- The values of children, the first of which has the index `index`. -/
def valuesFrom (v : List Nat → Leaf → Bool) (index : Nat) : List Condition → List Bool
  | [] => []
  | c :: cs => value (fun way => v (index :: way)) c :: valuesFrom v (index + 1) cs

end

theorem valuesFrom_const (v : Leaf → Bool) (index : Nat) (cs : List Condition) :
    valuesFrom (fun _ => v) index cs = cs.map (value fun _ => v) := by
  induction cs generalizing index with
  | nil => rfl
  | cons c cs ih => rw [valuesFrom, ih, List.map_cons]

theorem value_and_const (v : Leaf → Bool) (cs : List Condition) :
    (Condition.and cs).value (fun _ => v) = cs.all (value fun _ => v) := by
  rw [value, valuesFrom_const, List.all_map]
  rfl

theorem value_or_const (v : Leaf → Bool) (cs : List Condition) :
    (Condition.or cs).value (fun _ => v) = cs.any (value fun _ => v) := by
  rw [value, valuesFrom_const, List.any_map]
  rfl

/-! ### Conditions without negations -/

mutual

/-- No node of the condition is a `not`. -/
def isPositive : Condition → Bool
  | .leaf _ => true
  | .and cs => allPositive cs
  | .or cs => allPositive cs
  | .not _ => false

def allPositive : List Condition → Bool
  | [] => true
  | c :: cs => isPositive c && allPositive cs

end

theorem allPositive_iff {cs : List Condition} :
    allPositive cs = true ↔ ∀ c ∈ cs, c.isPositive = true := by
  induction cs with
  | nil => simp [allPositive]
  | cons c cs ih =>
    rw [allPositive, Bool.and_eq_true, ih, List.forall_mem_cons]

theorem isPositive_and_iff {cs : List Condition} :
    (Condition.and cs).isPositive = true ↔ ∀ c ∈ cs, c.isPositive = true := by
  rw [isPositive, allPositive_iff]

theorem isPositive_or_iff {cs : List Condition} :
    (Condition.or cs).isPositive = true ↔ ∀ c ∈ cs, c.isPositive = true := by
  rw [isPositive, allPositive_iff]

/-! ### Rearranging children -/

/-- Written `Rearranged c d`: `d` is `c` with the children of any of its combinations in another
order. -/
inductive Rearranged : Condition → Condition → Prop
  | refl (c : Condition) : Rearranged c c
  | trans {b c d : Condition} (hbc : Rearranged b c) (hcd : Rearranged c d) : Rearranged b d
  | permuteAnd {cs ds : List Condition} (h : cs.Perm ds) : Rearranged (.and cs) (.and ds)
  | permuteOr {cs ds : List Condition} (h : cs.Perm ds) : Rearranged (.or cs) (.or ds)
  | insideAnd {c d : Condition} (before after : List Condition) (h : Rearranged c d) :
      Rearranged (.and (before ++ c :: after)) (.and (before ++ d :: after))
  | insideOr {c d : Condition} (before after : List Condition) (h : Rearranged c d) :
      Rearranged (.or (before ++ c :: after)) (.or (before ++ d :: after))
  | insideNot {c d : Condition} (h : Rearranged c d) : Rearranged (.not c) (.not d)

namespace Rearranged

theorem value_eq (v : Leaf → Bool) {c d : Condition} (h : Rearranged c d) :
    c.value (fun _ => v) = d.value (fun _ => v) := by
  induction h with
  | refl c => rfl
  | trans _ _ ihbc ihcd => rw [ihbc, ihcd]
  | permuteAnd h => rw [value_and_const, value_and_const, h.all_eq]
  | permuteOr h => rw [value_or_const, value_or_const, h.any_eq]
  | insideAnd before after _ ih =>
    simp only [value_and_const, List.all_append, List.all_cons, ih]
  | insideOr before after _ ih =>
    simp only [value_or_const, List.any_append, List.any_cons, ih]
  | insideNot _ ih => rw [value, value, ih]

/-- A claim `p` about children that only asks who is among them survives a new order, and the
exchange of `c` for a `d` of which it holds too. -/
private theorem forall_mem_exchange {p : Condition → Prop} {c d : Condition}
    {before after : List Condition} (hcd : p c → p d) (h : ∀ x ∈ before ++ c :: after, p x) :
    ∀ x ∈ before ++ d :: after, p x := by
  intro x hx
  rcases List.mem_append.1 hx with hb | hx
  · exact h x (List.mem_append_left _ hb)
  · rcases List.mem_cons.1 hx with rfl | ha
    · exact hcd (h c (by simp))
    · exact h x (List.mem_append_right _ (List.mem_cons_of_mem _ ha))

theorem isWellFormed {c d : Condition} (h : Rearranged c d) (hc : c.isWellFormed = true) :
    d.isWellFormed = true := by
  induction h with
  | refl c => exact hc
  | trans _ _ ihbc ihcd => exact ihcd (ihbc hc)
  | permuteAnd h =>
    obtain ⟨hne, hall⟩ := isWellFormed_and_iff.1 hc
    refine isWellFormed_and_iff.2 ⟨?_, fun x hx => hall x (h.mem_iff.2 hx)⟩
    intro hds
    exact hne (List.perm_nil.1 (hds ▸ h))
  | permuteOr h =>
    obtain ⟨hne, hall⟩ := isWellFormed_or_iff.1 hc
    refine isWellFormed_or_iff.2 ⟨?_, fun x hx => hall x (h.mem_iff.2 hx)⟩
    intro hds
    exact hne (List.perm_nil.1 (hds ▸ h))
  | insideAnd before after _ ih =>
    have hall := (isWellFormed_and_iff.1 hc).2
    exact isWellFormed_and_iff.2 ⟨by simp, forall_mem_exchange ih hall⟩
  | insideOr before after _ ih =>
    have hall := (isWellFormed_or_iff.1 hc).2
    exact isWellFormed_or_iff.2 ⟨by simp, forall_mem_exchange ih hall⟩
  | insideNot _ ih => exact ih hc

theorem isPositive {c d : Condition} (h : Rearranged c d) (hc : c.isPositive = true) :
    d.isPositive = true := by
  induction h with
  | refl c => exact hc
  | trans _ _ ihbc ihcd => exact ihcd (ihbc hc)
  | permuteAnd h =>
    exact isPositive_and_iff.2 fun x hx => isPositive_and_iff.1 hc x (h.mem_iff.2 hx)
  | permuteOr h =>
    exact isPositive_or_iff.2 fun x hx => isPositive_or_iff.1 hc x (h.mem_iff.2 hx)
  | insideAnd before after _ ih =>
    exact isPositive_and_iff.2 (forall_mem_exchange ih (isPositive_and_iff.1 hc))
  | insideOr before after _ ih =>
    exact isPositive_or_iff.2 (forall_mem_exchange ih (isPositive_or_iff.1 hc))
  | insideNot _ ih => exact absurd hc (by simp [Condition.isPositive])

theorem depth_eq {c d : Condition} (h : Rearranged c d) : c.depth = d.depth := by
  induction h with
  | refl c => rfl
  | trans _ _ ihbc ihcd => rw [ihbc, ihcd]
  | permuteAnd h => rw [depth, depth, depthAll_eq_of_perm h]
  | permuteOr h => rw [depth, depth, depthAll_eq_of_perm h]
  | insideAnd before after _ ih => simp only [depth, depthAll_append, depthAll, ih]
  | insideOr before after _ ih => simp only [depth, depthAll_append, depthAll, ih]
  | insideNot _ ih => rw [depth, depth, ih]

end Rearranged

end Governance.Condition
