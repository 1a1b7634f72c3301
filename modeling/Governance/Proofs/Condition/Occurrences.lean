import Governance.Proofs.Condition.Structure

/-!
# Occurrences of leaves

One leaf may stand at several places of a condition, under a different number of negations at each.
`Condition.occurrences` lists the places: for each the child indices on the way to it, the leaf that
stands there and the number of negations above it.

* `map_leaf_occurrences`: these are the leaves from left to right.
* `occurrences_ascending`: the ways ascend, so that no place is listed twice.
-/

namespace Governance

/-- A place at which a leaf stands. -/
structure Occurrence where
  /-- The child indices on the way from the root. -/
  way : List Nat
  leaf : Leaf
  /-- The number of negations on the way. -/
  negations : Nat

namespace Occurrence

/-- The place `o` seen from a combination in which the condition is the child of `index`. -/
def below (index : Nat) (o : Occurrence) : Occurrence := { o with way := index :: o.way }

/-- The place `o` seen from the negation of the condition. -/
def negated (o : Occurrence) : Occurrence := ⟨0 :: o.way, o.leaf, o.negations + 1⟩

/-- At `o` the leaf counts with its answer turned round. -/
def isNegated (o : Occurrence) : Bool := decide (o.negations % 2 = 1)

/-- The place `o` stands to the left of `p`. -/
def Before (o p : Occurrence) : Prop := o.way < p.way

theorem isNegated_negated (o : Occurrence) : o.negated.isNegated = !o.isNegated := by
  show decide ((o.negations + 1) % 2 = 1) = !decide (o.negations % 2 = 1)
  rw [← decide_not, decide_eq_decide]
  omega

/-- Places whose ways all get one `index` in front keep their order. -/
theorem pairwise_before_map {index : Nat} {g : Occurrence → Occurrence}
    (hg : ∀ o, (g o).way = index :: o.way) {os : List Occurrence} (h : os.Pairwise Before) :
    (os.map g).Pairwise Before := by
  rw [List.pairwise_map]
  refine h.imp fun {o p} hop => ?_
  rw [Before, hg, hg, List.cons_lt_cons_iff]
  exact .inr ⟨rfl, hop⟩

end Occurrence

namespace Condition

mutual

/-- The places of the leaves, from left to right. -/
def occurrences : Condition → List Occurrence
  | .leaf l => [⟨[], l, 0⟩]
  | .and cs => occurrencesFrom 0 cs
  | .or cs => occurrencesFrom 0 cs
  | .not c => (occurrences c).map Occurrence.negated

/-- The places of the leaves of children, the first of which has the index `index`. -/
def occurrencesFrom (index : Nat) : List Condition → List Occurrence
  | [] => []
  | c :: cs => (occurrences c).map (Occurrence.below index) ++ occurrencesFrom (index + 1) cs

end

/-- **The places are those of the leaves**: `occurrences` lists `c.leaves`. -/
theorem map_leaf_occurrences (c : Condition) :
    c.occurrences.map Occurrence.leaf = c.leaves := by
  have children (cs : List Condition)
      (ih : ∀ c ∈ cs, c.occurrences.map Occurrence.leaf = c.leaves) (index : Nat) :
      (occurrencesFrom index cs).map Occurrence.leaf = cs.flatMap leaves := by
    induction cs generalizing index with
    | nil => rfl
    | cons c cs ihcs =>
      rw [occurrencesFrom, List.map_append, List.map_map, List.flatMap_cons,
        ihcs (fun d hd => ih d (List.mem_cons_of_mem c hd)), ← ih c List.mem_cons_self]
      rfl
  induction c with
  | leaf l => rfl
  | and cs ih =>
    rw [leaves_and]
    exact children cs ih 0
  | or cs ih =>
    rw [leaves_or]
    exact children cs ih 0
  | not c ih =>
    rw [occurrences, List.map_map, leaves, ← ih]
    rfl

/-- The way to a leaf of a later child begins with a later index than `index`. -/
theorem way_of_mem_occurrencesFrom {cs : List Condition} {index : Nat} {o : Occurrence}
    (h : o ∈ occurrencesFrom index cs) : ∃ i way, index ≤ i ∧ o.way = i :: way := by
  induction cs generalizing index with
  | nil => exact absurd h List.not_mem_nil
  | cons c cs ih =>
    rcases List.mem_append.1 h with hc | hcs
    · obtain ⟨p, -, rfl⟩ := List.mem_map.1 hc
      exact ⟨index, p.way, Nat.le_refl _, rfl⟩
    · obtain ⟨i, way, hi, hway⟩ := ih hcs
      exact ⟨i, way, by omega, hway⟩

/-- **Places ascend.** In `c.occurrences` the way to each leaf comes before the ways to those on its
right. -/
theorem occurrences_ascending (c : Condition) : c.occurrences.Pairwise Occurrence.Before := by
  have children (cs : List Condition)
      (ih : ∀ c ∈ cs, c.occurrences.Pairwise Occurrence.Before) (index : Nat) :
      (occurrencesFrom index cs).Pairwise Occurrence.Before := by
    induction cs generalizing index with
    | nil => exact .nil
    | cons c cs ihcs =>
      rw [occurrencesFrom, List.pairwise_append]
      refine ⟨Occurrence.pairwise_before_map (fun _ => rfl) (ih c List.mem_cons_self),
        ihcs (fun d hd => ih d (List.mem_cons_of_mem c hd)) (index + 1), ?_⟩
      intro o ho p hp
      obtain ⟨q, -, rfl⟩ := List.mem_map.1 ho
      obtain ⟨i, way, hi, hway⟩ := way_of_mem_occurrencesFrom hp
      show index :: q.way < p.way
      rw [hway, List.cons_lt_cons_iff]
      exact .inl (by omega)
  induction c with
  | leaf l => exact List.pairwise_singleton _ _
  | and cs ih => exact children cs ih 0
  | or cs ih => exact children cs ih 0
  | not c ih => exact Occurrence.pairwise_before_map (fun _ => rfl) ih

end Condition

end Governance
