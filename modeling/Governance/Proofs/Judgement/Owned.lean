import Governance.Proofs.Judgement.Merged

/-!
# What belongs to one policy

Policies are told apart by their identifiers. What a merged result holds under some identifiers is
what the judgements of their owners gave. Where identifiers are distinct, each has one owner, and
the order in which the policies came shows in nothing that is sorted.

* `filter_flatMap_key`: a choice among keys is a choice among owners.
* `filter_flatMap_eq`: under one key stands what its owner gives.
* `filter_flatMap_eq_of_perm`: so it does in whatever order the owners come.
-/

namespace Governance

section Owners

variable {α β κ : Type} {owner : α → κ} {key : β → κ} {f : α → List β}

/-- **A choice among keys is a choice among owners**, if what `f` gives for `x` has the key
`owner x`. -/
theorem filter_flatMap_key {xs : List α} (hkey : ∀ x ∈ xs, ∀ y ∈ f x, key y = owner x)
    (p : κ → Bool) :
    (xs.flatMap f).filter (fun y => p (key y)) = (xs.filter fun x => p (owner x)).flatMap f := by
  induction xs with
  | nil => rfl
  | cons x xs ih =>
    rw [List.forall_mem_cons] at hkey
    obtain ⟨hx, hrest⟩ := hkey
    rw [List.flatMap_cons, List.filter_append, ih hrest]
    by_cases hp : p (owner x) = true
    · have hall : (f x).filter (fun y => p (key y)) = f x :=
        List.filter_eq_self.2 fun y hy => by rw [hx y hy, hp]
      rw [hall, List.filter_cons_of_pos (by exact hp), List.flatMap_cons]
    · have hnone : (f x).filter (fun y => p (key y)) = [] :=
        List.filter_eq_nil_iff.2 fun y hy => by rwa [hx y hy]
      rw [hnone, List.nil_append, List.filter_cons_of_neg (by exact hp)]

variable [DecidableEq κ] {xs ys : List α}

/-- A key has one owner in `xs`. -/
theorem filter_owner_eq_singleton (hnodup : (xs.map owner).Nodup) {x : α} (hx : x ∈ xs) :
    xs.filter (fun z => owner z = owner x) = [x] := by
  induction xs with
  | nil => exact absurd hx List.not_mem_nil
  | cons z xs ih =>
    rw [List.map_cons, List.nodup_cons] at hnodup
    obtain ⟨hfirst, hrest⟩ := hnodup
    rcases List.mem_cons.1 hx with rfl | hmem
    · have hnone : xs.filter (fun z => owner z = owner x) = [] :=
        List.filter_eq_nil_iff.2 fun y hy heq =>
          hfirst (of_decide_eq_true heq ▸ List.mem_map_of_mem hy)
      rw [List.filter_cons_of_pos (by simp), hnone]
    · have hne : owner z ≠ owner x := fun heq => hfirst (heq ▸ List.mem_map_of_mem hmem)
      rw [List.filter_cons_of_neg (by simpa using hne), ih hrest hmem]

/-- **Under one key stands what its owner gives**, if no two in `xs` share a key. -/
theorem filter_flatMap_eq (hnodup : (xs.map owner).Nodup)
    (hkey : ∀ x ∈ xs, ∀ y ∈ f x, key y = owner x) {x : α} (hx : x ∈ xs) :
    (xs.flatMap f).filter (fun y => key y = owner x) = f x := by
  rw [filter_flatMap_key hkey (fun k => k = owner x), filter_owner_eq_singleton hnodup hx,
    List.flatMap_singleton]

/-- **The order of the owners does not show under a key** `k`. -/
theorem filter_flatMap_eq_of_perm (hperm : xs.Perm ys) (hnodup : (xs.map owner).Nodup)
    (hkey : ∀ x ∈ xs, ∀ y ∈ f x, key y = owner x) (k : κ) :
    (xs.flatMap f).filter (fun y => key y = k) = (ys.flatMap f).filter (fun y => key y = k) := by
  rw [filter_flatMap_key hkey (fun l => l = k),
    filter_flatMap_key (fun x hx => hkey x (hperm.mem_iff.2 hx)) (fun l => l = k)]
  have howners := hperm.filter fun x => owner x = k
  by_cases hk : ∃ x ∈ xs, owner x = k
  · obtain ⟨x, hx, rfl⟩ := hk
    rw [filter_owner_eq_singleton hnodup hx] at howners ⊢
    rw [List.singleton_perm.1 howners]
  · have hnone : xs.filter (fun x => owner x = k) = [] :=
      List.filter_eq_nil_iff.2 fun x hx heq => hk ⟨x, hx, of_decide_eq_true heq⟩
    rw [hnone] at howners ⊢
    rw [List.nil_perm.1 howners]

end Owners

end Governance
