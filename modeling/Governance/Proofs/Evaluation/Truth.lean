import Mathlib.Data.List.Forall2
import Mathlib.Order.Defs.PartialOrder
import Governance.Proofs.Evaluation.Finding
import Governance.Proofs.Condition.Classical

/-!
# The truth of a condition in three values

Truths are ordered by how much they say: an error lies below holding and failing, which are not
compared. `Condition.truth` combines the truths of all leaves with the connectives of an
evaluation, but visits every child and keeps no account. Every connective respects the order.

* `truth_mono`: leaves that say more make a condition that says more.
* `truth_le_value`: whatever the erring leaves are taken to be, a condition that does not err has
  the truth of its classical reading.
* `truth_eq_holds_iff_value`: without negations, a condition holds exactly when it holds classically
  with every erring leaf failing.
-/

namespace Governance

namespace Truth

/-! ### The order -/

/-- In this order `errs` lies below `holds` and `fails`: an error says less than either. -/
instance : PartialOrder Truth where
  le a b := a = .errs ∨ a = b
  le_refl _ := .inr rfl
  le_trans a b c hab hbc := by
    rcases hab with rfl | rfl
    · exact .inl rfl
    · exact hbc
  le_antisymm a b hab hba := by
    rcases hab with rfl | rfl
    · rcases hba with rfl | rfl <;> rfl
    · rfl

instance (a b : Truth) : Decidable (a ≤ b) := inferInstanceAs (Decidable (a = .errs ∨ a = b))

theorem errs_le (a : Truth) : .errs ≤ a := .inl rfl

theorem eq_of_le_of_ne_errs {a b : Truth} (h : a ≤ b) (ha : a ≠ .errs) : a = b :=
  h.resolve_left ha

/-- What is above `holds` is `holds`. -/
theorem eq_holds_of_le {a b : Truth} (h : a ≤ b) (ha : a = .holds) : b = .holds :=
  ha ▸ (eq_of_le_of_ne_errs h (by rw [ha]; decide)).symm

/-! ### Connectives -/

/-- A conjunction of two: `b` decides when `a` holds. -/
def both (a b : Truth) : Truth := if a = .holds then b else a

/-- A disjunction of two: `a` decides when it holds or `b` fails. -/
def either (a b : Truth) : Truth :=
  if a = .holds then .holds else if b = .fails then a else b

def conjunction (ts : List Truth) : Truth := ts.foldr both .holds

def disjunction (ts : List Truth) : Truth := ts.foldr either .fails

/-- The truth of the value `b`. -/
def ofBool (b : Bool) : Truth := if b then .holds else .fails

theorem flip_mono {a b : Truth} (h : a ≤ b) : a.flip ≤ b.flip := by
  rcases h with rfl | rfl
  · exact errs_le _
  · exact le_refl _

theorem both_mono {a b c d : Truth} (hab : a ≤ b) (hcd : c ≤ d) : a.both c ≤ b.both d := by
  rcases hab with rfl | rfl
  · exact errs_le _
  · by_cases ha : a = .holds
    · simp only [both, ha, if_true]
      exact hcd
    · simp only [both, ha, if_false]
      exact le_refl _

theorem either_mono {a b c d : Truth} (hab : a ≤ b) (hcd : c ≤ d) :
    a.either c ≤ b.either d := by
  rcases hab with rfl | rfl <;> rcases hcd with rfl | rfl
  · exact errs_le _
  · -- The first errs: so does the disjunction, unless the second holds.
    cases c with
    | holds => cases b <;> exact le_refl _
    | fails => exact errs_le _
    | errs => exact errs_le _
  · cases a with
    | holds => exact le_refl _
    | fails => exact errs_le _
    | errs => exact errs_le _
  · exact le_refl _

theorem conjunction_mono {as bs : List Truth} (h : List.Forall₂ (· ≤ ·) as bs) :
    conjunction as ≤ conjunction bs := by
  induction h with
  | nil => exact le_refl _
  | cons hab _ ih => exact both_mono hab ih

theorem disjunction_mono {as bs : List Truth} (h : List.Forall₂ (· ≤ ·) as bs) :
    disjunction as ≤ disjunction bs := by
  induction h with
  | nil => exact le_refl _
  | cons hab _ ih => exact either_mono hab ih

theorem conjunction_eq_holds_iff {ts : List Truth} :
    conjunction ts = .holds ↔ ∀ t ∈ ts, t = .holds := by
  induction ts with
  | nil => simp [conjunction]
  | cons t ts ih =>
    rw [List.forall_mem_cons, ← ih]
    show t.both (conjunction ts) = .holds ↔ _
    by_cases ht : t = .holds <;> simp [both, ht]

theorem disjunction_eq_holds_iff {ts : List Truth} :
    disjunction ts = .holds ↔ ∃ t ∈ ts, t = .holds := by
  induction ts with
  | nil => simp [disjunction]
  | cons t ts ih =>
    rw [List.exists_mem_cons_iff, ← ih]
    show t.either (disjunction ts) = .holds ↔ _
    generalize disjunction ts = u
    cases t <;> cases u <;> decide

/-! ### Truths without errors -/

theorem ofBool_eq_holds_iff {b : Bool} : ofBool b = .holds ↔ b = true := by
  cases b <;> decide

theorem ofBool_not (b : Bool) : ofBool (!b) = (ofBool b).flip := by
  cases b <;> rfl

theorem conjunction_ofBool (bs : List Bool) :
    conjunction (bs.map ofBool) = ofBool (bs.all id) := by
  induction bs with
  | nil => rfl
  | cons b bs ih =>
    show (ofBool b).both (conjunction (bs.map ofBool)) = ofBool (b && bs.all id)
    rw [ih]
    cases b <;> rfl

theorem disjunction_ofBool (bs : List Bool) :
    disjunction (bs.map ofBool) = ofBool (bs.any id) := by
  induction bs with
  | nil => rfl
  | cons b bs ih =>
    show (ofBool b).either (disjunction (bs.map ofBool)) = ofBool (b || bs.any id)
    rw [ih]
    cases b <;> cases bs.any id <;> rfl

end Truth

namespace Condition

/-! ### The truth of a condition -/

mutual

/-- The truth of a condition whose leaves have the truths `r`. -/
def truth (r : Leaf → Truth) : Condition → Truth
  | .leaf l => r l
  | .and cs => .conjunction (truths r cs)
  | .or cs => .disjunction (truths r cs)
  | .not c => (truth r c).flip

def truths (r : Leaf → Truth) : List Condition → List Truth
  | [] => []
  | c :: cs => truth r c :: truths r cs

end

theorem truths_eq_map (r : Leaf → Truth) (cs : List Condition) :
    truths r cs = cs.map (truth r) := by
  induction cs with
  | nil => rfl
  | cons c cs ih => rw [truths, ih, List.map_cons]

/-- **Truth is monotone.** From `r` to `r'` a leaf that errs may come to hold or to fail, and every
node that did not err keeps its `truth`. -/
theorem truth_mono {r r' : Leaf → Truth} {c : Condition} (h : ∀ l ∈ c.leaves, r l ≤ r' l) :
    c.truth r ≤ c.truth r' := by
  have children (cs : List Condition)
      (ih : ∀ c ∈ cs, (∀ l ∈ c.leaves, r l ≤ r' l) → c.truth r ≤ c.truth r')
      (hcs : ∀ l ∈ cs.flatMap leaves, r l ≤ r' l) :
      List.Forall₂ (· ≤ ·) (truths r cs) (truths r' cs) := by
    rw [truths_eq_map, truths_eq_map, List.forall₂_map_left_iff, List.forall₂_map_right_iff,
      List.forall₂_same]
    intro c hc
    exact ih c hc fun l hl => hcs l (leaves_subset_of_mem hc hl)
  induction c with
  | leaf l => exact h l (by simp [leaves])
  | and cs ih =>
    rw [leaves_and] at h
    exact Truth.conjunction_mono (children cs ih h)
  | or cs ih =>
    rw [leaves_or] at h
    exact Truth.disjunction_mono (children cs ih h)
  | not c ih => exact Truth.flip_mono (ih h)

/-- **Errors may be resolved at will.** A condition that does not err has the truth of its classical
reading `c.value v`, however `v` reads the leaves that err, at each `way` to one of them. -/
theorem truth_le_value {r : Leaf → Truth} {v : List Nat → Leaf → Bool} {c : Condition}
    (h : ∀ way, ∀ l ∈ c.leaves, r l ≤ .ofBool (v way l)) :
    c.truth r ≤ .ofBool (c.value v) := by
  have children (cs : List Condition)
      (ih : ∀ c ∈ cs, ∀ {v : List Nat → Leaf → Bool},
        (∀ way, ∀ l ∈ c.leaves, r l ≤ .ofBool (v way l)) → c.truth r ≤ .ofBool (c.value v))
      (v : List Nat → Leaf → Bool) (index : Nat)
      (hcs : ∀ way, ∀ l ∈ cs.flatMap leaves, r l ≤ .ofBool (v way l)) :
      List.Forall₂ (· ≤ ·) (truths r cs) ((valuesFrom v index cs).map Truth.ofBool) := by
    induction cs generalizing index with
    | nil => exact .nil
    | cons c cs ihcs =>
      rw [truths, valuesFrom, List.map_cons]
      refine .cons (ih c List.mem_cons_self ?_) (ihcs ?_ (index + 1) ?_)
      · exact fun way l hl => hcs (index :: way) l (leaves_subset_of_mem List.mem_cons_self hl)
      · exact fun d hd => ih d (List.mem_cons_of_mem c hd)
      · intro way l hl
        exact hcs way l (by rw [List.flatMap_cons]; exact List.mem_append_right _ hl)
  induction c generalizing v with
  | leaf l => exact h [] l (by simp [leaves])
  | and cs ih =>
    rw [leaves_and] at h
    rw [value, ← Truth.conjunction_ofBool]
    exact Truth.conjunction_mono (children cs ih v 0 h)
  | or cs ih =>
    rw [leaves_or] at h
    rw [value, ← Truth.disjunction_ofBool]
    exact Truth.disjunction_mono (children cs ih v 0 h)
  | not c ih =>
    rw [value, Truth.ofBool_not]
    exact Truth.flip_mono (ih fun way l hl => h (0 :: way) l hl)

/-- **Without negations an error is a failure**: a positive `c` holds exactly when its classical
reading does, with errors read as false. -/
theorem truth_eq_holds_iff_value {r : Leaf → Truth} {c : Condition} (h : c.isPositive = true) :
    c.truth r = .holds ↔ c.value (fun _ l => r l == .holds) = true := by
  induction c with
  | leaf l => simp [truth, value]
  | and cs ih =>
    rw [value_and_const, List.all_eq_true, truth, Truth.conjunction_eq_holds_iff, truths_eq_map,
      List.forall_mem_map]
    exact forall₂_congr fun c hc => ih c hc (isPositive_and_iff.1 h c hc)
  | or cs ih =>
    rw [value_or_const, List.any_eq_true, truth, Truth.disjunction_eq_holds_iff, truths_eq_map]
    simp only [List.mem_map, exists_exists_and_eq_and]
    exact exists_congr fun c =>
      and_congr_right fun hc => ih c hc (isPositive_or_iff.1 h c hc)
  | not c _ => exact absurd h (by simp [isPositive])

end Condition

end Governance
