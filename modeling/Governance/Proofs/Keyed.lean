import Governance.Keyed

/-!
# Values put in under different keys

When all keys of some entries differ, none of the entries gives way to another one: they are all
there, each once, and each is found under its key. Entries under other keys do not matter to a key.

* `perm_ofList`: entries under different keys are kept, in another order.
* `find?_eq_some_of_nodup`: each is found.
* `find?_foldl_of_not_mem`: entries under other keys leave what is found under a key.
-/

namespace Governance.Keyed

variable {κ α : Type} [DecidableEq κ] [LT κ] [DecidableLT κ]
variable {entries acc : List (κ × α)} {key : κ} {value : α}

theorem perm_insert (h : key ∉ entries.map Prod.fst) :
    (insert key value entries).Perm ((key, value) :: entries) := by
  induction entries with
  | nil => exact .refl _
  | cons first rest ih =>
    obtain ⟨k, x⟩ := first
    obtain ⟨hne, hrest⟩ := not_or.1 (mt List.mem_cons.2 h)
    unfold insert
    rw [if_neg hne]
    split
    · exact .refl _
    · exact ((ih hrest).cons _).trans (.swap _ _ _)

/-- By `insert`, `entries` are put in one after the other, under keys that differ from those
before. -/
theorem perm_foldl_insert (h : ((entries ++ acc).map Prod.fst).Nodup) :
    (entries.foldl (fun acc entry => insert entry.1 entry.2 acc) acc).Perm (entries ++ acc) := by
  induction entries generalizing acc with
  | nil => exact .refl _
  | cons entry entries ih =>
    have hnew : entry.1 ∉ acc.map Prod.fst := by
      rw [List.cons_append, List.map_cons, List.nodup_cons, List.map_append] at h
      exact fun hmem => h.1 (List.mem_append_right _ hmem)
    have hmoved : (entries ++ insert entry.1 entry.2 acc).Perm (entry :: entries ++ acc) :=
      ((perm_insert hnew).append_left entries).trans List.perm_middle
    exact (ih ((hmoved.map Prod.fst).nodup_iff.2 h)).trans hmoved

/-- **Entries under different keys are kept** by `ofList`, in another order. -/
theorem perm_ofList (h : (entries.map Prod.fst).Nodup) : (ofList entries).Perm entries := by
  rw [← List.append_nil entries] at h
  exact (perm_foldl_insert h).trans (.of_eq (List.append_nil entries))

omit [LT κ] [DecidableLT κ] in
/-- **Each entry is found** by `find?` **when no two have one key.** -/
theorem find?_eq_some_of_nodup (hkeys : (entries.map Prod.fst).Nodup)
    (h : (key, value) ∈ entries) : find? entries key = some value := by
  induction entries with
  | nil => exact absurd h List.not_mem_nil
  | cons first rest ih =>
    obtain ⟨k, x⟩ := first
    obtain ⟨hnew, hrest⟩ := List.nodup_cons.1 hkeys
    rw [find?_cons]
    rcases List.mem_cons.1 h with hfirst | hmem
    · obtain ⟨rfl, rfl⟩ := Prod.mk.inj hfirst
      exact if_pos rfl
    · have hne : k ≠ key := by
        rintro rfl
        exact hnew (List.mem_map.2 ⟨_, hmem, rfl⟩)
      rw [if_neg hne]
      exact ih hrest hmem

/-- **Entries under other keys leave what is found under a key**: `find?` gives for `key` what it
gives before. -/
theorem find?_foldl_of_not_mem (h : key ∉ entries.map Prod.fst) :
    find? (entries.foldl (fun acc entry => insert entry.1 entry.2 acc) acc) key
      = find? acc key := by
  induction entries generalizing acc with
  | nil => rfl
  | cons entry entries ih =>
    obtain ⟨hne, hrest⟩ := not_or.1 (mt List.mem_cons.2 h)
    rw [List.foldl_cons, ih hrest, find?_insert_of_ne hne]

end Governance.Keyed
