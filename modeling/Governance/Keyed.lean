/-!
# Values under keys

Lists of values under keys, in ascending order of the keys. `insert` puts a value where its key
belongs and takes the place of a value of that key; `erase` takes it away; `find?` looks a key up.
Looking up after an insertion finds the value inserted, and every other key is found as before.
-/

namespace Governance.Keyed

variable {κ α : Type} [DecidableEq κ] [LT κ] [DecidableLT κ]

/-- Puts `value` in the place of `key`; a value already there gives way. -/
def insert (key : κ) (value : α) : List (κ × α) → List (κ × α)
  | [] => [(key, value)]
  | (k, x) :: rest =>
    if key = k then (key, value) :: rest
    else if key < k then (key, value) :: (k, x) :: rest
    else (k, x) :: insert key value rest

/-- The values of `entries` under their keys, keys ascending; of two with one key the last stays. -/
def ofList (entries : List (κ × α)) : List (κ × α) :=
  entries.foldl (fun acc entry => insert entry.1 entry.2 acc) []

/-- The value of `key`, if there is one. -/
def find? (entries : List (κ × α)) (key : κ) : Option α :=
  (entries.find? fun entry => entry.1 == key).map Prod.snd

/-- The values without that of `key`. -/
def erase (entries : List (κ × α)) (key : κ) : List (κ × α) :=
  entries.filter fun entry => entry.1 ≠ key

/-! ### Looking up -/

omit [LT κ] [DecidableLT κ] in
theorem find?_nil (key : κ) : find? ([] : List (κ × α)) key = none := rfl

omit [LT κ] [DecidableLT κ] in
theorem find?_cons (k : κ) (x : α) (rest : List (κ × α)) (key : κ) :
    find? ((k, x) :: rest) key = if k = key then some x else find? rest key := by
  by_cases h : k = key
  · simp [find?, h]
  · have hk : (k == key) = false := by simpa using h
    simp [find?, List.find?, h, hk]

theorem find?_insert_self (key : κ) (value : α) (entries : List (κ × α)) :
    find? (insert key value entries) key = some value := by
  induction entries with
  | nil => simp [insert, find?_cons]
  | cons entry rest ih =>
    obtain ⟨k, x⟩ := entry
    unfold insert
    split
    · simp [find?_cons]
    · split
      · simp [find?_cons]
      · rename_i h _
        rw [find?_cons, if_neg (fun e : k = key => h e.symm), ih]

theorem find?_insert_of_ne {key other : κ} (h : other ≠ key) (value : α)
    (entries : List (κ × α)) :
    find? (insert key value entries) other = find? entries other := by
  have hne : ¬ key = other := fun e => h e.symm
  induction entries with
  | nil => simp [insert, find?_cons, hne]
  | cons entry rest ih =>
    obtain ⟨k, x⟩ := entry
    unfold insert
    split
    · rename_i hk
      subst hk
      simp [find?_cons, hne]
    · split
      · simp [find?_cons, hne]
      · rw [find?_cons, find?_cons, ih]

omit [LT κ] [DecidableLT κ] in
theorem mem_of_find?_eq_some {entries : List (κ × α)} {key : κ} {value : α}
    (h : find? entries key = some value) : (key, value) ∈ entries := by
  induction entries with
  | nil => exact absurd h (by simp [find?_nil])
  | cons first rest ih =>
    obtain ⟨k, x⟩ := first
    rw [find?_cons] at h
    split at h
    · next hk =>
      obtain rfl := Option.some.inj h
      rw [hk]
      exact List.mem_cons_self
    · exact List.mem_cons_of_mem _ (ih h)

theorem mem_of_mem_insert {key : κ} {value : α} {entries : List (κ × α)} {entry : κ × α}
    (h : entry ∈ insert key value entries) : entry = (key, value) ∨ entry ∈ entries := by
  induction entries with
  | nil => exact .inl (List.mem_singleton.1 h)
  | cons first rest ih =>
    obtain ⟨k, x⟩ := first
    unfold insert at h
    split at h
    · rcases List.mem_cons.1 h with hnew | hrest
      · exact .inl hnew
      · exact .inr (List.mem_cons_of_mem _ hrest)
    · split at h
      · exact List.mem_cons.1 h
      · rcases List.mem_cons.1 h with rfl | hrest
        · exact .inr List.mem_cons_self
        · exact (ih hrest).imp_right (List.mem_cons_of_mem _)

/-- What `find?` gives after insertions was inserted, or was in `acc` before. -/
theorem mem_or_find?_of_foldl {entries acc : List (κ × α)} {key : κ} {value : α}
    (h : find? (entries.foldl (fun acc entry => insert entry.1 entry.2 acc) acc) key = some value) :
    (key, value) ∈ entries ∨ find? acc key = some value := by
  induction entries generalizing acc with
  | nil => exact .inr h
  | cons entry rest ih =>
    rcases ih h with hrest | hacc
    · exact .inl (List.mem_cons_of_mem entry hrest)
    · by_cases hkey : key = entry.1
      · subst hkey
        rw [find?_insert_self] at hacc
        obtain rfl := Option.some.inj hacc
        exact .inl List.mem_cons_self
      · rw [find?_insert_of_ne hkey] at hacc
        exact .inr hacc

theorem mem_of_find?_ofList {entries : List (κ × α)} {key : κ} {value : α}
    (h : find? (ofList entries) key = some value) : (key, value) ∈ entries := by
  rcases mem_or_find?_of_foldl h with hmem | hnone
  · exact hmem
  · exact absurd hnone (by simp [find?_nil])

omit [LT κ] [DecidableLT κ] in
theorem find?_erase_self (entries : List (κ × α)) (key : κ) :
    find? (erase entries key) key = none := by
  induction entries with
  | nil => rfl
  | cons entry rest ih =>
    obtain ⟨k, x⟩ := entry
    by_cases h : k = key
    · simpa [erase, h] using ih
    · simpa [erase, h, find?_cons] using ih

omit [LT κ] [DecidableLT κ] in
theorem find?_erase_of_ne {key other : κ} (h : other ≠ key) (entries : List (κ × α)) :
    find? (erase entries key) other = find? entries other := by
  induction entries with
  | nil => rfl
  | cons entry rest ih =>
    obtain ⟨k, x⟩ := entry
    by_cases hk : k = key
    · have hne : ¬ key = other := fun e => h e.symm
      simpa [erase, hk, find?_cons, hne] using ih
    · simpa [erase, hk, find?_cons] using congrArg (fun o => if k = other then some x else o) ih

end Governance.Keyed
