import Governance.Json.Decode
import Governance.Proofs.Except

/-!
# Records read back from objects

What is written as an object is read back member by member: each slot finds the member of its name,
whatever stands before it, and no slot is at fault. The lemmas here are tagged for `simp`, which
reads a written record with them once it knows how the values of its members are read.

* `list_map`: a list of values that are read back is read back.
* `exists_of_list_eq_ok`: what a list holds was read from its items.
* `slot_cons_self`, `slot_cons_of_ne`: a slot finds the member of its name and passes over others.
* `slot_optional_self`, `slot_optional_of_ne`: so it is with members that may be left out.
* `required_slot_eq_ok_iff`, `getD_slot_eq_ok`: what comes out of a slot was found and read.
-/

namespace Governance.Decode

variable {α : Type} {item : Json → Reading α} {write : α → Json}

/-! ### Lists and numbers -/

/-- **A list of values that are read back is read back**: `list item` inverts `map write` where
`item` inverts `write`. -/
theorem list_map {as : List α} (h : ∀ a ∈ as, item (write a) = .ok a) :
    list item (.array (as.map write)) = .ok as := by
  show (as.map write).mapM item = .ok as
  induction as with
  | nil => rfl
  | cons a as ih =>
    rw [List.forall_mem_cons] at h
    rw [List.map_cons, List.mapM_cons, h.1, ih h.2]
    rfl

theorem exists_of_mapM_eq_ok {xs : List Json} {as : List α} (h : xs.mapM item = .ok as) :
    ∀ a ∈ as, ∃ x ∈ xs, item x = .ok a := by
  induction xs generalizing as with
  | nil =>
    obtain rfl := Except.ok.inj h
    exact nofun
  | cons x xs ih =>
    rw [List.mapM_cons] at h
    obtain ⟨a, ha, h⟩ := bind_eq_ok_iff.1 h
    obtain ⟨as, has, h⟩ := bind_eq_ok_iff.1 h
    obtain rfl := Except.ok.inj h
    refine List.forall_mem_cons.2 ⟨⟨x, List.mem_cons_self, ha⟩, fun b hb => ?_⟩
    obtain ⟨y, hy, hread⟩ := ih has b hb
    exact ⟨y, List.mem_cons_of_mem x hy, hread⟩

/-- **What a list holds was read from its items**, each by `item`. -/
theorem exists_of_list_eq_ok {j : Json} {as : List α} (h : list item j = .ok as) :
    ∃ xs, j = .array xs ∧ ∀ a ∈ as, ∃ x ∈ xs, item x = .ok a := by
  cases j with
  | array xs => exact ⟨xs, rfl, exists_of_mapM_eq_ok h⟩
  | _ => exact absurd h (by simp [list])

theorem texts_texts (items : List String) : texts (Json.texts items) = .ok items :=
  list_map fun _ _ => rfl

theorem natural_nat {wanted : String} {n : Nat} (h : n < UInt64.size) :
    natural wanted (.nat n) = .ok n := by
  have hbounds : 0 ≤ (n : Int) ∧ (n : Int) < (UInt64.size : Int) := by omega
  simp only [Json.nat, natural, hbounds, and_self, if_true, Int.toNat_natCast]

theorem option_written {j : Json} {a : α} (hread : item j = .ok a) (hnull : j ≠ .null) :
    option item j = .ok (some a) := by
  unfold option
  split
  · exact absurd rfl hnull
  · rw [hread]
    rfl

theorem of_option_eq_ok_some {j : Json} {a : α} (h : option item j = .ok (some a)) :
    item j = .ok a := by
  unfold option at h
  split at h
  · exact absurd h (by simp)
  · obtain ⟨_, hread, hsome⟩ := map_eq_ok_iff.1 h
    rw [hread, Option.some.inj hsome]

/-! ### Slots -/

-- The proofs by `(rfl)` keep `simp` from taking these equations for computations. The kernel would
-- compare the two sides of a computation by evaluating the readers in them.

@[simp]
theorem ok_bind {β : Type} (a : α) (f : α → Reading β) :
    ((Except.ok a : Reading α) >>= f) = f a := (rfl)

@[simp]
theorem record_object (type : String) (declared : List String) (ms : List (String × Json)) :
    record type declared (.object ms)
      = .ok ⟨ms, declared, fun name _ => .missingField name, none⟩ :=
  (rfl)

@[simp]
theorem keyedRecord_object (type : String) (declared : List String) (ms : List (String × Json)) :
    keyedRecord type declared (.object ms)
      = .ok ⟨ms, declared, fun name _ => .missingField name, none⟩ := (rfl)

section Slots

variable {name other : String} {j : Json} {ms : List (String × Json)} {declared : List String}
  {absence : String → Nat → Refusal} {surplus : Option Refusal}

@[simp]
theorem slot_nil : Record.slot ⟨[], declared, absence, surplus⟩ name item = ⟨name, none⟩ := (rfl)

@[simp]
theorem slot_cons_self :
    Record.slot ⟨(name, j) :: ms, declared, absence, surplus⟩ name item
      = ⟨name, some (item j)⟩ := by
  rw [Record.slot, Keyed.find?_cons, if_pos rfl]
  rfl

@[simp]
theorem slot_cons_of_ne (h : other ≠ name) :
    Record.slot ⟨(other, j) :: ms, declared, absence, surplus⟩ name item
      = Record.slot ⟨ms, declared, absence, surplus⟩ name item := by
  rw [Record.slot, Keyed.find?_cons, if_neg h]
  rfl

/-- A member `other` that may be left out does not stand in the way of `name`. -/
@[simp]
theorem slot_optional_of_ne {β : Type} {f : β → Json} {b : Option β} (h : other ≠ name) :
    Record.slot ⟨Json.optional other f b ++ ms, declared, absence, surplus⟩ name item
      = Record.slot ⟨ms, declared, absence, surplus⟩ name item := by
  cases b with
  | none => rfl
  | some b => exact slot_cons_of_ne h

/-- A member `name` that may be left out is found where it is written, if no other has its name. -/
@[simp]
theorem slot_optional_self {β : Type} {f : β → Json} {b : Option β}
    (h : Record.slot ⟨ms, declared, absence, surplus⟩ name item = ⟨name, none⟩) :
    Record.slot ⟨Json.optional name f b ++ ms, declared, absence, surplus⟩ name item
      = ⟨name, b.map fun x => item (f x)⟩ := by
  cases b with
  | none => exact h
  | some b => exact slot_cons_self

@[simp]
theorem slot_optional_last {β : Type} {f : β → Json} {b : Option β} :
    Record.slot ⟨Json.optional name f b, declared, absence, surplus⟩ name item
      = ⟨name, b.map fun x => item (f x)⟩ := by
  rw [← List.append_nil (Json.optional name f b)]
  exact slot_optional_self slot_nil

@[simp]
theorem option_text (s : String) : option text (.text s) = .ok (some s) := (rfl)

@[simp]
theorem getD_written {a : Option α} :
    Slot.getD ⟨name, a.map fun x => .ok (some x)⟩ none = .ok a := by
  cases a <;> rfl

@[simp]
theorem fault_written {a : Option α} :
    Slot.fault ⟨name, a.map fun x => .ok (some x)⟩ = (name, none) := by
  cases a <;> rfl

@[simp]
theorem required_found {r : Record} {result : Reading α} :
    r.required ⟨name, some result⟩ = result := (rfl)

@[simp]
theorem getD_found {result : Reading α} {absent : α} :
    Slot.getD ⟨name, some result⟩ absent = result := (rfl)

@[simp]
theorem getD_missing {absent : α} : Slot.getD ⟨name, none⟩ absent = .ok absent := (rfl)

@[simp]
theorem fault_found {a : α} : Slot.fault ⟨name, some (.ok a)⟩ = (name, none) := (rfl)

/-- A member that is `required` is found and read. -/
theorem required_slot_eq_ok_iff {r : Record} {a : α} :
    r.required (r.slot name item) = .ok a
      ↔ ∃ j, Keyed.find? r.members name = some j ∧ item j = .ok a := by
  unfold Record.required Record.slot
  cases Keyed.find? r.members name <;> simp

/-- A member that `absent` stands in for is read, or is what stands for it. -/
theorem getD_slot_eq_ok {r : Record} {absent a : α} (h : (r.slot name item).getD absent = .ok a) :
    a = absent ∨ ∃ j, Keyed.find? r.members name = some j ∧ item j = .ok a := by
  unfold Slot.getD Record.slot at h
  cases hfind : Keyed.find? r.members name with
  | none =>
    rw [hfind] at h
    exact .inl (Except.ok.inj h).symm
  | some j =>
    rw [hfind] at h
    exact .inr ⟨j, rfl, h⟩

@[simp]
theorem settle_without_fault {faults : List (String × Option Refusal)}
    (h : ∀ f ∈ faults, f.2 = none) :
    Record.settle ⟨ms, declared, absence, none⟩ faults = .ok () := Record.settle_eq_ok h rfl

end Slots

end Governance.Decode
