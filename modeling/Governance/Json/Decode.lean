import Governance.Json.Refusal

/-!
# Reading typed values from documents

Readers for the plain types, and records: a record is written as an object, or as an array in the
order in which its members are declared. Every member is read once, into a slot. The first fault in
the order of the document wins; then comes a surplus of items; then the first member that is
missing, in the order of declaration.
-/

namespace Governance.Decode

open Number

/-- The outcome of reading a value: an `α` or a `Refusal`. -/
abbrev Reading (α : Type) := Except Refusal α

def text : Json → Reading String
  | .text s => .ok s
  | j => .error (.wrongType j "a string")

def bool : Json → Reading Bool
  | .bool b => .ok b
  | j => .error (.wrongType j "a boolean")

/-- A number, `int` or `float`, as a double. -/
def number : Json → Reading Binary64
  | .int n => .ok (.ofInt n)
  | .float x => .ok x
  | j => .error (.wrongType j "f64")

/-- A natural number of at most 64 bits; `wanted` is what messages call it. -/
def natural (wanted : String) : Json → Reading Nat
  | .int n =>
    if 0 ≤ n ∧ n < (UInt64.size : Int) then .ok n.toNat else .error (.wrongValue (.int n) wanted)
  | j => .error (.wrongType j wanted)

/-- A value that may be absent: `null`, or what `item` reads. -/
def option {α : Type} (item : Json → Reading α) : Json → Reading (Option α)
  | .null => .ok none
  | j => (item j).map some

def list {α : Type} (item : Json → Reading α) : Json → Reading (List α)
  | .array xs => xs.mapM item
  | j => .error (.wrongType j "a sequence")

def texts : Json → Reading (List String) := list text

/-- The members of a free-form `object`. -/
def members : Json → Reading (List (String × Json))
  | .object ms => .ok ms
  | j => .error (.wrongType j "a map")

/-- The value that `table` has for a `name`. -/
def named {α : Type} (table : List (String × α)) (name : String) : Reading α :=
  match table.find? fun entry => entry.1 == name with
  | some entry => .ok entry.2
  | none => .error (.unknownVariant name (table.map Prod.fst))

/-- One of the closed set of names in `table`: the name itself, or an object that maps it to
`null`. -/
def variant {α : Type} (table : List (String × α)) : Json → Reading α
  | .text name => named table name
  | .object [(name, payload)] => do
    let a ← named table name
    if payload.isNull then .ok a else .error (.wrongType payload "unit")
  | .object ms => .error (.wrongValue (.object ms) "map with a single key")
  | j => .error (.wrongType j "string or map")

/-! ### Records -/

/-- A record as written: its `members` by name, and what their absences mean. -/
structure Record where
  members : List (String × Json)
  /-- The `declared` names. -/
  declared : List String
  /-- The refusal for a declared member that is absent, by its place. -/
  absence : String → Nat → Refusal
  /-- Items beyond the declared members. -/
  surplus : Option Refusal

/-- What a record of the type `label` with `count` members is called. -/
def countedLabel (label : String) (count : Nat) : String :=
  label ++ " with " ++ intText count ++ (if count = 1 then " element" else " elements")

/-- The record that a value writes: an `object`, or an `array` of the `declared` members in
order. -/
def record (type : String) (declared : List String) : Json → Reading Record
  | .object ms => .ok ⟨ms, declared, fun name _ => .missingField name, none⟩
  | .array xs =>
    .ok
      { members := declared.zip xs
        declared := declared
        absence := fun _ place =>
          .wrongLength place (countedLabel ("struct " ++ type) declared.length)
        surplus :=
          if declared.length < xs.length then
            some (.wrongLength xs.length "fewer elements in array")
          else none }
  | j => .error (.wrongType j ("struct " ++ type))

/-- A record that only an `object` can write. -/
def keyedRecord (type : String) (declared : List String) : Json → Reading Record
  | .object ms => .ok ⟨ms, declared, fun name _ => .missingField name, none⟩
  | j => .error (.wrongType j ("struct " ++ type))

/-- A member of a record: its `name`, and the `result` of reading it, if it is there. -/
structure Slot (α : Type) where
  name : String
  result : Option (Reading α)

/-- The fault of the `slot`, if it has one, with its name. -/
def Slot.fault {α : Type} (slot : Slot α) : String × Option Refusal :=
  (slot.name,
    match slot.result with
    | some (.error e) => some e
    | _ => none)

namespace Record

/-- Reads the member of the record `r` that is called `name` with `item`. -/
def slot {α : Type} (r : Record) (name : String) (item : Json → Reading α) : Slot α :=
  ⟨name, (Keyed.find? r.members name).map item⟩

/-- The first of the `faults`, in the order in which the record writes its members. -/
def firstFault (faults : List (String × Option Refusal)) : List (String × Json) → Option Refusal
  | [] => none
  | (name, _) :: rest =>
    match (faults.find? fun f => f.1 == name).bind Prod.snd with
    | some e => some e
    | none => firstFault faults rest

/-- Succeeds when none of the `faults` is one and nothing is left over. -/
def settle (r : Record) (faults : List (String × Option Refusal)) : Reading Unit :=
  match firstFault faults r.members with
  | some e => .error e
  | none =>
    match r.surplus with
    | some e => .error e
    | none => .ok ()

/-- Members of `r` that are not `declared`, as faults, for a record that allows no others. -/
def strangers (r : Record) : List (String × Option Refusal) :=
  r.members.filterMap fun m =>
    if r.declared.contains m.1 then none else some (m.1, some (.unknownField m.1 r.declared))

/-- A member that has to be there: its absence is refused as `r.absence` says. -/
def required {α : Type} (r : Record) (slot : Slot α) : Reading α :=
  match slot.result with
  | some result => result
  | none => .error (r.absence slot.name (r.declared.idxOf slot.name))

end Record

/-- A member that `absent` stands in for. -/
def Slot.getD {α : Type} (slot : Slot α) (absent : α) : Reading α :=
  match slot.result with
  | some result => result
  | none => .ok absent

/-! ### Records without faults -/

/-- `firstFault` finds none when no slot is at fault. -/
theorem Record.firstFault_eq_none {faults : List (String × Option Refusal)}
    (h : ∀ f ∈ faults, f.2 = none) (ms : List (String × Json)) :
    Record.firstFault faults ms = none := by
  induction ms with
  | nil => rfl
  | cons m rest ih =>
    obtain ⟨name, j⟩ := m
    have hnone : (faults.find? fun f => f.1 == name).bind Prod.snd = none := by
      cases hfind : faults.find? fun f => f.1 == name with
      | none => rfl
      | some f => exact h f (List.mem_of_find?_eq_some hfind)
    rw [Record.firstFault, hnone]
    exact ih

theorem Record.settle_eq_ok {r : Record} {faults : List (String × Option Refusal)}
    (h : ∀ f ∈ faults, f.2 = none) (hsurplus : r.surplus = none) : r.settle faults = .ok () := by
  rw [Record.settle, Record.firstFault_eq_none h, hsurplus]

theorem Slot.fault_eq_none_of_getD {α : Type} {slot : Slot α} {absent a : α}
    (h : slot.getD absent = .ok a) : slot.fault.2 = none := by
  obtain ⟨name, result⟩ := slot
  cases result with
  | none => rfl
  | some result =>
    obtain rfl : result = .ok a := h
    rfl

theorem Slot.fault_eq_none_of_required {α : Type} {r : Record} {slot : Slot α} {a : α}
    (h : r.required slot = .ok a) : slot.fault.2 = none := by
  obtain ⟨name, result⟩ := slot
  cases result with
  | none => rfl
  | some result =>
    obtain rfl : result = .ok a := h
    rfl

end Governance.Decode
