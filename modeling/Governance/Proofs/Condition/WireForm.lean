import Governance.Proofs.Condition.Structure
import Governance.Proofs.Condition.Grammar
import Governance.Pattern.Program

/-!
# The written form of an accepted condition

An accepted condition is written without the blanks round its fields, without its null operands and
with its whole numbers as any others. Nothing is lost on the way: the written form is accepted as
the same condition, and so is what is read back from any document that writes it. `WrittenBy` says
which documents those are. The order of a document's members is left open, and so are members that
no node has.

* `StandsFor.written`: the written form of what stands for a condition stands for it too.
* `ofJson_of_writtenBy`: a document that writes a node is read as that node.
* `written_lossless`: writing an accepted condition loses nothing.
-/

namespace Governance

open Decode

/-! ### Operands and fields -/

theorem FieldValue.eq_null_of_isNull {v : FieldValue} (h : v.isNull = true) : v = .null := by
  cases v with
  | null => rfl
  | _ => exact absurd h Bool.false_ne_true

theorem FieldValue.ofJson_written {v : FieldValue} (h : v.isFinite = true) :
    FieldValue.ofJson (v.written.getD .null) = .ok v := by
  unfold FieldValue.written
  split
  · next hnull =>
    obtain rfl := eq_null_of_isNull hnull
    rfl
  · exact FieldValue.ofJson_toJson h

/-- No `written` operand is `null`, for null is left out and every number is finite. -/
theorem FieldValue.written_ne_null {v : FieldValue} (h : v.isFinite = true) :
    v.written ≠ some .null := by
  cases v with
  | number x =>
    have hx : x.isFinite = true := h
    simp [FieldValue.written, FieldValue.isNull, FieldValue.toJson, hx]
  | _ => simp [FieldValue.written, FieldValue.isNull, FieldValue.toJson, Json.texts]

/-- The images of `zs` under `f` and `g` are paired member by member. -/
theorem forall_zip_map {α β γ : Type} {f : γ → α} {g : γ → β} {zs : List γ} {P : α → β → Prop}
    (h : ∀ z ∈ zs, P (f z) (g z)) : ∀ pair ∈ (zs.map f).zip (zs.map g), P pair.1 pair.2 := by
  intro pair hpair
  rw [List.zip_map'] at hpair
  obtain ⟨z, hz, rfl⟩ := List.mem_map.1 hpair
  exact h z hz

namespace Condition

/-- The operands are finite. -/
def FiniteOperands (c : Condition) : Prop := ∀ l ∈ c.leaves, l.value.isFinite = true

namespace Combines

variable {c : Condition} {op : Operator} {cs : List Condition}

theorem finiteOperands_iff (h : Combines c op cs) :
    c.FiniteOperands ↔ ∀ x ∈ cs, x.FiniteOperands := by
  rw [FiniteOperands, h.leaves_eq]
  constructor
  · exact fun hall x hx l hl => hall l (leaves_subset_of_mem hx hl)
  · intro hall l hl
    obtain ⟨x, hx, hlx⟩ := List.mem_flatMap.1 hl
    exact hall x hx l hlx

theorem written_eq (h : Combines c op cs) :
    c.written = ⟨none, op.label, none, some (cs.map written)⟩ := by
  have hall (cs : List Condition) : writtenAll cs = cs.map written := by
    induction cs with
    | nil => rfl
    | cons c cs ih => rw [writtenAll, ih, List.map_cons]
  cases h with
  | and | or => rw [written, hall]
  | not => rfl

end Combines

end Condition

namespace WrittenCondition

namespace StandsFor

variable [Pattern.Library] {limits : ValidationLimits} {depth : Nat} {w : WrittenCondition}
  {c : Condition}

/-- What something stands for has `FiniteOperands`. -/
theorem finiteOperands (h : StandsFor limits depth w c) : c.FiniteOperands := by
  induction h with
  | leaf _ _ _ hvalue _ =>
    intro l hl
    obtain rfl := List.mem_singleton.1 hl
    exact FieldValue.isFinite_of_ofJson hvalue
  | @and _ _ cs _ _ hlength _ ih =>
    exact (Condition.Combines.and cs).finiteOperands_iff.2 (forall_mem_of_zip_right hlength ih)
  | @or _ _ cs _ _ hlength _ ih =>
    exact (Condition.Combines.or cs).finiteOperands_iff.2 (forall_mem_of_zip_right hlength ih)
  | not _ _ ih => exact ih

/-- A combination `c` stands for itself when each of `cs` does. -/
private theorem written_of_combines {op : Operator} {cs : List Condition}
    (h : Condition.Combines c op cs) (hdepth : depth ≤ limits.maxDepth) (hne : cs ≠ [])
    (hbelow : ∀ x ∈ cs, StandsFor limits (depth + 1) x.written x) :
    StandsFor limits depth c.written c := by
  have hzip := forall_zip_map (P := StandsFor limits (depth + 1)) (g := id) hbelow
  rw [List.map_id] at hzip
  have hwritten : cs.map Condition.written ≠ [] := fun hnil => hne (List.map_eq_nil_iff.1 hnil)
  rw [h.written_eq]
  cases h with
  | and => exact .and hdepth hwritten (List.length_map _) hzip
  | or => exact .or hdepth hwritten (List.length_map _) hzip
  | not c => exact .not hdepth (hbelow c (List.mem_singleton_self c))

/-- **The written form stands for the same.** In `c.written` a field is trimmed already, and an
operand reads back as itself. -/
theorem written (h : StandsFor limits depth w c) : StandsFor limits depth c.written c := by
  have hne {ws : List WrittenCondition} {cs : List Condition} (hws : ws ≠ [])
      (hlength : ws.length = cs.length) : cs ≠ [] := by
    rintro rfl
    exact hws (List.length_eq_zero_iff.1 hlength)
  induction h with
  | @leaf depth field op value v hdepth hop hfield hvalue hsuits =>
    have hblank : Text.isAllBlank (Text.trim field) = false := by rw [Text.isAllBlank_trim, hfield]
    have hread := FieldValue.ofJson_written (FieldValue.isFinite_of_ofJson hvalue)
    have hwritten := StandsFor.leaf hdepth hop hblank hread hsuits
    rw [Text.trim_trim] at hwritten
    exact hwritten
  | and hdepth hws hlength _ ih =>
    exact written_of_combines (.and _) hdepth (hne hws hlength) (forall_mem_of_zip_right hlength ih)
  | or hdepth hws hlength _ ih =>
    exact written_of_combines (.or _) hdepth (hne hws hlength) (forall_mem_of_zip_right hlength ih)
  | not hdepth _ ih => exact .not hdepth ih

end StandsFor

/-! ### Documents that write a node -/

/-- What the members `ms` of an object say of the node `w`, the nodes below left aside. -/
structure PlainMembers (w : WrittenCondition) (ms : List (String × Json)) : Prop where
  field : Keyed.find? ms "field" = w.field.map .text
  operator : Keyed.find? ms "operator" = some (.text w.operator)
  value : Keyed.find? ms "value" = w.value
  /-- A null value would be read as none. -/
  value_ne_null : w.value ≠ some .null

/-- Written `WrittenBy w j`: the document `j` writes the node `w`. -/
inductive WrittenBy : WrittenCondition → Json → Prop
  | alone {w : WrittenCondition} {ms : List (String × Json)} (hplain : PlainMembers w ms)
      (hnone : w.conditions = none) (hmissing : Keyed.find? ms "conditions" = none) :
      WrittenBy w (.object ms)
  | above {w : WrittenCondition} {ms : List (String × Json)} {ws : List WrittenCondition}
      {items : List Json} (hplain : PlainMembers w ms) (hsome : w.conditions = some ws)
      (hfound : Keyed.find? ms "conditions" = some (.array items))
      (hlength : ws.length = items.length)
      (hbelow : ∀ pair ∈ ws.zip items, WrittenBy pair.1 pair.2) : WrittenBy w (.object ms)

/-! ### Reading -/

theorem find?_innerOfMembers (ms : List (String × Json)) (name : String) :
    Keyed.find? (innerOfMembers ms) name = (Keyed.find? ms name).map inner := by
  induction ms with
  | nil => rfl
  | cons m rest ih =>
    obtain ⟨k, j⟩ := m
    rw [innerOfMembers, Keyed.find?_cons, Keyed.find?_cons, ih]
    split <;> rfl

theorem ofItems_eq_ok {ws : List WrittenCondition} {items : List Json}
    (hlength : ws.length = items.length)
    (h : ∀ pair ∈ ws.zip items, ofJson pair.2 = .ok pair.1) : ofItems items = .ok ws := by
  induction items generalizing ws with
  | nil =>
    obtain rfl := List.length_eq_zero_iff.1 hlength
    rfl
  | cons j rest ih =>
    obtain ⟨w, below, rfl⟩ := List.exists_cons_of_length_eq_add_one hlength
    have hw : ofJson j = .ok w := h (w, j) (by simp)
    have hrest : ofItems rest = .ok below :=
      ih (by simpa using hlength) fun pair hpair => h pair (by simp [hpair])
    rw [ofItems, hw, hrest]
    rfl

/-- Members that are as they should be make up the node `w` with the nodes below. -/
theorem assemble_eq_ok {w : WrittenCondition} {ms : List (String × Json)}
    {nodes : List (String × Reading (Option (List WrittenCondition)))} (hplain : PlainMembers w ms)
    (hnodes : (Keyed.find? nodes "conditions").getD (.ok none) = .ok w.conditions) :
    assemble (.object ms) nodes = .ok w := by
  obtain ⟨field, operator, value, conditions⟩ := w
  obtain ⟨hfield, hoperator, hvalue, hnull⟩ := hplain
  let r : Record := ⟨ms, declared, fun name _ => .missingField name, none⟩
  have hfieldRead : (r.slot "field" (option text)).getD none = .ok field := by
    rw [Record.slot, Slot.getD, hfield]
    cases field <;> rfl
  have hoperatorRead : r.required (r.slot "operator" text) = .ok operator := by
    rw [Record.slot, Record.required, hoperator]
    rfl
  have hvalueRead : (r.slot "value" (option .ok)).getD none = .ok value := by
    rw [Record.slot, Slot.getD, hvalue]
    cases value with
    | none => rfl
    | some j =>
      cases j with
      | null => exact absurd rfl hnull
      | _ => rfl
  have hnodesRead : (Slot.mk "conditions" (Keyed.find? nodes "conditions")).getD none
      = .ok conditions := by
    rw [← hnodes, Slot.getD]
    cases Keyed.find? nodes "conditions" <;> rfl
  have hsettle : r.settle
      [(r.slot "field" (option text)).fault, (r.slot "operator" text).fault,
        (r.slot "value" (option .ok)).fault,
        (Slot.mk "conditions" (Keyed.find? nodes "conditions")).fault] = .ok () := by
    refine Record.settle_eq_ok ?_ rfl
    simp [Slot.fault_eq_none_of_getD hfieldRead, Slot.fault_eq_none_of_required hoperatorRead,
      Slot.fault_eq_none_of_getD hvalueRead, Slot.fault_eq_none_of_getD hnodesRead]
  simp only [assemble, record, bind, Except.bind]
  rw [hsettle, hfieldRead, hoperatorRead, hvalueRead, hnodesRead]

/-- **A document that writes a node is read as that node**, by `WrittenCondition.ofJson`. -/
theorem ofJson_of_writtenBy {w : WrittenCondition} {j : Json} (h : WrittenBy w j) :
    ofJson j = .ok w := by
  induction h with
  | alone hplain hnone hmissing =>
    refine assemble_eq_ok hplain ?_
    rw [find?_innerOfMembers, hmissing, hnone]
    rfl
  | @above w ms ws items hplain hsome hfound hlength _ ih =>
    refine assemble_eq_ok hplain ?_
    have hitems : inner (.array items) = .ok (some ws) := by
      rw [inner, ofItems_eq_ok hlength ih]
      rfl
    rw [find?_innerOfMembers, hfound, hsome]
    exact hitems

/-- Members in another order, and one that no node has. -/
example : ofJson (.object [("comment", .text "for all"), ("operator", .text "IS_NULL"),
    ("field", .text "owner")]) = .ok ⟨some "owner", "IS_NULL", none, none⟩ := by rfl

/-! ### Writing -/

/-- The members of the node `w` as they are written. -/
def members (w : WrittenCondition) : List (String × Json) :=
  Json.optional "field" .text w.field ++ ("operator", .text w.operator)
    :: Json.optional "value" id w.value ++ conditionsMember w.conditions

theorem toJson_eq (w : WrittenCondition) : w.toJson = .object w.members := by
  obtain ⟨field, operator, value, conditions⟩ := w
  rfl

theorem allToJson_eq_map (ws : List WrittenCondition) : allToJson ws = ws.map toJson := by
  induction ws with
  | nil => rfl
  | cons w ws ih => rw [allToJson, ih, List.map_cons]

theorem plainMembers_members {w : WrittenCondition} (h : w.value ≠ some .null) :
    PlainMembers w w.members := by
  obtain ⟨field, operator, value, conditions⟩ := w
  refine ⟨?_, ?_, ?_, h⟩ <;> cases field <;> cases value <;> cases conditions <;>
    simp [members, conditionsMember, Json.optional, Keyed.find?_cons, Keyed.find?_nil]

theorem find?_conditions_members (w : WrittenCondition) :
    Keyed.find? w.members "conditions" = w.conditions.map fun ws => .array (ws.map toJson) := by
  obtain ⟨field, operator, value, conditions⟩ := w
  cases field <;> cases value <;> cases conditions <;>
    simp [members, conditionsMember, allToJson_eq_map, Json.optional, Keyed.find?_cons,
      Keyed.find?_nil]

theorem writtenBy_toJson_alone {w : WrittenCondition} (hnone : w.conditions = none)
    (hvalue : w.value ≠ some .null) : WrittenBy w w.toJson := by
  rw [toJson_eq]
  refine .alone (plainMembers_members hvalue) hnone ?_
  rw [find?_conditions_members, hnone]
  rfl

theorem writtenBy_toJson_above {w : WrittenCondition} {ws : List WrittenCondition}
    (hsome : w.conditions = some ws) (hvalue : w.value ≠ some .null)
    (hbelow : ∀ x ∈ ws, WrittenBy x x.toJson) : WrittenBy w w.toJson := by
  have hfound : Keyed.find? w.members "conditions" = some (.array (ws.map toJson)) := by
    rw [find?_conditions_members, hsome]
    rfl
  have hzip := forall_zip_map (P := WrittenBy) (f := id) hbelow
  rw [List.map_id] at hzip
  rw [toJson_eq]
  exact .above (plainMembers_members hvalue) hsome hfound (List.length_map _).symm hzip

end WrittenCondition

namespace Condition

/-- A condition `c` with finite operands is written by its document, in the sense of `WrittenBy`. -/
theorem writtenBy_toJson {c : Condition} (h : c.FiniteOperands) :
    c.written.WrittenBy c.written.toJson := by
  induction c using combinesInduction with
  | leaf l =>
    have hfinite : l.value.isFinite = true := h l (List.mem_singleton_self l)
    exact WrittenCondition.writtenBy_toJson_alone rfl (FieldValue.written_ne_null hfinite)
  | combines hcs ih =>
    rw [hcs.finiteOperands_iff] at h
    rw [hcs.written_eq]
    refine WrittenCondition.writtenBy_toJson_above rfl (by simp) ?_
    exact List.forall_mem_map.2 fun x hx => ih x hx (h x hx)

/-- **Writing loses nothing.** Let `w` be accepted as `c` under `limits`. Then `c.written` is
accepted under the same limits as the same `c`. So is what is read from its document, which is
`c.written`, and what is read from any other document `j` that writes it (`WrittenBy`). -/
theorem written_lossless [Pattern.Library] (limits : ValidationLimits) (w : WrittenCondition)
    (c : Condition) (h : w.check limits = .ok c) :
    c.written.check limits = .ok c
      ∧ (∃ read, WrittenCondition.ofJson c.written.toJson = .ok read ∧ read = c.written
        ∧ read.check limits = .ok c)
      ∧ ∀ j, c.written.WrittenBy j →
        ∃ read, WrittenCondition.ofJson j = .ok read ∧ read.check limits = .ok c := by
  have hstands := WrittenCondition.check_eq_ok_iff_standsFor.1 h
  have hwritten : c.written.check limits = .ok c :=
    WrittenCondition.check_eq_ok_iff_standsFor.2 hstands.written
  have hread : WrittenCondition.ofJson c.written.toJson = .ok c.written :=
    WrittenCondition.ofJson_of_writtenBy (writtenBy_toJson hstands.finiteOperands)
  exact ⟨hwritten, ⟨_, hread, rfl, hwritten⟩,
    fun j hj => ⟨_, WrittenCondition.ofJson_of_writtenBy hj, hwritten⟩⟩

/-- Written rule of a field with blanks round it, a whole number, and a null that is written out. -/
def spelledOutRule : WrittenCondition :=
  ⟨none, "AND", none, some
    [⟨some "  risk\t", "GREATER_THAN_OR_EQUAL", some (.int 3), none⟩,
     ⟨none, "NOT", none, some [⟨some "owner", "IS_NULL", some .null, none⟩]⟩]⟩

theorem written_lossless_spelledOutRule :
    ∃ c, spelledOutRule.check .default = .ok c ∧ c.leaves.map Leaf.field = ["risk", "owner"]
      ∧ c.written.check .default = .ok c
      ∧ (∃ read, WrittenCondition.ofJson c.written.toJson = .ok read ∧ read = c.written
        ∧ read.check .default = .ok c) := by
  have hfinite : (Number.Binary64.ofInt 3).isFinite = true := by decide +kernel
  have hrisk : FieldValue.ofJson (.int 3) = .ok (.number (.ofInt 3)) := by
    rw [FieldValue.ofJson, if_pos hfinite]
  have hsuits : (FieldValue.number (.ofInt 3)).asNumber.isSome = true := by
    rw [FieldValue.asNumber, FieldValue.finite?, if_pos hfinite]
    rfl
  have hleft : WrittenCondition.StandsFor .default 2
      ⟨some "  risk\t", Operator.greaterThanOrEqual.label, some (.int 3), none⟩
      (.leaf ⟨Text.trim "  risk\t", .greaterThanOrEqual, .number (.ofInt 3)⟩) :=
    .leaf (by decide) rfl (by decide) hrisk hsuits
  have hright : WrittenCondition.StandsFor .default 3
      ⟨some "owner", Operator.isNull.label, some .null, none⟩
      (.leaf ⟨Text.trim "owner", .isNull, .null⟩) :=
    .leaf (by decide) rfl (by decide) rfl trivial
  have hcheck : spelledOutRule.check .default
      = .ok (.and [.leaf ⟨Text.trim "  risk\t", .greaterThanOrEqual, .number (.ofInt 3)⟩,
          .not (.leaf ⟨Text.trim "owner", .isNull, .null⟩)]) := by
    rw [WrittenCondition.check_eq_ok_iff_standsFor]
    refine .and (by decide) (by simp) rfl fun pair hpair => ?_
    obtain rfl | rfl : pair = (_, _) ∨ pair = (_, _) := by simpa using hpair
    · exact hleft
    · exact .not (by decide) hright
  obtain ⟨hwritten, hread, -⟩ := written_lossless .default spelledOutRule _ hcheck
  exact ⟨_, hcheck, by decide, hwritten, hread⟩

end Condition

end Governance
