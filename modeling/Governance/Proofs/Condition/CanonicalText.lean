import Governance.Json.Canonical
import Governance.Proofs.Condition.Equality
import Governance.Proofs.Json.Unambiguous

/-!
# The canonical text of a condition

A condition with finite operands is told by its canonical text, up to the sign of a zero. Fields,
operators and operands end where their texts say so, an operand that is missing shows in the brace
that stands in its place, and the kind of an operand shows in its first character. The induction is
on one of the two conditions, with any text behind them: a row of children is told apart item by
item.

* `canonicalChars_append_inj`: conditions whose texts agree up to what follows are equal.
* `canonical_eq_iff`: conditions are equal exactly when their canonical texts are.
-/

namespace Governance

open Number

/-! ### The texts -/

namespace Json

theorem canonicalItems_eq_map (xs : List Json) : canonicalItems xs = xs.map canonicalChars := by
  induction xs with
  | nil => rfl
  | cons x xs ih => rw [canonicalItems, ih, List.map_cons]

theorem insertWritten_of_lt {k l : String} (x y : List Char) (rest : List (List Char × List Char))
    (h : String.ofList (quotedChars k) < String.ofList (quotedChars l)) :
    insertWritten (quotedChars k, x) ((quotedChars l, y) :: rest)
      = (quotedChars k, x) :: (quotedChars l, y) :: rest :=
  if_pos h

/-- The written name of the member `m` comes before that of `n`. -/
def Precedes (m n : String × Json) : Prop :=
  String.ofList (quotedChars m.1) < String.ofList (quotedChars n.1)

/-- Members whose names ascend stay in their order under `canonicalMembers`. -/
theorem canonicalMembers_of_ascending {ms : List (String × Json)} (h : ms.IsChain Precedes) :
    canonicalMembers ms = ms.map fun m => (quotedChars m.1, canonicalChars m.2) := by
  induction ms with
  | nil => rfl
  | cons m ms ih =>
    cases ms with
    | nil => rfl
    | cons n ms =>
      rw [List.isChain_cons_cons] at h
      rw [canonicalMembers, ih h.2, List.map_cons, insertWritten_of_lt _ _ _ h.1, List.map_cons,
        List.map_cons]

end Json

/-- What the canonical text of a leaf with the operand `v` says after its operator. -/
def FieldValue.operandChars (v : FieldValue) : List Char :=
  match v.written with
  | none => ['\x7d']
  | some j => ',' :: Json.quotedChars "value" ++ ':' :: Json.canonicalChars j ++ ['\x7d']

theorem Leaf.canonicalChars_written (l : Leaf) :
    Json.canonicalChars l.written.toJson
      = '\x7b' :: Json.quotedChars "field" ++ ':' :: Json.quotedChars l.field
        ++ ',' :: Json.quotedChars "operator" ++ ':' :: Json.quotedChars l.operator.label
        ++ l.value.operandChars := by
  have hfield (a b : Json) : Json.Precedes ("field", a) ("operator", b) := by
    have hlt : String.ofList (Json.quotedChars "field")
        < String.ofList (Json.quotedChars "operator") := by decide
    exact hlt
  have hoperator (a b : Json) : Json.Precedes ("operator", a) ("value", b) := by
    have hlt : String.ofList (Json.quotedChars "operator")
        < String.ofList (Json.quotedChars "value") := by decide
    exact hlt
  have hmembers : l.written.members = ("field", .text l.field)
      :: ("operator", .text l.operator.label) :: Json.optional "value" id l.value.written := by
    simp [WrittenCondition.members, Leaf.written, WrittenCondition.conditionsMember, Json.optional]
  rw [WrittenCondition.toJson_eq, Json.canonicalChars, hmembers, FieldValue.operandChars]
  cases l.value.written with
  | none =>
    rw [Json.optional, Json.canonicalMembers_of_ascending (.cons_cons (hfield _ _) (.singleton _))]
    simp [Json.separated, Json.canonicalChars]
  | some j =>
    rw [Json.optional, Json.canonicalMembers_of_ascending
      (.cons_cons (hfield _ _) (.cons_cons (hoperator _ _) (.singleton _)))]
    simp [Json.separated, Json.canonicalChars]

theorem Operator.canonicalChars_above (op : Operator) (ws : List WrittenCondition) :
    Json.canonicalChars (WrittenCondition.toJson ⟨none, op.label, none, some ws⟩)
      = '\x7b' :: Json.quotedChars "conditions" ++ ':' :: '['
        :: Json.separated [','] (ws.map fun w => Json.canonicalChars w.toJson) ++ ']'
        :: ',' :: Json.quotedChars "operator" ++ ':' :: Json.quotedChars op.label ++ ['\x7d'] := by
  have hafter : ¬ String.ofList (Json.quotedChars "operator")
      < String.ofList (Json.quotedChars "conditions") := by decide
  simp [WrittenCondition.toJson, WrittenCondition.conditionsMember, Json.optional,
    WrittenCondition.allToJson_eq_map, Json.canonicalChars, Json.canonicalMembers,
    Json.insertWritten, hafter, Json.separated, Json.canonicalItems_eq_map, Function.comp_def]

/-! ### Operands -/

namespace FieldValue

theorem canonicalChars_number {x : Binary64} (h : x.isFinite = true) :
    Json.canonicalChars (number x).toJson = (Style.canonical.write x).toList := by
  rw [toJson, if_pos h, Json.canonicalChars, Json.floatChars, if_pos h]

theorem canonicalChars_texts (items : List String) :
    Json.canonicalChars (texts items).toJson
      = '[' :: Json.separated [','] (items.map Json.quotedChars) ++ [']'] := by
  simp [toJson, Json.texts, Json.canonicalChars, Json.canonicalItems_eq_map, Function.comp_def]

/-- The kind of value that the character `c` opens. -/
def openedKind (c : Char) : String :=
  if c = '"' then "string"
  else if c = '[' then "string array"
  else if c = 't' ∨ c = 'f' then "boolean"
  else "number"

theorem openedKind_of_isNumeral {c : Char} (h : IsNumeral c) : openedKind c = "number" := by
  have hother : ¬ IsNumeral '"' ∧ ¬ IsNumeral '[' ∧ ¬ IsNumeral 't' ∧ ¬ IsNumeral 'f' := by
    decide
  obtain ⟨hquote, hbracket, ht, hf⟩ := hother
  have hne {d : Char} (hd : ¬ IsNumeral d) : c ≠ d := fun e => hd (e ▸ h)
  simp [openedKind, hne hquote, hne hbracket, hne ht, hne hf]

/-- The first character of an operand tells its kind: it opens `v.kind`. -/
theorem exists_opening {v : FieldValue} (hnull : v.isNull = false) (hfinite : v.isFinite = true) :
    ∃ c rest, Json.canonicalChars v.toJson = c :: rest ∧ openedKind c = v.kind := by
  cases v with
  | null => exact absurd hnull (by decide)
  | bool b => cases b <;> exact ⟨_, _, rfl, by decide⟩
  | number x =>
    rw [canonicalChars_number hfinite]
    obtain ⟨c, rest, hcons⟩ := List.exists_cons_of_ne_nil
      (Style.toList_write_ne_nil hfinite : (Style.canonical.write x).toList ≠ [])
    have hc : IsNumeral c := Style.isNumeral_of_mem_write hfinite c (hcons ▸ List.mem_cons_self)
    exact ⟨c, rest, hcons, openedKind_of_isNumeral hc⟩
  | text s => exact ⟨_, _, rfl, rfl⟩
  | texts items => exact ⟨_, _, canonicalChars_texts items, rfl⟩

/-- An operand ends before the brace that closes its leaf, so `v` and what follows it can be told
from the text. -/
theorem canonicalChars_append_inj {v v' : FieldValue} {r r' : List Char}
    (hnull : v.isNull = false) (hnull' : v'.isNull = false) (hfinite : v.isFinite = true)
    (hfinite' : v'.isFinite = true)
    (h : Json.canonicalChars v.toJson ++ '\x7d' :: r
      = Json.canonicalChars v'.toJson ++ '\x7d' :: r') : (v == v') = true ∧ r = r' := by
  have hkind : v.kind = v'.kind := by
    obtain ⟨c, rest, hchars, hopened⟩ := exists_opening hnull hfinite
    obtain ⟨c', rest', hchars', hopened'⟩ := exists_opening hnull' hfinite'
    rw [hchars, hchars'] at h
    obtain rfl : c = c' := (List.cons.inj h).1
    exact hopened.symm.trans hopened'
  -- Operands of two kinds differ in their first characters, so four pairs are left.
  cases v <;> cases v' <;> try (simp [kind] at hkind; done)
  case null.null => exact absurd hnull (by decide)
  case bool.bool a b =>
    cases a <;> cases b <;> simp_all [toJson, Json.canonicalChars, bool_beq]
  case number.number x y =>
    rw [canonicalChars_number hfinite, canonicalChars_number hfinite'] at h
    exact Json.write_append_inj hfinite hfinite' (by decide) h
  case text.text s t =>
    obtain ⟨rfl, hr⟩ := Json.quotedChars_append_inj h
    exact ⟨by simp [text_beq], (List.cons.inj hr).2⟩
  case texts.texts xs ys =>
    rw [canonicalChars_texts, canonicalChars_texts] at h
    simp only [List.cons_append, List.append_assoc, List.nil_append, List.cons.injEq, true_and] at h
    obtain ⟨rfl, hr⟩ := Json.texts_append_inj h
    exact ⟨by simp [texts_beq], (List.cons.inj hr).2⟩

theorem operandChars_of_not_isNull {v : FieldValue} (h : v.isNull = false) :
    v.operandChars = ',' :: Json.quotedChars "value" ++ ':' :: Json.canonicalChars v.toJson
      ++ ['\x7d'] := by
  simp [operandChars, written, h]

/-- By `operandChars` an operand that is missing is told from one that is there. -/
theorem operandChars_append_inj {v v' : FieldValue} {r r' : List Char}
    (hfinite : v.isFinite = true) (hfinite' : v'.isFinite = true)
    (h : v.operandChars ++ r = v'.operandChars ++ r') : (v == v') = true ∧ r = r' := by
  cases hnull : v.isNull <;> cases hnull' : v'.isNull
  · rw [operandChars_of_not_isNull hnull, operandChars_of_not_isNull hnull'] at h
    refine canonicalChars_append_inj hnull hnull' hfinite hfinite' ?_
    simpa using h
  · obtain rfl := eq_null_of_isNull hnull'
    rw [operandChars_of_not_isNull hnull] at h
    exact absurd h (by simp [operandChars, written, isNull])
  · obtain rfl := eq_null_of_isNull hnull
    rw [operandChars_of_not_isNull hnull'] at h
    exact absurd h (by simp [operandChars, written, isNull])
  · obtain rfl := eq_null_of_isNull hnull
    obtain rfl := eq_null_of_isNull hnull'
    exact ⟨rfl, by simpa [operandChars, written, isNull] using h⟩

/-- Operands that are equal by `==` have one text. -/
theorem operandChars_eq_of_beq {v v' : FieldValue} (hfinite : v.isFinite = true)
    (hfinite' : v'.isFinite = true) (h : (v == v') = true) : v.operandChars = v'.operandChars := by
  cases v <;> cases v' <;> try exact (Bool.false_ne_true h).elim
  case null.null => rfl
  case bool.bool a b =>
    rw [bool_beq, beq_iff_eq] at h
    rw [h]
  case number.number x y =>
    rw [number_beq] at h
    have hwrite : Style.canonical.write x = Style.canonical.write y :=
      (Style.write_eq_iff_equal rfl hfinite hfinite').2 h
    rw [operandChars_of_not_isNull rfl, operandChars_of_not_isNull rfl,
      canonicalChars_number hfinite, canonicalChars_number hfinite', hwrite]
  case text.text s t =>
    rw [text_beq, beq_iff_eq] at h
    rw [h]
  case texts.texts xs ys =>
    rw [texts_beq, beq_iff_eq] at h
    rw [h]

end FieldValue

/-! ### Leaves -/

theorem Leaf.canonicalChars_append_inj {l m : Leaf} {r r' : List Char}
    (hl : l.value.isFinite = true) (hm : m.value.isFinite = true)
    (h : Json.canonicalChars l.written.toJson ++ r = Json.canonicalChars m.written.toJson ++ r') :
    (l == m) = true ∧ r = r' := by
  rw [canonicalChars_written, canonicalChars_written] at h
  simp only [List.cons_append, List.append_assoc, List.cons.injEq, true_and,
    List.append_cancel_left_eq] at h
  obtain ⟨hfield, h⟩ := Json.quotedChars_append_inj h
  simp only [List.cons.injEq, true_and, List.append_cancel_left_eq] at h
  obtain ⟨hlabel, h⟩ := Json.quotedChars_append_inj h
  obtain ⟨hvalue, hr⟩ := FieldValue.operandChars_append_inj hl hm h
  exact ⟨Leaf.beq_iff.2 ⟨hfield, Operator.label_injective hlabel, hvalue⟩, hr⟩

theorem Leaf.canonicalChars_eq_of_beq {l m : Leaf} (hl : l.value.isFinite = true)
    (hm : m.value.isFinite = true) (h : (l == m) = true) :
    Json.canonicalChars l.written.toJson = Json.canonicalChars m.written.toJson := by
  obtain ⟨hfield, hoperator, hvalue⟩ := Leaf.beq_iff.1 h
  rw [canonicalChars_written, canonicalChars_written, hfield, hoperator,
    FieldValue.operandChars_eq_of_beq hl hm hvalue]

/-! ### Conditions -/

namespace Condition

/-- If `f` takes related members to one image, related lists have one image. -/
theorem map_eq_map_of_forall₂ {α β : Type} {R : α → α → Prop} {f : α → β} {xs ys : List α}
    (h : List.Forall₂ R xs ys) (hf : ∀ x ∈ xs, ∀ y ∈ ys, R x y → f x = f y) :
    xs.map f = ys.map f := by
  induction h with
  | nil => rfl
  | @cons x y xs ys hxy _ ih =>
    rw [List.map_cons, List.map_cons, hf x List.mem_cons_self y List.mem_cons_self hxy,
      ih fun x hx y hy => hf x (List.mem_cons_of_mem _ hx) y (List.mem_cons_of_mem _ hy)]

namespace Combines

variable {c d : Condition} {op op' : Operator} {cs ds : List Condition} {r r' : List Char}

theorem toJson_eq (h : Combines c op cs) :
    c.toJson = WrittenCondition.toJson ⟨none, op.label, none, some (cs.map written)⟩ := by
  rw [toJson, h.written_eq]

theorem canonicalChars_append_inj (h : Combines c op cs) (h' : Combines d op' ds)
    (hends : ∀ x ∈ cs, ∀ y ∈ ds, ∀ r r', Json.canonicalChars x.toJson ++ r
      = Json.canonicalChars y.toJson ++ r' → (x == y) = true ∧ r = r')
    (htexts : Json.canonicalChars c.toJson ++ r = Json.canonicalChars d.toJson ++ r') :
    (c == d) = true ∧ r = r' := by
  have hopens (x : Condition) : ∃ rest, Json.canonicalChars x.toJson = '\x7b' :: rest := by
    rw [toJson, WrittenCondition.toJson_eq]
    exact ⟨_, rfl⟩
  rw [h.toJson_eq, h'.toJson_eq, Operator.canonicalChars_above, Operator.canonicalChars_above,
    List.map_map, List.map_map] at htexts
  simp only [List.cons_append, List.append_assoc, List.cons.injEq, true_and,
    List.append_cancel_left_eq] at htexts
  obtain ⟨hall, hrest⟩ := Json.separated_append_inj (by decide) (by decide) hopens hends htexts
  simp only [List.cons.injEq, true_and, List.append_cancel_left_eq] at hrest
  obtain ⟨hlabel, hr⟩ := Json.quotedChars_append_inj hrest
  exact ⟨(h.beq_iff h').2 ⟨Operator.label_injective hlabel, hall⟩, (List.cons.inj hr).2⟩

/-- The text of a combination `c` is no text of a leaf `l`. -/
theorem canonicalChars_ne_leaf (h : Combines c op cs) (l : Leaf) :
    Json.canonicalChars c.toJson ++ r ≠ Json.canonicalChars (Condition.leaf l).toJson ++ r' := by
  have hleaf : (Condition.leaf l).toJson = l.written.toJson := rfl
  intro htexts
  rw [h.toJson_eq, hleaf, Operator.canonicalChars_above, Leaf.canonicalChars_written] at htexts
  simp only [List.cons_append, List.append_assoc, List.cons.injEq, true_and] at htexts
  exact absurd (Json.quotedChars_append_inj htexts).1 (by decide)

end Combines

/-- **Conditions whose texts agree up to what follows are equal** by `==`, and what follows is the
same. -/
theorem canonicalChars_append_inj {c d : Condition} {r r' : List Char} (hc : c.FiniteOperands)
    (hd : d.FiniteOperands)
    (h : Json.canonicalChars c.toJson ++ r = Json.canonicalChars d.toJson ++ r') :
    (c == d) = true ∧ r = r' := by
  induction c using combinesInduction generalizing d r r' with
  | leaf l =>
    rcases leaf_or_combines d with ⟨m, rfl⟩ | ⟨op, ds, hds⟩
    · exact Leaf.canonicalChars_append_inj (hc l (List.mem_singleton_self l))
        (hd m (List.mem_singleton_self m)) h
    · exact absurd h.symm (hds.canonicalChars_ne_leaf l)
  | @combines c op cs hcs ih =>
    rcases leaf_or_combines d with ⟨l, rfl⟩ | ⟨op', ds, hds⟩
    · exact absurd h (hcs.canonicalChars_ne_leaf l)
    · rw [hcs.finiteOperands_iff] at hc
      rw [hds.finiteOperands_iff] at hd
      exact hcs.canonicalChars_append_inj hds
        (fun x hx y hy _ _ => ih x hx (hc x hx) (hd y hy)) h

/-- Conditions that are equal by `==` have one text. -/
theorem canonicalChars_eq_of_beq {c d : Condition} (hc : c.FiniteOperands)
    (hd : d.FiniteOperands) (h : (c == d) = true) :
    Json.canonicalChars c.toJson = Json.canonicalChars d.toJson := by
  induction c using combinesInduction generalizing d with
  | leaf l =>
    cases d with
    | leaf m =>
      exact Leaf.canonicalChars_eq_of_beq (hc l (List.mem_singleton_self l))
        (hd m (List.mem_singleton_self m)) h
    | _ => exact (Bool.false_ne_true h).elim
  | @combines c op cs hcs ih =>
    rcases leaf_or_combines d with ⟨l, rfl⟩ | ⟨op', ds, hds⟩
    · exact absurd h (by cases hcs <;> exact Bool.false_ne_true)
    · obtain ⟨rfl, hall⟩ := (hcs.beq_iff hds).1 h
      rw [hcs.finiteOperands_iff] at hc
      rw [hds.finiteOperands_iff] at hd
      have htexts : cs.map ((fun w => Json.canonicalChars w.toJson) ∘ written)
          = ds.map ((fun w => Json.canonicalChars w.toJson) ∘ written) :=
        map_eq_map_of_forall₂ hall fun x hx y hy => ih x hx (hc x hx) (hd y hy)
      rw [hcs.toJson_eq, hds.toJson_eq, Operator.canonicalChars_above,
        Operator.canonicalChars_above, List.map_map, List.map_map, htexts]

/-- **Conditions are equal exactly when their canonical texts are**: `canonical` decides `==` where
operands are finite. -/
theorem canonical_eq_iff {c d : Condition} (hc : c.FiniteOperands) (hd : d.FiniteOperands) :
    c.toJson.canonical = d.toJson.canonical ↔ (c == d) = true := by
  constructor
  · intro h
    have hchars : Json.canonicalChars c.toJson = Json.canonicalChars d.toJson :=
      String.ofList_injective h
    have hends : Json.canonicalChars c.toJson ++ [] = Json.canonicalChars d.toJson ++ [] := by
      rw [hchars]
    exact (canonicalChars_append_inj hc hd hends).1
  · intro h
    rw [Json.canonical, Json.canonical, canonicalChars_eq_of_beq hc hd h]

end Condition

end Governance
