import Governance.FieldValue
import Governance.Json.Reader
import Governance.Proofs.Number.Rounding

/-!
# The two readers of field values

One reader of field values goes by the shape of the document value and says what it does not
support. The other one takes the first variant that can be read. They accept the same document
values and make the same of them, since every number of a document is a finite number once it is
taken as a double. Each gives back what was written.

* `isFinite_ofInt_iff`: which integers are taken to finite numbers.
* `textsFrom_eq_ok_iff`, `allTexts_eq_some_iff`: both scans accept exactly the written lists of
  texts.
* `decode_eq_readInVariant?`, `writtenInVariant?_eq_toJson`: reading and writing variant by variant.
* `readers_agree`: the two readers agree with each other and with the writer.
-/

namespace Governance

open Decode Number

/-! ### Numbers of documents -/

theorem Number.isFinite_ofUnits_iff {negative : Bool} {units : Nat} :
    (Binary64.ofUnits negative units).isFinite = true ↔ Representable units := by
  unfold Binary64.ofUnits
  split
  · next hfits => exact iff_of_true rfl hfits
  · next hfits => exact iff_of_false Bool.false_ne_true hfits

/-- Whole numbers below `wholeBound`, and no others, are taken to finite numbers by `ofInt`. -/
theorem Number.isFinite_ofInt_iff {n : Int} :
    (Binary64.ofInt n).isFinite = true ↔ n.natAbs < wholeBound := by
  rw [Binary64.ofInt, Decimal.toBinary64_eq, Decimal.units_natural, isFinite_ofUnits_iff,
    representable_nearestWhole_iff]

/-- The value is a number that documents hold, or none: whole numbers are held up to 64 bits, and
other numbers are finite. -/
def Json.NumberFits : Json → Prop
  | .int n => isWordSized n = true
  | .float x => x.isFinite = true
  | _ => True

theorem Number.isFinite_ofInt_of_isWordSized {n : Int} (h : Json.isWordSized n = true) :
    (Binary64.ofInt n).isFinite = true := by
  have hbounds : -0x8000000000000000 ≤ n ∧ n < 0x10000000000000000 := of_decide_eq_true h
  have hword : n.natAbs < 2 ^ 64 := by omega
  have hbound : 2 ^ 64 ≤ wholeBound := by decide +kernel
  exact isFinite_ofInt_iff.2 (Nat.lt_of_lt_of_le hword hbound)

namespace FieldValue

/-! ### Lists of texts -/

theorem textsFrom_eq_ok_iff {index : Nat} {xs : List Json} {items : List String} :
    textsFrom index xs = .ok items ↔ xs = items.map .text := by
  constructor
  · intro h
    induction xs generalizing index items with
    | nil =>
      obtain rfl := Except.ok.inj h
      rfl
    | cons x xs ih =>
      cases x with
      | text s =>
        rw [textsFrom] at h
        cases hrest : textsFrom (index + 1) xs with
        | error cause => exact absurd h (by simp [hrest, Except.map])
        | ok rest =>
          rw [hrest] at h
          obtain rfl := Except.ok.inj h
          rw [List.map_cons, ih hrest]
      | _ => exact absurd h (by simp [textsFrom])
  · rintro rfl
    exact textsFrom_map_text index items

theorem allTexts_eq_some_iff {xs : List Json} {items : List String} :
    allTexts xs = some items ↔ xs = items.map .text := by
  constructor
  · intro h
    induction xs generalizing items with
    | nil =>
      obtain rfl := Option.some.inj h
      rfl
    | cons x xs ih =>
      cases x with
      | text s =>
        rw [allTexts, Option.map_eq_some_iff] at h
        obtain ⟨rest, hrest, rfl⟩ := h
        rw [List.map_cons, ih hrest]
      | _ => exact absurd h (by simp [allTexts])
  · rintro rfl
    exact allTexts_map_text items

/-! ### Variant by variant -/

/-- A variant of field values: how documents read and write what it holds, the value that holds
it, and what it holds of a value of the variant. -/
structure Variant where
  Payload : Type
  read : Json → Reading Payload
  write : Payload → Json
  make : Payload → FieldValue
  payload? : FieldValue → Option Payload

namespace Variant

/-- Variant of the value that holds nothing. -/
def nothing : Variant where
  Payload := Unit
  read j := if j.isNull then .ok () else .error (.wrongType j "unit")
  write _ := .null
  make _ := null
  payload?
    | null => some ()
    | _ => none

def truths : Variant where
  Payload := Bool
  read := Decode.bool
  write := .bool
  make := bool
  payload?
    | .bool b => some b
    | _ => none

def numbers : Variant where
  Payload := Binary64
  read := Decode.number
  write x := if x.isFinite then .float x else .null
  make := number
  payload?
    | .number x => some x
    | _ => none

def words : Variant where
  Payload := String
  read := Decode.text
  write := .text
  make := text
  payload?
    | .text s => some s
    | _ => none

def lists : Variant where
  Payload := List String
  read := Decode.texts
  write := .texts
  make := texts
  payload?
    | .texts items => some items
    | _ => none

/-- All variants, in the order in which they are tried. -/
def all : List Variant := [nothing, truths, numbers, words, lists]

/-- The value that `j` is read as in the `variant`. -/
def read? (variant : Variant) (j : Json) : Option FieldValue :=
  (variant.read j).toOption.map variant.make

/-- The document value that `v` is written as, if it is of the `variant`. -/
def write? (variant : Variant) (v : FieldValue) : Option Json :=
  (variant.payload? v).map variant.write

end Variant

/-- What `j` is read as in the first variant that it can be read in. -/
def readInVariant? (j : Json) : Option FieldValue := Variant.all.findSome? (Variant.read? · j)

/-- What `v` is written as in its variant. -/
def writtenInVariant? (v : FieldValue) : Option Json := Variant.all.findSome? (Variant.write? · v)

/-- Reading each item of an array as a text (`allTexts`) is reading a list of texts. -/
theorem toOption_texts (xs : List Json) : (Decode.texts (.array xs)).toOption = allTexts xs := by
  show (xs.mapM Decode.text).toOption = allTexts xs
  induction xs with
  | nil => rfl
  | cons x xs ih =>
    rw [List.mapM_cons]
    cases x with
    | text s =>
      rw [allTexts, ← ih, Decode.text]
      cases xs.mapM Decode.text <;> rfl
    | _ => rfl

/-- An array can be read in the last variant only, `lists`. -/
theorem readInVariant?_array (xs : List Json) :
    readInVariant? (.array xs) = (allTexts xs).map texts := by
  have hlast : readInVariant? (.array xs)
      = [Variant.lists].findSome? (Variant.read? · (.array xs)) := rfl
  rw [hlast, List.findSome?_singleton, ← toOption_texts]
  rfl

/-- **Reading in the first variant that can be read** is what `decode` does. -/
theorem decode_eq_readInVariant? (j : Json) :
    decode j = (readInVariant? j).elim (.error (.noVariant "FieldValue")) .ok := by
  cases j with
  | array xs =>
    rw [readInVariant?_array, decode]
    cases allTexts xs <;> rfl
  | _ => rfl

/-- **Writing in the variant of the value** is what `toJson` does. -/
theorem writtenInVariant?_eq_toJson (v : FieldValue) : writtenInVariant? v = some v.toJson := by
  cases v <;> rfl

/-! ### Agreement -/

variable {j : Json} {v : FieldValue} {xs : List Json}

theorem ofJson_array_eq_ok_iff :
    ofJson (.array xs) = .ok v ↔ ∃ items : List String, xs = items.map .text ∧ texts items = v := by
  simp only [← @textsFrom_eq_ok_iff 0]
  rw [ofJson]
  cases textsFrom 0 xs <;> simp [Except.map]

theorem decode_array_eq_ok_iff :
    decode (.array xs) = .ok v ↔ ∃ items : List String, xs = items.map .text ∧ texts items = v := by
  simp only [← allTexts_eq_some_iff]
  rw [decode]
  cases allTexts xs <;> simp

/-- **The reader that says what it does not support accepts what the other one accepts**, but for
numbers that are infinite or none: `ofJson` is `decode` on finite values. -/
theorem ofJson_eq_ok_iff : ofJson j = .ok v ↔ decode j = .ok v ∧ v.isFinite = true := by
  have hnumber (x : Binary64) (cause : Unsupported) :
      (if x.isFinite then .ok (number x) else .error cause : Except Unsupported FieldValue) = .ok v
        ↔ number x = v ∧ v.isFinite = true := by
    split
    · next hx =>
      rw [Except.ok.injEq]
      exact ⟨fun h => ⟨h, h ▸ hx⟩, fun h => h.1⟩
    · next hx => exact iff_of_false (by simp) fun h => hx (by rw [← h.2, ← h.1]; rfl)
  cases j with
  | int n => rw [ofJson, hnumber, decode, Except.ok.injEq]
  | float x => rw [ofJson, hnumber, decode, Except.ok.injEq]
  | array xs =>
    rw [ofJson_array_eq_ok_iff, decode_array_eq_ok_iff, iff_self_and]
    rintro ⟨items, -, rfl⟩
    rfl
  | object ms => simp [ofJson, decode]
  | _ =>
    refine ⟨fun h => ⟨?_, isFinite_of_ofJson h⟩, fun h => ?_⟩
    · obtain rfl := Except.ok.inj h
      rfl
    · obtain rfl := Except.ok.inj h.1
      rfl

/-- What `decode` makes of a number that documents hold is finite. -/
theorem isFinite_of_decode (hj : j.NumberFits) (h : decode j = .ok v) : v.isFinite = true := by
  cases j with
  | int n =>
    obtain rfl := Except.ok.inj h
    exact Number.isFinite_ofInt_of_isWordSized hj
  | float x =>
    obtain rfl := Except.ok.inj h
    exact hj
  | array xs =>
    obtain ⟨items, -, rfl⟩ := decode_array_eq_ok_iff.1 h
    rfl
  | object ms => exact absurd h (by simp [decode])
  | _ =>
    obtain rfl := Except.ok.inj h
    rfl

theorem numberFits_toJson (v : FieldValue) : v.toJson.NumberFits := by
  cases v with
  | number x =>
    rw [toJson]
    split
    · next hx => exact hx
    · trivial
  | _ => trivial

/-- No list of texts is written as an array with another `item`. -/
theorem ne_map_text {before after : List Json} {item : Json} (h : ∀ s, item ≠ .text s)
    (items : List String) : before ++ item :: after ≠ items.map .text := by
  intro hitems
  have hmem : item ∈ items.map Json.text := hitems ▸ by simp
  obtain ⟨s, -, hs⟩ := List.mem_map.1 hmem
  exact h s hs.symm

/-- **The two readers agree and undo the writer.** Of a document value `j` whose number, if it is
one, a document can hold (`NumberFits`), `ofJson` and `decode` both make the same value or neither
makes any. Reading in the first variant that can be read is what `decode` does. A value `v` whose
number is finite is written alike by both writers, as a document value that both readers take back
to it. Both refuse objects and arrays with an `item` that is no text, wherever it stands. -/
theorem readers_agree :
    (∀ j : Json, decode j = (readInVariant? j).elim (.error (.noVariant "FieldValue")) .ok)
      ∧ (∀ j : Json, j.NumberFits → ∀ v, ofJson j = .ok v ↔ decode j = .ok v)
      ∧ (∀ v : FieldValue, v.isFinite = true →
        ∃ j, writtenInVariant? v = some j ∧ v.toJson = j ∧ j.NumberFits ∧ ofJson j = .ok v
          ∧ decode j = .ok v)
      ∧ (∀ ms v, ofJson (.object ms) ≠ .ok v ∧ decode (.object ms) ≠ .ok v)
      ∧ ∀ before item after, (∀ s, item ≠ .text s) → ∀ v,
        ofJson (.array (before ++ item :: after)) ≠ .ok v
          ∧ decode (.array (before ++ item :: after)) ≠ .ok v := by
  refine ⟨decode_eq_readInVariant?, fun j hj v => ?_, fun v hv => ?_, fun ms v => ?_,
    fun before item after hitem v => ?_⟩
  · rw [ofJson_eq_ok_iff, and_iff_left_iff_imp]
    exact isFinite_of_decode hj
  · exact ⟨v.toJson, writtenInVariant?_eq_toJson v, rfl, numberFits_toJson v, ofJson_toJson hv,
      decode_toJson hv⟩
  · simp [ofJson, decode]
  · rw [Ne, Ne, ofJson_array_eq_ok_iff, decode_array_eq_ok_iff, and_self]
    rintro ⟨items, hitems, -⟩
    exact ne_map_text hitem items hitems

/-- The greatest whole number that documents hold, which is rounded; the zero with a sign; and an
array with a number between its texts. -/
theorem readers_agree_extremes :
    let greatest : Json := .int 0xffffffffffffffff
    let negativeZero : Binary64 := .finite true 0 Binary64.representable_zero
    let mixed : List Json := [.text "EU"] ++ .int 3 :: [.text "UK"]
    greatest.NumberFits
      ∧ (ofJson greatest = .ok (number (.ofInt 0xffffffffffffffff)) ↔
        decode greatest = .ok (number (.ofInt 0xffffffffffffffff)))
      ∧ decode greatest = .ok (number (.ofInt 0xffffffffffffffff))
      ∧ (number negativeZero).isFinite = true
      ∧ (∃ j, writtenInVariant? (number negativeZero) = some j ∧ (number negativeZero).toJson = j
        ∧ j.NumberFits ∧ ofJson j = .ok (number negativeZero)
        ∧ decode j = .ok (number negativeZero))
      ∧ (∀ s, Json.int 3 ≠ .text s)
      ∧ ∀ v, ofJson (.array mixed) ≠ .ok v ∧ decode (.array mixed) ≠ .ok v := by
  intro greatest negativeZero mixed
  obtain ⟨-, hagree, hundo, -, hmixed⟩ := readers_agree
  have hfits : greatest.NumberFits := by
    show Json.isWordSized 0xffffffffffffffff = true
    decide
  have hitem (s : String) : Json.int 3 ≠ .text s := nofun
  exact ⟨hfits, hagree greatest hfits _, rfl, rfl, hundo (number negativeZero) rfl, hitem,
    hmixed [.text "EU"] (.int 3) [.text "UK"] hitem⟩

end FieldValue

end Governance
