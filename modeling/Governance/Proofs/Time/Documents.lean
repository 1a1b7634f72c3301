import Governance.Proofs.Time.Fractions
import Governance.Proofs.Violation.Stored
import Governance.Pattern.Program

/-!
# The times of documents

Policies and violations get their times from their documents, each by the lenient reader from a text
that stands there; only a policy without times is given the present. So a document brings in the
fraction that it writes, and two times of one second are the same only if their fractions are.

* `Policy.writtenIn_of_ofJson`, `Violation.writtenIn_of_ofJson`: where the times of a document come
  from.
* `cut_or_kept`: what the two readers make of one text, and what that means for documents.
-/

namespace Governance

open Decode

/-! ### What stands in a document -/

/-- In the first document value the second stands somewhere. -/
inductive Json.Holds : Json → Json → Prop
  | self (j : Json) : Holds j j
  | item {items : List Json} {x i : Json} (hx : x ∈ items) (h : Holds x i) : Holds (.array items) i
  | member {members : List (String × Json)} {name : String} {x i : Json}
      (hx : (name, x) ∈ members) (h : Holds x i) : Holds (.object members) i

namespace Json.Holds

variable {j x i : Json}

theorem trans (h : j.Holds x) (hx : x.Holds i) : j.Holds i := by
  induction h with
  | self => exact hx
  | item hmem _ ih => exact .item hmem (ih hx)
  | member hmem _ ih => exact .member hmem (ih hx)

/-- The members of the record `r` stand in its document, whichever way it is written. -/
theorem of_record {type name : String} {declared : List String} {r : Record}
    (hr : record type declared j = .ok r) (h : Keyed.find? r.members name = some i) :
    j.Holds i := by
  cases j with
  | object ms =>
    obtain rfl := Except.ok.inj hr
    exact .member (Keyed.mem_of_find?_eq_some h) (.self i)
  | array xs =>
    obtain rfl := Except.ok.inj hr
    exact .item (List.of_mem_zip (Keyed.mem_of_find?_eq_some h)).2 (.self i)
  | _ => exact absurd hr (by simp [record])

end Json.Holds

/-! ### Where times come from -/

namespace Timestamp

/-- The time `t` is read from a text of the document `j`. -/
def WrittenIn (j : Json) (t : Timestamp) : Prop := ∃ s, j.Holds (.text s) ∧ ofJson (.text s) = .ok t

theorem writtenIn_of_ofJson {j : Json} {t : Timestamp} (h : ofJson j = .ok t) : WrittenIn j t := by
  cases j with
  | text s => exact ⟨s, .self _, h⟩
  | _ => exact absurd h (by simp [ofJson])

theorem WrittenIn.of_holds {j i : Json} {t : Timestamp} (h : WrittenIn i t) (hi : j.Holds i) :
    WrittenIn j t := by
  obtain ⟨s, hs, hread⟩ := h
  exact ⟨s, hi.trans hs, hread⟩

theorem WrittenIn.tellable {j : Json} {t : Timestamp} (h : WrittenIn j t) : t.Tellable := by
  obtain ⟨s, -, hread⟩ := h
  exact tellable_of_ofJson hread

end Timestamp

open Timestamp (WrittenIn)

section Members

variable {type name : String} {declared : List String} {r : Record} {j : Json} {t : Timestamp}
  (hr : record type declared j = .ok r)
include hr

theorem writtenIn_of_required (h : r.required (r.slot name Timestamp.ofJson) = .ok t) :
    WrittenIn j t := by
  obtain ⟨i, hfind, hread⟩ := required_slot_eq_ok_iff.1 h
  exact (Timestamp.writtenIn_of_ofJson hread).of_holds (.of_record hr hfind)

theorem writtenIn_of_getD {now : Timestamp}
    (h : (r.slot name Timestamp.ofJson).getD now = .ok t) : t = now ∨ WrittenIn j t := by
  refine (getD_slot_eq_ok h).imp_right ?_
  rintro ⟨i, hfind, hread⟩
  exact (Timestamp.writtenIn_of_ofJson hread).of_holds (.of_record hr hfind)

theorem writtenIn_of_getD_none {t? : Option Timestamp}
    (h : (r.slot name (option Timestamp.ofJson)).getD none = .ok t?) :
    ∀ t ∈ t?, WrittenIn j t := by
  rintro t rfl
  obtain ⟨i, hfind, hread⟩ := (getD_slot_eq_ok h).resolve_left nofun
  exact (Timestamp.writtenIn_of_ofJson (of_option_eq_ok_some hread)).of_holds (.of_record hr hfind)

/-- The times of `entries` that are read from a list are written where the list is. -/
theorem writtenIn_of_entries {α : Type} {item : Json → Reading α} {time : α → Timestamp}
    {entries : List α} (hitem : ∀ i a, item i = .ok a → WrittenIn i (time a))
    (h : (r.slot name (list item)).getD [] = .ok entries) :
    ∀ a ∈ entries, WrittenIn j (time a) := by
  intro a ha
  rcases getD_slot_eq_ok h with rfl | ⟨i, hfind, hread⟩
  · exact absurd ha List.not_mem_nil
  · obtain ⟨xs, rfl, hitems⟩ := exists_of_list_eq_ok hread
    obtain ⟨x, hx, hread⟩ := hitems a ha
    exact (hitem x a hread).of_holds ((Json.Holds.of_record hr hfind).trans (.item hx (.self x)))

end Members

theorem Revision.writtenIn_of_ofJson [Pattern.Library] (j : Json) (e : Revision)
    (h : ofJson j = .ok e) : WrittenIn j e.revisedAt := by
  obtain ⟨r, hr, h⟩ := bind_eq_ok_iff.1 h
  obtain ⟨-, -, h⟩ := bind_eq_ok_iff.1 h
  obtain ⟨version, -, h⟩ := bind_eq_ok_iff.1 h
  obtain ⟨conditions, -, h⟩ := bind_eq_ok_iff.1 h
  obtain ⟨severity, -, h⟩ := bind_eq_ok_iff.1 h
  obtain ⟨conditionsDigest, -, h⟩ := bind_eq_ok_iff.1 h
  obtain ⟨revisedAt, hrevisedAt, h⟩ := bind_eq_ok_iff.1 h
  obtain rfl := Except.ok.inj h
  exact writtenIn_of_required hr hrevisedAt

theorem PolicyTransition.writtenIn_of_ofJson (j : Json) (e : PolicyTransition)
    (h : ofJson j = .ok e) : WrittenIn j e.timestamp := by
  obtain ⟨r, hr, h⟩ := bind_eq_ok_iff.1 h
  obtain ⟨-, -, h⟩ := bind_eq_ok_iff.1 h
  obtain ⟨source, -, h⟩ := bind_eq_ok_iff.1 h
  obtain ⟨target, -, h⟩ := bind_eq_ok_iff.1 h
  obtain ⟨timestamp, htimestamp, h⟩ := bind_eq_ok_iff.1 h
  obtain rfl := Except.ok.inj h
  exact writtenIn_of_required hr htimestamp

theorem ViolationTransition.writtenIn_of_ofJson (j : Json) (e : ViolationTransition)
    (h : ofJson j = .ok e) : WrittenIn j e.timestamp := by
  obtain ⟨r, hr, h⟩ := bind_eq_ok_iff.1 h
  obtain ⟨-, -, h⟩ := bind_eq_ok_iff.1 h
  obtain ⟨source, -, h⟩ := bind_eq_ok_iff.1 h
  obtain ⟨target, -, h⟩ := bind_eq_ok_iff.1 h
  obtain ⟨timestamp, htimestamp, h⟩ := bind_eq_ok_iff.1 h
  obtain ⟨actor, -, h⟩ := bind_eq_ok_iff.1 h
  obtain rfl := Except.ok.inj h
  exact writtenIn_of_required hr htimestamp

namespace Policy

/-- All times of the policy `p`. -/
def timestamps (p : Policy) : List Timestamp :=
  p.createdAt :: p.updatedAt
    :: (p.history.map Revision.revisedAt ++ p.transitions.map PolicyTransition.timestamp)

/-- **The times of a policy are written in its document**, except those that it was not given, for
which `now` stands. -/
theorem writtenIn_of_ofJson [Pattern.Library] {fresh : PolicyId} {now : Timestamp} {j : Json}
    {p : Policy} (h : ofJson fresh now j = .ok p) :
    ∀ t ∈ p.timestamps, t = now ∨ WrittenIn j t := by
  obtain ⟨r, hr, h⟩ := bind_eq_ok_iff.1 h
  obtain ⟨-, -, h⟩ := bind_eq_ok_iff.1 h
  obtain ⟨id, -, h⟩ := bind_eq_ok_iff.1 h
  obtain ⟨tenant, -, h⟩ := bind_eq_ok_iff.1 h
  obtain ⟨version, -, h⟩ := bind_eq_ok_iff.1 h
  obtain ⟨content, -, h⟩ := bind_eq_ok_iff.1 h
  obtain ⟨status, -, h⟩ := bind_eq_ok_iff.1 h
  obtain ⟨createdAt, hcreatedAt, h⟩ := bind_eq_ok_iff.1 h
  obtain ⟨updatedAt, hupdatedAt, h⟩ := bind_eq_ok_iff.1 h
  obtain ⟨history, hhistory, h⟩ := bind_eq_ok_iff.1 h
  obtain ⟨transitions, htransitions, h⟩ := bind_eq_ok_iff.1 h
  obtain rfl := Except.ok.inj h
  have hrevised := writtenIn_of_entries hr Revision.writtenIn_of_ofJson hhistory
  have hmoved := writtenIn_of_entries hr PolicyTransition.writtenIn_of_ofJson htransitions
  refine List.forall_mem_cons.2 ⟨writtenIn_of_getD hr hcreatedAt, List.forall_mem_cons.2
    ⟨writtenIn_of_getD hr hupdatedAt, List.forall_mem_append.2 ⟨?_, ?_⟩⟩⟩
  · exact List.forall_mem_map.2 fun e he => .inr (hrevised e he)
  · exact List.forall_mem_map.2 fun e he => .inr (hmoved e he)

end Policy

namespace Violation

/-- All times of the violation `v`. -/
def timestamps (v : Violation) : List Timestamp :=
  v.detectedAt :: (v.resolvedAt.toList ++ v.transitions.map ViolationTransition.timestamp)

/-- **The times of a violation are written in its document** `j`. -/
theorem writtenIn_of_ofJson {j : Json} {v : Violation} (h : ofJson j = .ok v) :
    ∀ t ∈ v.timestamps, WrittenIn j t := by
  obtain ⟨r, hr, h⟩ := bind_eq_ok_iff.1 h
  obtain ⟨-, -, h⟩ := bind_eq_ok_iff.1 h
  obtain ⟨id, -, h⟩ := bind_eq_ok_iff.1 h
  obtain ⟨policyId, -, h⟩ := bind_eq_ok_iff.1 h
  obtain ⟨policyVersion, -, h⟩ := bind_eq_ok_iff.1 h
  obtain ⟨targetType, -, h⟩ := bind_eq_ok_iff.1 h
  obtain ⟨assessmentId, -, h⟩ := bind_eq_ok_iff.1 h
  obtain ⟨tenant, -, h⟩ := bind_eq_ok_iff.1 h
  obtain ⟨severity, -, h⟩ := bind_eq_ok_iff.1 h
  obtain ⟨violationType, -, h⟩ := bind_eq_ok_iff.1 h
  obtain ⟨data, -, h⟩ := bind_eq_ok_iff.1 h
  obtain ⟨status, -, h⟩ := bind_eq_ok_iff.1 h
  obtain ⟨detectedAt, hdetectedAt, h⟩ := bind_eq_ok_iff.1 h
  obtain ⟨resolvedAt, hresolvedAt, h⟩ := bind_eq_ok_iff.1 h
  obtain ⟨resolution, -, h⟩ := bind_eq_ok_iff.1 h
  obtain ⟨resolvedBy, -, h⟩ := bind_eq_ok_iff.1 h
  obtain ⟨transitions, htransitions, h⟩ := bind_eq_ok_iff.1 h
  obtain rfl := Except.ok.inj h
  have hmoved := writtenIn_of_entries hr ViolationTransition.writtenIn_of_ofJson htransitions
  have hresolved := writtenIn_of_getD_none hr hresolvedAt
  refine List.forall_mem_cons.2 ⟨writtenIn_of_required hr hdetectedAt,
    List.forall_mem_append.2 ⟨?_, List.forall_mem_map.2 hmoved⟩⟩
  exact fun t ht => hresolved t (Option.mem_toList.1 ht)

end Violation

/-! ### Cut or kept -/

/-- A violation found at the time `now`. -/
def Violation.foundAt (now : Timestamp) : Violation :=
  opened ⟨Uuid.ofNat 2⟩ now
    { policyId := ⟨Uuid.ofNat 1⟩
      policyVersion := 1
      tenant := ⟨⟨"eu", rfl⟩⟩
      assessmentId := ⟨⟨"system", rfl⟩⟩
      severity := .high
      data := ⟨"riskScore", .isNull, .null, .null, false, none⟩ }

theorem Violation.ofJson_foundAt {now : Timestamp} (h : now.Tellable) :
    ofJson (foundAt now).toJson = .ok (foundAt now) :=
  Storable.ofJson_toJson ⟨rfl, rfl, h, nofun, nofun⟩

namespace Timestamp

/-- **The strict reader cuts what documents keep.** What `read` takes is in whole seconds, and
`ofJson` takes it to the same second; the two are equal just when the text `s` writes neither a leap
second nor a fraction (`WritesWhole`). The times of policies and violations are what `ofJson` makes
of texts in their documents (`WrittenIn`), or `now` for a policy that was not given any. Of one
second, two such times `t` and `u` are equal, and written equally, just when their fractions are
equal; they are shown equally unless only one of them is a leap second. -/
theorem cut_or_kept [Pattern.Library] (s : String) (fresh : PolicyId) (now : Timestamp)
    (j k : Json) :
    (∀ t, read s = .ok t → t.nanos = 0
      ∧ ∃ u, ofJson (.text s) = .ok u ∧ u.truncate = t ∧ (u = t ↔ WritesWhole s.toList))
    ∧ (∀ p, Policy.ofJson fresh now j = .ok p → ∀ t ∈ p.timestamps, t = now ∨ WrittenIn j t)
    ∧ (∀ v, Violation.ofJson j = .ok v → ∀ t ∈ v.timestamps, WrittenIn j t)
    ∧ ∀ t u, WrittenIn j t → WrittenIn k u → t.truncate = u.truncate →
      (t.order u = .eq ↔ t.nanos = u.nanos) ∧ (t.toJson = u.toJson ↔ t.nanos = u.nanos)
        ∧ (t.text = u.text ↔ t.nanos / perSecond = u.nanos / perSecond) := by
  refine ⟨fun t h => ⟨nanos_of_read h, ofJson_of_read h⟩, fun _ => Policy.writtenIn_of_ofJson,
    fun _ => Violation.writtenIn_of_ofJson, fun t u ht hu hsame => ?_⟩
  have hseconds : t.seconds = u.seconds := (Timestamp.mk.inj hsame).1
  have hequal : t = u ↔ t.nanos = u.nanos := by
    refine ⟨congrArg nanos, fun hnanos => ?_⟩
    rw [show t = ⟨t.seconds, t.nanos⟩ from rfl, hseconds, hnanos]
  rw [order_eq_eq_iff, toJson_inj ht.tellable hu.tellable, hequal]
  exact ⟨Iff.rfl, Iff.rfl, text_eq_iff_of_seconds_eq hseconds⟩

/-- Two violations of one second, the later of which was found in the middle of it: both are read
from their documents, are told apart there, and are shown at the same time. -/
theorem cut_or_kept_foundTwice :
    let whole : Timestamp := ⟨1768478400, 0⟩
    let half : Timestamp := ⟨1768478400, 500000000⟩
    ofJson (.text "2026-01-15T12:00:00.000Z") = .ok whole
      ∧ Violation.ofJson (Violation.foundAt whole).toJson = .ok (Violation.foundAt whole)
      ∧ Violation.ofJson (Violation.foundAt half).toJson = .ok (Violation.foundAt half)
      ∧ whole.order half ≠ .eq ∧ whole.text = half.text := by
  intro whole half
  have hrange : inRange whole = true := by decide
  have htold : whole.Tellable ∧ half.Tellable :=
    ⟨⟨hrange, .inl (by decide)⟩, ⟨hrange, .inl (by decide)⟩⟩
  have hwhole := Violation.ofJson_foundAt htold.1
  have hhalf := Violation.ofJson_foundAt htold.2
  obtain ⟨hreaders, -, hviolation, happart⟩ := cut_or_kept "2026-01-15T12:00:00.000Z"
    ⟨Uuid.ofNat 3⟩ whole (Violation.foundAt whole).toJson (Violation.foundAt half).toJson
  have hwritten := hviolation _ hwhole whole List.mem_cons_self
  have hwritten' := Violation.writtenIn_of_ofJson hhalf half List.mem_cons_self
  obtain ⟨horder, -, htext⟩ := happart whole half hwritten hwritten' rfl
  have hchars : readStrictChars "2026-01-15T12:00:00.000Z".toList = .ok whole := by decide
  obtain ⟨-, u, hu, -, hsame⟩ := hreaders _ (read_of_readStrictChars hchars)
  have hzeros : WritesWhole "2026-01-15T12:00:00.000Z".toList := by
    refine ⟨by decide, fun ds hds => ?_⟩
    obtain rfl := (List.cons.inj hds).2
    show ∀ c ∈ ['0', '0', '0'], c = '0'
    simp
  obtain rfl : u = whole := hsame.2 hzeros
  exact ⟨hu, hwhole, hhalf, mt horder.1 (by decide), htext.2 (by decide)⟩

/-- A fraction that one reader cuts the other keeps, and a violation has it from its document. -/
theorem cut_or_kept_halfSecond :
    let half : Timestamp := ⟨1768478400, 500000000⟩
    read "2026-01-15T12:00:00.5Z" = .ok half.truncate
      ∧ ofJson (.text "2026-01-15T12:00:00.5Z") = .ok half
      ∧ half ≠ half.truncate
      ∧ Violation.ofJson (Violation.foundAt half).toJson = .ok (Violation.foundAt half)
      ∧ (Violation.foundAt half).detectedAt.nanos = 500000000 := by
  intro half
  have hstrict : readStrictChars "2026-01-15T12:00:00.5Z".toList = .ok half := by decide
  have hlenient : readLenientChars "2026-01-15T12:00:00.5Z".toList = .ok half := by decide
  exact ⟨read_of_readStrictChars hstrict, ofJson_text_eq_ok_iff.2 hlenient, by decide,
    Violation.ofJson_foundAt ⟨by decide, .inl (by decide)⟩, rfl⟩

end Timestamp

end Governance
