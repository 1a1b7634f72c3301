import Governance.Proofs.Condition.CanonicalText
import Governance.Proofs.Policy.Course
import Governance.Pattern.Program

/-!
# The digest of a condition

The bytes under a digest are those of the canonical text, and a digest is shown by two digits for
each of its bytes, so neither step loses anything. As far as the hash function keeps two inputs
apart, their digests tell the conditions apart, in the policy as in its history.

* `canonicalBytes_eq_iff`, `label_inj`: bytes stand for one text, a label for one digest.
* `digest_identifies`: accepted conditions with the same bytes are equal, and so are those with the
  same digest unless the hash function takes their bytes to one digest.
-/

namespace Governance

namespace Digest

/-! ### Bytes -/

/-- The loop of `ByteArray.toList` puts the bytes from the index `i` on behind those in `acc`. -/
theorem toList_loop_eq (bytes : ByteArray) (i : Nat) (acc : List UInt8) :
    ByteArray.toList.loop bytes i acc = acc.reverse ++ bytes.data.toList.drop i := by
  fun_induction ByteArray.toList.loop bytes i acc with
  | case1 i acc hlt ih =>
    have hnext : bytes.data.toList.drop i = bytes.get! i :: bytes.data.toList.drop (i + 1) := by
      have hi : i < bytes.data.size := hlt
      rw [List.drop_eq_getElem_cons (by simpa using hi), Array.getElem_toList,
        ← getElem!_pos bytes.data i hi]
      rfl
    rw [ih, hnext, List.reverse_cons, List.append_assoc, List.singleton_append]
  | case2 i acc hge =>
    have hi : bytes.data.toList.length ≤ i := Nat.le_of_not_lt hge
    rw [List.drop_eq_nil_of_le hi, List.append_nil]

theorem toList_inj {a b : ByteArray} (h : a.toList = b.toList) : a = b := by
  have hdata (bytes : ByteArray) : bytes.toList = bytes.data.toList := by
    rw [ByteArray.toList, toList_loop_eq]
    rfl
  rw [hdata, hdata] at h
  exact ByteArray.ext (Array.toList_inj.1 h)

/-- **The bytes stand for one text**: `canonicalBytes` are equal exactly when the `canonical` texts
are. -/
theorem canonicalBytes_eq_iff {i j : Json} :
    canonicalBytes i = canonicalBytes j ↔ i.canonical = j.canonical := by
  constructor
  · exact fun h => String.toByteArray_inj.1 (toList_inj h)
  · exact fun h => congrArg (fun s : String => s.toUTF8.toList) h

/-! ### Labels -/

/-- A byte `b` has two digits, `high` and `low`, and they give its number. -/
theorem exists_paddedHex (b : UInt8) : ∃ high low : Char,
    Text.paddedHex 2 b.toNat = [high, low]
      ∧ Json.hexValue? high = some (b.toNat / 16) ∧ Json.hexValue? low = some (b.toNat % 16) := by
  have hdigits : ∀ n < 256,
      Text.paddedHex 2 n = [Nat.digitChar (n / 16), Nat.digitChar (n % 16)]
        ∧ Json.hexValue? (Nat.digitChar (n / 16)) = some (n / 16)
        ∧ Json.hexValue? (Nat.digitChar (n % 16)) = some (n % 16) := by decide +kernel
  exact ⟨_, _, hdigits b.toNat b.toNat_lt⟩

theorem flatMap_paddedHex_inj {xs ys : List UInt8}
    (h : xs.flatMap (fun b => Text.paddedHex 2 b.toNat)
      = ys.flatMap fun b => Text.paddedHex 2 b.toNat) : xs = ys := by
  induction xs generalizing ys with
  | nil =>
    cases ys with
    | nil => rfl
    | cons y ys =>
      obtain ⟨high, low, hchars, -, -⟩ := exists_paddedHex y
      exact absurd h (by simp [hchars])
  | cons x xs ih =>
    obtain ⟨high, low, hchars, hhigh, hlow⟩ := exists_paddedHex x
    cases ys with
    | nil => exact absurd h (by simp [hchars])
    | cons y ys =>
      obtain ⟨high', low', hchars', hhigh', hlow'⟩ := exists_paddedHex y
      simp only [List.flatMap_cons, hchars, hchars', List.cons_append, List.nil_append,
        List.cons.injEq] at h
      obtain ⟨rfl, rfl, hrest⟩ := h
      have hdiv : x.toNat / 16 = y.toNat / 16 := Option.some.inj (hhigh.symm.trans hhigh')
      have hmod : x.toNat % 16 = y.toNat % 16 := Option.some.inj (hlow.symm.trans hlow')
      have hbyte : x = y := UInt8.toNat_inj.1 (by omega)
      rw [hbyte, ih hrest]

/-- **A label stands for one digest**: `label` is injective. -/
theorem ContentDigest.label_inj {d d' : ContentDigest} (h : d.label = d'.label) : d = d' := by
  have hhex : d.hex = d'.hex := by
    have hchars := congrArg String.toList h
    simp only [label, String.toList_append, List.append_cancel_left_eq] at hchars
    exact String.toList_inj.1 hchars
  exact congrArg ContentDigest.mk (flatMap_paddedHex_inj (String.ofList_injective hhex))

/-- The hash function `sha256` does not take `xs` and `ys` to one digest when they differ. -/
def KeptApart (xs ys : List UInt8) : Prop := sha256 xs = sha256 ys → xs = ys

end Digest

open Digest

/-! ### Recorded digests -/

/-- The revision `r` stands in the history of a policy that was created and asked for changes. -/
def Revision.Recorded [Pattern.Library] (r : Revision) : Prop :=
  ∃ id now limits new p requests,
    Policy.create id now limits new = .ok p ∧ r ∈ (p.live requests).history

/-- A recorded `conditionsDigest` is that of the conditions beside it. -/
theorem Revision.Recorded.conditionsDigest_eq [Pattern.Library] {r : Revision} (h : r.Recorded) :
    r.conditionsDigest = r.conditions.digest := by
  obtain ⟨id, now, limits, new, p, requests, hcreate, hr⟩ := h
  obtain ⟨conditions, hconditions, rfl⟩ := map_eq_ok_iff.1 hcreate
  obtain ⟨-, hname, -⟩ := NewPolicy.accept_eq_ok hconditions
  have hregular := Policy.live_induction Policy.Regular.change
    (Policy.regular_initial id now conditions hname) requests
  exact hregular.digests r hr

namespace Condition

theorem digest_eq_iff {c d : Condition} :
    c.digest = d.digest ↔ sha256 (canonicalBytes c.toJson) = sha256 (canonicalBytes d.toJson) := by
  constructor
  · exact fun h => congrArg ContentDigest.bytes (ContentDigest.label_inj h)
  · exact fun h => congrArg (fun bytes => ContentDigest.label ⟨bytes⟩) h

/-- **Bytes and digests identify accepted conditions.** Accepted as `c` and `d`, two written
conditions have the same `canonicalBytes` exactly when `c == d`, with numbers compared by value.
Unless `sha256` takes their bytes to one digest though they differ (`KeptApart`), so it is with
`c.digest` and `d.digest`, those that the history of a policy keeps among them. -/
theorem digest_identifies [Pattern.Library] (limits limits' : ValidationLimits)
    (w w' : WrittenCondition) (c d : Condition) (hc : w.check limits = .ok c)
    (hd : w'.check limits' = .ok d) :
    (canonicalBytes c.toJson = canonicalBytes d.toJson ↔ (c == d) = true)
      ∧ (KeptApart (canonicalBytes c.toJson) (canonicalBytes d.toJson) →
        (c.digest = d.digest ↔ (c == d) = true)
          ∧ ∀ r : Revision, r.Recorded → r.conditions = c →
            (r.conditionsDigest = d.digest ↔ (c == d) = true)
              ∧ ∀ s : Revision, s.Recorded → s.conditions = d →
                (r.conditionsDigest = s.conditionsDigest ↔ (c == d) = true)) := by
  have hfinite : c.FiniteOperands :=
    (WrittenCondition.check_eq_ok_iff_standsFor.1 hc).finiteOperands
  have hfinite' : d.FiniteOperands :=
    (WrittenCondition.check_eq_ok_iff_standsFor.1 hd).finiteOperands
  have hbytes : canonicalBytes c.toJson = canonicalBytes d.toJson ↔ (c == d) = true :=
    canonicalBytes_eq_iff.trans (canonical_eq_iff hfinite hfinite')
  refine ⟨hbytes, fun happart => ?_⟩
  have hdigest : c.digest = d.digest ↔ (c == d) = true := by
    rw [digest_eq_iff, ← hbytes]
    exact ⟨happart, fun h => congrArg sha256 h⟩
  refine ⟨hdigest, fun r hr hrc => ⟨?_, fun s hs hsd => ?_⟩⟩
  · rw [hr.conditionsDigest_eq, hrc, hdigest]
  · rw [hr.conditionsDigest_eq, hrc, hs.conditionsDigest_eq, hsd, hdigest]

/-- Written leaf with a `level` that equals `value`. -/
def levelRule (value : Json) : WrittenCondition := ⟨some "level", "EQUALS", some value, none⟩

/-- The two zeros are one `level` under any digest, in a policy's history too. The text of a zero is
another. -/
theorem digest_identifies_levelRule :
    ∃ c d e : Condition,
      (levelRule (.float .zero)).check .default = .ok c
      ∧ (levelRule (.float (.finite true 0 Number.Binary64.representable_zero))).check .default
        = .ok d
      ∧ (levelRule (.text "0")).check .default = .ok e
      ∧ c.digest = d.digest ∧ canonicalBytes c.toJson ≠ canonicalBytes e.toJson
      ∧ ∃ r : Revision, r.Recorded ∧ r.conditions = c ∧ r.conditionsDigest = d.digest
        ∧ r.conditionsDigest ≠ e.digest := by
  let c : Condition := .leaf ⟨"level", .equals, .number .zero⟩
  let d : Condition :=
    .leaf ⟨"level", .equals, .number (.finite true 0 Number.Binary64.representable_zero)⟩
  let e : Condition := .leaf ⟨"level", .equals, .text "0"⟩
  have hc : (levelRule (.float .zero)).check .default = .ok c := by rfl
  have hd : (levelRule (.float (.finite true 0 Number.Binary64.representable_zero))).check .default
      = .ok d := by rfl
  have he : (levelRule (.text "0")).check .default = .ok e := by rfl
  have hcd : (c == d) = true := by decide +kernel
  have hce : (c == e) = false := by decide +kernel
  have hbytes : canonicalBytes c.toJson = canonicalBytes d.toJson := by decide +kernel
  have happart : KeptApart (canonicalBytes c.toJson) (canonicalBytes e.toJson) := by
    have hne : sha256 (canonicalBytes c.toJson) ≠ sha256 (canonicalBytes e.toJson) := by
      decide +kernel
    exact fun h => absurd h hne
  obtain ⟨r, hr, hrc⟩ : ∃ r : Revision, r.Recorded ∧ r.conditions = c := by
    refine ⟨_, ⟨⟨Uuid.ofNat 1⟩, ⟨0, 0⟩, .default,
      { Policy.oversightRule with
        content := Policy.oversightRule.content.withConditions (levelRule (.float .zero)) },
      _, [.update ⟨1, 0⟩ .default 1 (Policy.severityUpdate .low)], rfl, List.mem_cons_self⟩, rfl⟩
  obtain ⟨-, hsame⟩ := digest_identifies _ _ _ _ c d hc hd
  obtain ⟨hdigest, hrecorded⟩ := hsame fun _ => hbytes
  obtain ⟨hother, hdiffers⟩ := digest_identifies _ _ _ _ c e hc he
  refine ⟨c, d, e, hc, hd, he, hdigest.2 hcd, fun h => ?_, r, hr, hrc,
    (hrecorded r hr hrc).1.2 hcd, fun h => ?_⟩
  · rw [hother.1 h] at hce
    exact absurd hce (by decide)
  · rw [((hdiffers happart).2 r hr hrc).1.1 h] at hce
    exact absurd hce (by decide)

end Condition

end Governance
