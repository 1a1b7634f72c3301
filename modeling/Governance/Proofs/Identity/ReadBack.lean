import Governance.Identity.Names

/-!
# Identifiers read back from their texts

An identifier is shown as thirty-two digits with four hyphens between them. Reading takes the
hyphens out again and the digits give the number, so every identifier is read back from its text.

* `exists_paddedDigits`: padded digits in base sixteen give their number.
* `read_text`: an identifier is read back.
-/

namespace Governance

open Number

namespace Json

/-! ### Digits in base sixteen -/

theorem hexValue?_digitChar : ∀ n < 16, hexValue? (Nat.digitChar n) = some n := by decide

theorem valueOfDigits_concat (base : Nat) (ds : List Nat) (d : Nat) :
    valueOfDigits base (ds ++ [d]) = valueOfDigits base ds * base + d := by
  rw [valueOfDigits, List.foldl_append]
  rfl

/-- For `valueOfDigits`, zeros in front count for nothing. -/
theorem valueOfDigits_zeros_append (base count : Nat) (ds : List Nat) :
    valueOfDigits base (List.replicate count 0 ++ ds) = valueOfDigits base ds := by
  have hzeros : (List.replicate count 0).foldl (fun n d => n * base + d) 0 = 0 := by
    induction count with
    | zero => rfl
    | succ count ih =>
      rw [List.replicate_succ, List.foldl_cons, Nat.zero_mul]
      exact ih
  rw [valueOfDigits, List.foldl_append, hzeros]
  rfl

theorem exists_hexDigits (n : Nat) : ∃ ds : List Nat,
    Text.hexDigits n = ds.map Nat.digitChar ∧ (∀ d ∈ ds, d < 16) ∧ valueOfDigits 16 ds = n := by
  induction n using Nat.strongRecOn with
  | _ n ih =>
    by_cases hsmall : n < 16
    · refine ⟨[n], Nat.toDigits_of_lt_base hsmall, by simpa using hsmall, ?_⟩
      simp [valueOfDigits]
    · obtain ⟨ds, hdigits, hds, hvalue⟩ := ih (n / 16) (by omega)
      have hlast : n % 16 < 16 := Nat.mod_lt n (by decide)
      refine ⟨ds ++ [n % 16], ?_, ?_, ?_⟩
      · rw [List.map_append, ← hdigits]
        exact Nat.toDigits_of_base_le (by decide) (Nat.not_lt.1 hsmall)
      · intro d hd
        rcases List.mem_append.1 hd with hd | hd
        · exact hds d hd
        · rwa [List.mem_singleton.1 hd]
      · rw [valueOfDigits_concat, hvalue]
        exact Nat.div_add_mod' n 16

/-- **Padded digits give their number**: those of `paddedHex` have the value `n`. -/
theorem exists_paddedDigits (width n : Nat) : ∃ ds : List Nat,
    Text.paddedHex width n = ds.map Nat.digitChar ∧ (∀ d ∈ ds, d < 16)
      ∧ valueOfDigits 16 ds = n := by
  obtain ⟨ds, hdigits, hds, hvalue⟩ := exists_hexDigits n
  refine ⟨List.replicate (width - (Text.hexDigits n).length) 0 ++ ds, ?_, ?_, ?_⟩
  · rw [Text.paddedHex, List.map_append, List.map_replicate, ← hdigits]
    rfl
  · intro d hd
    rcases List.mem_append.1 hd with hd | hd
    · rw [List.eq_of_mem_replicate hd]
      decide
    · exact hds d hd
  · rw [valueOfDigits_zeros_append, hvalue]

theorem length_paddedHex {width n : Nat} (hwidth : 0 < width) (hn : n < Nat.pow 16 width) :
    (Text.paddedHex width n).length = width := by
  have hle : (Text.hexDigits n).length ≤ width :=
    (Nat.length_toDigits_le_iff (by decide) hwidth).2 hn
  rw [Text.paddedHex, List.length_append, List.length_replicate]
  exact Nat.sub_add_cancel hle

/-- Digits below sixteen are read by `hexValue?` as they are. -/
theorem mapM_hexValue? {ds : List Nat} (hds : ∀ d ∈ ds, d < 16) :
    (ds.map Nat.digitChar).mapM hexValue? = some ds := by
  induction ds with
  | nil => rfl
  | cons d ds ih =>
    rw [List.forall_mem_cons] at hds
    rw [List.map_cons, List.mapM_cons, hexValue?_digitChar d hds.1, ih hds.2]
    rfl

end Json

namespace Uuid

variable {u : Uuid}

/-! ### Identifiers -/

theorem length_digitChars (u : Uuid) : u.digitChars.length = 32 :=
  Json.length_paddedHex (by decide) u.value.isLt

/-- No character of `u.digitChars` is one of the marks that a text is searched for. -/
theorem ne_of_mem_digitChars {c : Char} (h : c ∈ u.digitChars) :
    c ≠ '-' ∧ c ≠ '\x7b' ∧ c.toLower ≠ 'u' := by
  obtain ⟨ds, hdigits, hds, -⟩ := Json.exists_paddedDigits 32 u.value.val
  rw [digitChars, hdigits] at h
  obtain ⟨d, hd, rfl⟩ := List.mem_map.1 h
  have hnone : ∀ d < 16, Nat.digitChar d ≠ '-' ∧ Nat.digitChar d ≠ '\x7b'
      ∧ (Nat.digitChar d).toLower ≠ 'u' := by decide
  exact hnone d (hds d hd)

theorem ofDigits?_digitChars (u : Uuid) : ofDigits? u.digitChars = some u := by
  obtain ⟨ds, hdigits, hds, hvalue⟩ := Json.exists_paddedDigits 32 u.value.val
  have hread : u.digitChars.mapM Json.hexValue? = some ds := by
    rw [digitChars, hdigits]
    exact Json.mapM_hexValue? hds
  rw [ofDigits?, if_pos u.length_digitChars, hread, Option.map_some, hvalue]
  exact congrArg some (congrArg Uuid.mk (Fin.ofNat_val_eq_self u.value))

/-- The characters of `u.text`. -/
def textChars (u : Uuid) : List Char :=
  u.digitChars.take 8 ++ '-' :: (u.digitChars.drop 8).take 4 ++ '-' :: (u.digitChars.drop 12).take 4
    ++ '-' :: (u.digitChars.drop 16).take 4 ++ '-' :: u.digitChars.drop 20

/-- Taking the hyphens out of `textChars` leaves the digits. -/
theorem filter_textChars (u : Uuid) : u.textChars.filter (· ≠ '-') = u.digitChars := by
  have hkept {cs : List Char} (h : cs ⊆ u.digitChars) : cs.filter (· ≠ '-') = cs :=
    List.filter_eq_self.2 fun c hc => decide_eq_true (ne_of_mem_digitChars (h hc)).1
  have hhyphen (cs : List Char) : ('-' :: cs).filter (· ≠ '-') = cs.filter (· ≠ '-') := rfl
  have hgroup (start size : Nat) : (u.digitChars.drop start).take size ⊆ u.digitChars := fun c hc =>
    List.mem_of_mem_drop (List.mem_of_mem_take hc)
  have hjoin (start size : Nat) : (u.digitChars.drop start).take size
      ++ u.digitChars.drop (start + size) = u.digitChars.drop start := by
    rw [← List.drop_drop, List.take_append_drop]
  have hfirst := hjoin 0 8
  rw [List.drop_zero] at hfirst
  simp only [textChars, List.append_assoc, List.cons_append, List.filter_append, hhyphen,
    hkept (hgroup 8 4), hkept (hgroup 12 4), hkept (hgroup 16 4), hkept (List.take_subset _ _),
    hkept (List.drop_subset _ _)]
  rw [hjoin 16 4, hjoin 12 4, hjoin 8 4, hfirst]

theorem length_textChars (u : Uuid) : u.textChars.length = 36 := by
  simp [textChars, length_digitChars]

theorem ofHyphenated?_textChars (u : Uuid) : ofHyphenated? u.textChars = some u := by
  have hhyphens : ([8, 13, 18, 23].all fun i => u.textChars[i]? == some '-') = true := by
    simp [textChars, List.getElem?_append, length_digitChars]
  rw [ofHyphenated?, if_pos ⟨u.length_textChars, hhyphens⟩, filter_textChars, ofDigits?_digitChars]

/-- The text stands bare, so `unwrap` takes nothing off. -/
theorem unwrap_textChars (u : Uuid) : unwrap u.textChars = (u.textChars, 0, true) := by
  obtain ⟨c, rest, hc⟩ : ∃ c rest, u.digitChars = c :: rest :=
    List.exists_cons_of_length_eq_add_one u.length_digitChars
  have htext : ∃ more, u.textChars = c :: more := by
    rw [textChars, hc]
    exact ⟨_, rfl⟩
  obtain ⟨more, hmore⟩ := htext
  obtain ⟨-, hbrace, hscheme⟩ := ne_of_mem_digitChars (hc ▸ List.mem_cons_self)
  rw [unwrap, hmore, if_neg, if_neg]
  · intro h
    exact hscheme (List.cons.inj h).1
  · rintro ⟨h, -⟩
    exact hbrace (Option.some.inj h)

/-- **An identifier is read back from its text**: `read` inverts `text`. -/
theorem read_text (u : Uuid) : read u.text = .ok u := by
  have hchars : u.text.toList = u.textChars := String.toList_ofList
  have hlength : ¬ u.textChars.length = 32 := by
    rw [length_textChars]
    decide
  simp only [read, hchars, unwrap_textChars, hlength, and_false, if_false,
    ofHyphenated?_textChars]

theorem ofJson_toJson (u : Uuid) : ofJson u.toJson = .ok u := by
  rw [toJson, ofJson, read_text]

end Uuid

/-! ### Names -/

theorem PolicyId.ofJson_toJson (id : PolicyId) : ofJson id.toJson = .ok id := by
  rw [toJson, ofJson, Uuid.ofJson_toJson]
  rfl

theorem ViolationId.ofJson_toJson (id : ViolationId) : ofJson id.toJson = .ok id := by
  rw [toJson, ofJson, Uuid.ofJson_toJson]
  rfl

theorem AssessmentId.ofJson_toJson (id : AssessmentId) : ofJson id.toJson = .ok id := by
  simp [toJson, ofJson, Decode.text, read_text, bind, Except.bind]

theorem TenantId.ofJson_toJson (id : TenantId) : ofJson id.toJson = .ok id := by
  simp [toJson, ofJson, Decode.text, read_text, bind, Except.bind]

end Governance
