import Governance.Text.Blank
import Governance.Text.LowerCase

/-!
# Texts without blanks around them, in lower case

Texts are often compared trimmed and in lower case. The blanks around a text have no part in it
then, nor has the case of its ASCII letters: such a letter has case in both of its forms, so it ends
no word that it did not end before, and neither form is blank.

* `trimChars_append`: blanks at the two ends are taken off.
* `lowerChars_map_toLower`: ASCII letters may be lowered beforehand.
* `folded_padded`, `folded_eq_of_sameIgnoringAsciiCase`: so a text is folded alike whatever blanks
  stand around it, and in whatever case its ASCII letters are.
-/

namespace Governance.Text

variable {before cs after : List Char}

/-- The text `s` trimmed and in lower case. -/
def folded (s : String) : String := lower (trim s)

/-! ### Blanks at the ends -/

theorem trimStartChars_append (h : before.all isBlank = true) :
    trimStartChars (before ++ cs) = trimStartChars cs :=
  List.dropWhile_append_of_pos (List.all_eq_true.1 h)

theorem trimEndChars_append (h : after.all isBlank = true) :
    trimEndChars (cs ++ after) = trimEndChars cs := by
  have hreverse : ∀ c ∈ after.reverse, isBlank c = true := fun c hc =>
    List.all_eq_true.1 h c (List.mem_reverse.1 hc)
  rw [trimEndChars, trimEndChars, List.reverse_append, List.dropWhile_append_of_pos hreverse]

/-- **Blanks at the two ends are taken off** by `trimChars`. -/
theorem trimChars_append (hbefore : before.all isBlank = true) (hafter : after.all isBlank = true) :
    trimChars (before ++ cs ++ after) = trimChars cs := by
  rw [List.append_assoc, trimChars, trimStartChars_append hbefore]
  by_cases hblank : cs.all isBlank = true
  · rw [trimStartChars_append hblank, trimChars_eq_nil.2 hblank]
    exact trimChars_eq_nil.2 hafter
  · have hrest : trimStartChars (cs ++ after) = trimStartChars cs ++ after := by
      have hsome : (cs.dropWhile isBlank).isEmpty = false := by
        rw [List.isEmpty_eq_false_iff]
        exact mt dropWhile_eq_nil.1 hblank
      rw [trimStartChars, List.dropWhile_append, hsome, if_neg Bool.false_ne_true]
      rfl
    rw [hrest, trimEndChars_append hafter]
    rfl

/-! ### ASCII letters -/

/-- The ASCII letters in upper case. -/
def asciiCapitals : List Char := "ABCDEFGHIJKLMNOPQRSTUVWXYZ".toList

/-- By `toLower` only the ASCII letters in upper case are changed. -/
theorem toLower_eq_or_mem (c : Char) : c.toLower = c ∨ c ∈ asciiCapitals := by
  by_cases hbounds : 65 ≤ c.toNat ∧ c.toNat ≤ 90
  · have hall : ∀ n < 26, Char.ofNat (65 + n) ∈ asciiCapitals := by decide
    have hc := hall (c.toNat - 65) (by omega)
    rw [Nat.add_sub_cancel' hbounds.1, Char.ofNat_toNat] at hc
    exact .inr hc
  · exact .inl (dif_neg hbounds)

/-- What `f` tells alike of both forms of every ASCII letter, it tells alike of each character and
its lower case. -/
theorem toLower_invariant {α : Type} {f : Char → α}
    (h : asciiCapitals.map (fun c => f c.toLower) = asciiCapitals.map f) (c : Char) :
    f c.toLower = f c := by
  rcases toLower_eq_or_mem c with hsame | hcapital
  · rw [hsame]
  · exact List.map_inj_left.1 h c hcapital

theorem isBlank_toLower (c : Char) : isBlank c.toLower = isBlank c :=
  toLower_invariant (by decide) c

theorem caseIgnorable_toLower (c : Char) :
    caseIgnorable.has c.toLower.toNat = caseIgnorable.has c.toNat :=
  toLower_invariant (f := fun c => caseIgnorable.has c.toNat) (by decide +kernel) c

theorem cased_toLower (c : Char) : cased.has c.toLower.toNat = cased.has c.toNat :=
  toLower_invariant (f := fun c => cased.has c.toNat) (by decide +kernel) c

theorem lowerChar_toLower (c : Char) : lowerChar c.toLower = lowerChar c :=
  toLower_invariant (by decide +kernel) c

theorem toLower_eq_sigma_iff (c : Char) : c.toLower = 'Σ' ↔ c = 'Σ' := by
  have hsame : (c.toLower == 'Σ') = (c == 'Σ') :=
    toLower_invariant (f := fun c => c == 'Σ') (by decide) c
  rw [← beq_iff_eq, hsame, beq_iff_eq]

theorem dropWhile_map_toLower {p : Char → Bool} (hp : ∀ c, p c.toLower = p c) (cs : List Char) :
    (cs.map Char.toLower).dropWhile p = (cs.dropWhile p).map Char.toLower := by
  have hcomp : p ∘ Char.toLower = p := funext hp
  rw [List.dropWhile_map, hcomp]

theorem trimChars_map_toLower (cs : List Char) :
    trimChars (cs.map Char.toLower) = (trimChars cs).map Char.toLower := by
  simp only [trimChars, trimStartChars, trimEndChars, dropWhile_map_toLower isBlank_toLower,
    ← List.map_reverse]

theorem startsCased_map_toLower (cs : List Char) :
    startsCased (cs.map Char.toLower) = startsCased cs := by
  rw [startsCased, startsCased, dropWhile_map_toLower caseIgnorable_toLower]
  cases cs.dropWhile fun c => caseIgnorable.has c.toNat with
  | nil => rfl
  | cons c rest => exact cased_toLower c

theorem endsWord_map_toLower (before after : List Char) :
    endsWord (before.map Char.toLower) (after.map Char.toLower) = endsWord before after := by
  rw [endsWord, endsWord, startsCased_map_toLower, startsCased_map_toLower]

theorem lowerAfter_map_toLower (before cs : List Char) :
    lowerAfter (before.map Char.toLower) (cs.map Char.toLower) = lowerAfter before cs := by
  induction cs generalizing before with
  | nil => rfl
  | cons c cs ih =>
    have hrest : lowerAfter (c.toLower :: before.map Char.toLower) (cs.map Char.toLower)
        = lowerAfter (c :: before) cs := ih (c :: before)
    rw [List.map_cons, lowerAfter, lowerAfter, hrest]
    simp only [toLower_eq_sigma_iff, endsWord_map_toLower, lowerChar_toLower]

/-- **ASCII letters may be lowered beforehand** without a change of `lowerChars`. No sigma
notices. -/
theorem lowerChars_map_toLower (cs : List Char) :
    lowerChars (cs.map Char.toLower) = lowerChars cs :=
  lowerAfter_map_toLower [] cs

/-! ### Folded texts -/

theorem toList_folded (s : String) : (folded s).toList = lowerChars (trimChars s.toList) := by
  rw [folded, toList_lower, toList_trim]

/-- **A text is folded alike whatever blanks stand around it**, `before` and `after`. -/
theorem folded_padded {before after : String} (hbefore : isAllBlank before = true)
    (hafter : isAllBlank after = true) (s : String) : folded (before ++ s ++ after) = folded s := by
  rw [← String.toList_inj, toList_folded, toList_folded, String.toList_append,
    String.toList_append, trimChars_append hbefore hafter]

/-- **A text is folded alike in whatever case its ASCII letters are**: `s` and `t` are, when they
are the same but for these. -/
theorem folded_eq_of_sameIgnoringAsciiCase {s t : String} (h : sameIgnoringAsciiCase s t = true) :
    folded s = folded t := by
  have hmap : s.toList.map Char.toLower = t.toList.map Char.toLower := beq_iff_eq.1 h
  rw [← String.toList_inj, toList_folded, toList_folded, ← lowerChars_map_toLower,
    ← trimChars_map_toLower, hmap, trimChars_map_toLower, lowerChars_map_toLower]

end Governance.Text
