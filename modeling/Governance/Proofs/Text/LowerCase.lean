import Governance.Text.LowerCase

/-!
# Lower case of a passage

Every character of a passage is lowered alike wherever the passage stands, up to the capital sigmas
in it: one that ends a word in the passage alone may stand inside a word of the whole text, and the
other way round. `KeepsSigmas` says that the text around a passage changes no sigma.

* `lowerPassage_append`: a text is lowered passage by passage.
* `lowerPassage_eq_lowerChars_iff`: a passage is lowered as if it stood alone if and only if the
  text around it changes no sigma.
* `keepsSigmas_of_not_mem`, `keepsSigmas_of_apart`: so it is without a sigma in the passage, and
  where no word goes on beyond its ends.
-/

namespace Governance.Text

variable {before cs after : List Char}

/-! ### Characters in their places -/

/-- The lower case of the character `c`; `before` holds what precedes it, last character first. -/
def lowerAt (before : List Char) (c : Char) (after : List Char) : List Char :=
  if c = 'Σ' then [if endsWord before after then 'ς' else 'σ'] else lowerChar c

/-- The lower case of a passage between two texts; `before` holds the first of them, last character
first. -/
def lowerPassage (before : List Char) : List Char → List Char → List Char
  | [], _ => []
  | c :: cs, after => lowerAt before c (cs ++ after) ++ lowerPassage (c :: before) cs after

/-- A text `cs` alone is a passage with nothing after it. -/
theorem lowerAfter_eq (before cs : List Char) :
    lowerAfter before cs = lowerPassage before cs [] := by
  induction cs generalizing before with
  | nil => rfl
  | cons c cs ih =>
    rw [lowerAfter, ih, lowerPassage, List.append_nil]
    rfl

/-- **A passage is lowered part by part**: `lowerPassage` of `xs ++ ys` is that of each in its
place. -/
theorem lowerPassage_append (before xs ys after : List Char) :
    lowerPassage before (xs ++ ys) after
      = lowerPassage before xs (ys ++ after) ++ lowerPassage (xs.reverse ++ before) ys after := by
  induction xs generalizing before with
  | nil => rfl
  | cons x xs ih =>
    rw [List.cons_append, lowerPassage, lowerPassage, ih, List.append_assoc, List.append_assoc,
      List.reverse_cons, List.append_assoc]
    rfl

theorem lowerChars_append (xs ys : List Char) :
    lowerChars (xs ++ ys) = lowerPassage [] xs ys ++ lowerPassage xs.reverse ys [] := by
  rw [lowerChars, lowerAfter_eq, lowerPassage_append, List.append_nil, List.append_nil]

/-! ### The same passage in two places -/

variable {before' after' : List Char}

theorem length_lowerAt (c : Char) :
    (lowerAt before c after).length = (lowerAt before' c after').length := by
  unfold lowerAt
  split <;> rfl

theorem length_lowerPassage :
    (lowerPassage before cs after).length = (lowerPassage before' cs after').length := by
  induction cs generalizing before before' with
  | nil => rfl
  | cons c cs ih =>
    rw [lowerPassage, lowerPassage, List.length_append, List.length_append, length_lowerAt, ih]

theorem length_lowerChars : (lowerChars cs).length = (lowerPassage before cs after).length := by
  rw [lowerChars, lowerAfter_eq]
  exact length_lowerPassage

/-- In two places, `c` is lowered alike unless it is a sigma that ends a word in one of them only
(`endsWord`). -/
theorem lowerAt_eq_iff (c : Char) :
    lowerAt before c after = lowerAt before' c after' ↔
      (c = 'Σ' → endsWord before after = endsWord before' after') := by
  unfold lowerAt
  split
  · next hc => cases endsWord before after <;> cases endsWord before' after' <;> simp [hc]
  · next hc => simp [hc]

/-- In two places, the passage `cs` is lowered alike if each of its sigmas is. -/
theorem lowerPassage_eq_iff :
    lowerPassage before cs after = lowerPassage before' cs after' ↔
      ∀ xs ys, cs = xs ++ 'Σ' :: ys →
        endsWord (xs.reverse ++ before) (ys ++ after)
          = endsWord (xs.reverse ++ before') (ys ++ after') := by
  induction cs generalizing before before' with
  | nil => simp [lowerPassage]
  | cons c cs ih =>
    have hsplit : lowerPassage before (c :: cs) after = lowerPassage before' (c :: cs) after' ↔
        lowerAt before c (cs ++ after) = lowerAt before' c (cs ++ after')
          ∧ lowerPassage (c :: before) cs after = lowerPassage (c :: before') cs after' := by
      rw [lowerPassage, lowerPassage]
      exact ⟨fun h => List.append_inj h (length_lowerAt c), fun h => by rw [h.1, h.2]⟩
    rw [hsplit, lowerAt_eq_iff, ih]
    constructor
    · rintro ⟨hfirst, hrest⟩ xs ys heq
      obtain ⟨rfl, hcs⟩ | ⟨xs', rfl, hcs⟩ := List.cons_eq_append_iff.1 heq
      · obtain ⟨rfl, rfl⟩ := List.cons.inj hcs
        exact hfirst rfl
      · simpa using hrest xs' ys hcs
    · intro h
      refine ⟨fun hc => ?_, fun xs ys hcs => ?_⟩
      · exact h [] cs (by rw [hc, List.nil_append])
      · simpa using h (c :: xs) ys (by rw [hcs, List.cons_append])

/-! ### Sigmas -/

/-- Each capital sigma of the passage `cs` that stands between two texts ends a word there if and
only if it ends one in `cs` alone. -/
def KeepsSigmas (before cs after : List Char) : Prop :=
  ∀ xs ys, cs = xs ++ 'Σ' :: ys →
    endsWord (before ++ xs).reverse (ys ++ after) = endsWord xs.reverse ys

/-- **When a passage is lowered as if it stood alone**: if and only if it `KeepsSigmas`. -/
theorem lowerPassage_eq_lowerChars_iff :
    lowerPassage before.reverse cs after = lowerChars cs ↔ KeepsSigmas before cs after := by
  rw [lowerChars, lowerAfter_eq, lowerPassage_eq_iff]
  simp only [KeepsSigmas, List.reverse_append, List.append_nil]

theorem keepsSigmas_of_not_mem (h : 'Σ' ∉ cs) : KeepsSigmas before cs after := by
  rintro xs ys rfl
  exact absurd (List.mem_append_right _ List.mem_cons_self) h

/-- A text `ys` that does not begin with a cased character may as well be missing. -/
theorem startsCased_append {xs ys : List Char} (h : startsCased ys = false) :
    startsCased (xs ++ ys) = startsCased xs := by
  unfold startsCased at h ⊢
  rw [List.dropWhile_append]
  cases hxs : xs.dropWhile fun c => caseIgnorable.has c.toNat with
  | nil => exact h
  | cons c xs => rfl

/-- No sigma is changed where no word goes on beyond the ends of the passage `cs`. -/
theorem keepsSigmas_of_apart (hbefore : startsCased before.reverse = false)
    (hafter : startsCased after = false) : KeepsSigmas before cs after := by
  intro xs ys _
  rw [endsWord, endsWord, List.reverse_append, startsCased_append hbefore,
    startsCased_append hafter]

/-! ### Parts of a text -/

theorem lowerChars_infix (h : KeepsSigmas before cs after) :
    lowerChars cs <:+: lowerChars (before ++ cs ++ after) := by
  rw [lowerChars_append, lowerPassage_append, List.append_nil, lowerPassage_eq_lowerChars_iff.2 h]
  exact ⟨_, _, rfl⟩

theorem lowerChars_prefix_iff :
    lowerChars cs <+: lowerChars (cs ++ after) ↔ KeepsSigmas [] cs after := by
  rw [← lowerPassage_eq_lowerChars_iff, lowerChars_append]
  constructor
  · rintro ⟨rest, hrest⟩
    exact (List.append_inj hrest length_lowerChars).1.symm
  · intro h
    exact ⟨_, congrArg (· ++ _) h.symm⟩

theorem lowerChars_suffix_iff :
    lowerChars cs <:+ lowerChars (before ++ cs) ↔ KeepsSigmas before cs [] := by
  rw [← lowerPassage_eq_lowerChars_iff, lowerChars_append]
  constructor
  · rintro ⟨rest, hrest⟩
    exact (List.append_inj' hrest length_lowerChars).2.symm
  · intro h
    exact ⟨_, congrArg (_ ++ ·) h.symm⟩

end Governance.Text
