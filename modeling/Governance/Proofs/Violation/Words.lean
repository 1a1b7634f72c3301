import Mathlib.Data.List.Chain
import Governance.Violation.TypeName

/-!
# The words of a field's name

`words` cuts a field's name into its ASCII letters and digits, in order and each once. Where one
word ends and the next begins is told by the two characters next to each other that are kept:
something stood between them, or a capital follows a small letter or a digit. The one pass of
`Naming.next` that makes a `typeName` writes these words, with underscores between them.

* `words_cons_cases`: a character that is kept opens a word of its own or joins the first word.
* `wordAt_words_ne_iff`: where `words` are cut.
* `singleUnderscores_intercalate`: words with single underscores between them have no two side by
  side.
* `trimmed_foldl_next`: what the pass leaves, from each of the three kinds of `Naming` it can be at.
* `typeName_eq`, `typeName_words`: the name of a type, word by word.
-/

namespace Governance.Violation

/-! ### Words -/

/-- The words of a field's name, given by its characters. -/
def words : List Char → List (List Char)
  | [] => []
  | c :: rest =>
    if c.isAlphanum then
      match rest, words rest with
      | d :: _, w :: ws =>
        if d.isAlphanum && !startsWord c d then (c :: w) :: ws else [c] :: w :: ws
      | _, ws => [c] :: ws
    else words rest

theorem ne_nil_of_mem_words {cs w : List Char} (h : w ∈ words cs) : w ≠ [] := by
  induction cs with
  | nil => simp [words] at h
  | cons c rest ih =>
    unfold words at h
    split at h
    · split at h
      · rename_i w' ws hws
        split at h
        · rcases List.mem_cons.1 h with rfl | h
          · simp
          · exact ih (hws ▸ List.mem_cons_of_mem _ h)
        · rcases List.mem_cons.1 h with rfl | h
          · simp
          · exact ih (hws ▸ h)
      · rcases List.mem_cons.1 h with rfl | h
        · simp
        · exact ih h
    · exact ih h

theorem flatten_words (cs : List Char) : (words cs).flatten = cs.filter Char.isAlphanum := by
  induction cs with
  | nil => rfl
  | cons c rest ih =>
    unfold words
    by_cases hc : c.isAlphanum = true
    · simp only [hc, if_true, List.filter_cons, ← ih]
      split
      · rename_i w ws hws
        split <;> simp [hws]
      · simp
    · simp [hc, ih]

/-! ### Words one after the other -/

/-- The number of the word in which the character at `place` stands, when words are written one
after the other. -/
def wordAt : List (List Char) → Nat → Nat
  | [], _ => 0
  | w :: ws, place => if place < w.length then 0 else wordAt ws (place - w.length) + 1

theorem wordAt_cons_of_lt {w : List Char} {place : Nat} (h : place < w.length)
    (ws : List (List Char)) : wordAt (w :: ws) place = 0 := if_pos h

theorem wordAt_singleton_cons (c : Char) (ws : List (List Char)) (place : Nat) :
    wordAt ([c] :: ws) (place + 1) = wordAt ws place + 1 := by
  rw [wordAt, List.length_singleton, if_neg (by omega), Nat.add_sub_cancel]

/-- A character `c` put before the first word moves the places of all others by one. -/
theorem wordAt_cons_cons (c : Char) (w : List Char) (ws : List (List Char)) (place : Nat) :
    wordAt ((c :: w) :: ws) (place + 1) = wordAt (w :: ws) place := by
  simp only [wordAt, List.length_cons, Nat.add_lt_add_iff_right, Nat.add_sub_add_right]

/-- Only the lengths of the words `ws` count for `wordAt`. -/
theorem wordAt_map (f : Char → Char) (ws : List (List Char)) (place : Nat) :
    wordAt (ws.map (List.map f)) place = wordAt ws place := by
  induction ws generalizing place with
  | nil => rfl
  | cons w ws ih => rw [List.map_cons, wordAt, wordAt, List.length_map, ih]

/-! ### Cutting a name into words -/

section Cuts

variable {a b : Char} {rest : List Char}

/-- What is not kept, such as `a`, belongs to no word. -/
theorem words_cons_of_not (h : a.isAlphanum = false) : words (a :: rest) = words rest := by
  rw [words.eq_def (a :: rest)]
  exact if_neg (Bool.eq_false_iff.1 h)

/-- When `a` is kept, and what follows is not, or starts a word, `a` is a word of its own. -/
theorem words_cons_apart (ha : a.isAlphanum = true)
    (h : ∀ d ∈ rest.head?, d.isAlphanum = false ∨ startsWord a d = true) :
    words (a :: rest) = [a] :: words rest := by
  rw [words.eq_def (a :: rest)]
  simp only [ha, if_true]
  split
  · next d tail w ws hws =>
    have hcut : (d.isAlphanum && !startsWord a d) = false := by
      rcases h d rfl with hd | hd <;> simp [hd]
    rw [hws, hcut, if_neg Bool.false_ne_true]
  · rfl

/-- There are no words in `cs` when nothing is kept. -/
theorem words_eq_nil_iff {cs : List Char} :
    words cs = [] ↔ ∀ c ∈ cs, c.isAlphanum = false := by
  have hkept : (words cs).flatten = [] ↔ ∀ c ∈ cs, c.isAlphanum = false := by
    simp [flatten_words]
  rw [← hkept, List.flatten_eq_nil_iff]
  constructor
  · intro h w hw
    exact absurd hw (by simp [h])
  · intro h
    exact List.eq_nil_iff_forall_not_mem.2 fun w hw => ne_nil_of_mem_words hw (h w hw)

/-- Otherwise `a` joins the word of `b`, which follows. -/
theorem words_cons_joined (rest : List Char) (ha : a.isAlphanum = true)
    (hb : b.isAlphanum = true) (h : startsWord a b = false) :
    ∃ w ws, words (b :: rest) = w :: ws ∧ words (a :: b :: rest) = (a :: w) :: ws := by
  have hne : words (b :: rest) ≠ [] := fun hnil => by
    have hlost := words_eq_nil_iff.1 hnil b List.mem_cons_self
    rw [hb] at hlost
    exact Bool.false_ne_true hlost.symm
  obtain ⟨w, ws, hws⟩ := List.exists_cons_of_ne_nil hne
  refine ⟨w, ws, hws, ?_⟩
  rw [words.eq_def (a :: b :: rest)]
  simp only [ha, if_true, hws, hb, h, Bool.not_false, Bool.and_self]

/-- **A character that is kept**, such as `a`, opens a word of its own or joins the first word of
`rest`. -/
theorem words_cons_cases (rest : List Char) (ha : a.isAlphanum = true) :
    words (a :: rest) = [a] :: words rest
      ∨ ∃ w ws, words rest = w :: ws ∧ words (a :: rest) = (a :: w) :: ws := by
  by_cases happart : ∀ d ∈ rest.head?, d.isAlphanum = false ∨ startsWord a d = true
  · exact .inl (words_cons_apart ha happart)
  · cases rest with
    | nil => exact absurd (fun d hd => absurd hd (by simp)) happart
    | cons b rest =>
      have hb : b.isAlphanum = true ∧ startsWord a b = false := by simpa using happart
      exact .inr (words_cons_joined rest ha hb.1 hb.2)

end Cuts

/-- **Where words are cut.** Two characters `a` and `b` that are kept, with none that is kept in the
`gap` between them, stand in different words just when the `gap` is not empty or `b` starts a word
(`startsWord`). -/
theorem wordAt_words_ne_iff (before gap after : List Char) {a b : Char}
    (ha : a.isAlphanum = true) (hb : b.isAlphanum = true)
    (hgap : ∀ c ∈ gap, c.isAlphanum = false) :
    wordAt (words (before ++ a :: (gap ++ b :: after))) (before.countP Char.isAlphanum)
        ≠ wordAt (words (before ++ a :: (gap ++ b :: after))) (before.countP Char.isAlphanum + 1)
      ↔ gap ≠ [] ∨ startsWord a b = true := by
  induction before with
  | nil =>
    have hfirst (w : List Char) (ws : List (List Char)) : wordAt ((a :: w) :: ws) 0 = 0 :=
      wordAt_cons_of_lt (Nat.succ_pos _) ws
    simp only [List.nil_append, List.countP_nil, Nat.zero_add]
    by_cases hcut : gap ≠ [] ∨ startsWord a b = true
    · have hapart : ∀ d ∈ (gap ++ b :: after).head?,
          d.isAlphanum = false ∨ startsWord a d = true := by
        intro d hd
        cases gap with
        | nil =>
          obtain rfl := Option.some.inj hd
          exact .inr (hcut.resolve_left fun h => h rfl)
        | cons g gap =>
          obtain rfl := Option.some.inj hd
          exact .inl (hgap _ List.mem_cons_self)
      rw [words_cons_apart ha hapart, hfirst, wordAt_singleton_cons]
      exact iff_of_true (Nat.succ_ne_zero _).symm hcut
    · obtain ⟨rfl, hjoin⟩ : gap = [] ∧ startsWord a b = false := by simpa using hcut
      obtain ⟨w, ws, hws, hjoined⟩ := words_cons_joined after ha hb hjoin
      have hw : 0 < w.length :=
        List.length_pos_iff.2 (ne_nil_of_mem_words (hws ▸ List.mem_cons_self))
      rw [List.nil_append, hjoined, hfirst, wordAt_cons_cons, wordAt_cons_of_lt hw]
      exact iff_of_false (fun h => h rfl) hcut
  | cons c before ih =>
    rw [← ih, List.cons_append]
    by_cases hc : c.isAlphanum = true
    · rw [List.countP_cons_of_pos hc]
      rcases words_cons_cases (before ++ a :: (gap ++ b :: after)) hc with
        hown | ⟨w, rest, hws, hjoined⟩
      · rw [hown, wordAt_singleton_cons, wordAt_singleton_cons, ne_eq, ne_eq, Nat.add_left_inj]
      · rw [hjoined, hws, wordAt_cons_cons, wordAt_cons_cons]
    · rw [List.countP_cons_of_neg hc, words_cons_of_not (Bool.eq_false_iff.2 hc)]

/-! ### Words in capitals -/

theorem isLower_iff {c : Char} : c.isLower = true ↔ 97 ≤ c.val ∧ c.val ≤ 122 :=
  Bool.and_eq_true_iff.trans (and_congr decide_eq_true_iff decide_eq_true_iff)

theorem isUpper_toUpper {c : Char} (h : c.isLower = true) : c.toUpper.isUpper = true := by
  have hbounds : 97 ≤ c.toNat ∧ c.toNat ≤ 122 := isLower_iff.1 h
  have hall : ∀ n < 26, (Char.ofNat (97 + n)).toUpper.isUpper = true := by decide
  have hc := hall (c.toNat - 97) (by omega)
  rwa [Nat.add_sub_cancel' hbounds.1, Char.ofNat_toNat] at hc

/-- What is kept becomes a capital by `toUpper` or stays a digit. -/
theorem isUpper_or_isDigit_toUpper {c : Char} (h : c.isAlphanum = true) :
    c.toUpper.isUpper = true ∨ c.toUpper.isDigit = true := by
  by_cases hlower : c.isLower = true
  · exact .inl (isUpper_toUpper hlower)
  · have hsame : c.toUpper = c :=
      dif_neg fun hbounds => hlower (isLower_iff.2 hbounds)
    rw [hsame]
    have h : ((c.isUpper || c.isLower) || c.isDigit) = true := h
    simpa [hlower] using h

theorem mem_words_upper {cs w : List Char} (h : w ∈ (words cs).map (List.map Char.toUpper)) :
    w ≠ [] ∧ ∀ c ∈ w, c.isUpper = true ∨ c.isDigit = true := by
  obtain ⟨v, hv, rfl⟩ := List.mem_map.1 h
  refine ⟨by simpa using ne_nil_of_mem_words hv, fun c hc => ?_⟩
  obtain ⟨d, hd, rfl⟩ := List.mem_map.1 hc
  have hkept : d ∈ cs.filter Char.isAlphanum := flatten_words cs ▸ List.mem_flatten_of_mem hv hd
  exact isUpper_or_isDigit_toUpper (List.mem_filter.1 hkept).2

/-! ### Words and underscores -/

/-- No two characters of `cs` side by side are underscores. -/
def SingleUnderscores (cs : List Char) : Prop := cs.IsChain fun a b => a ≠ '_' ∨ b ≠ '_'

/-- A word `w` between two underscores, whatever follows the second. -/
theorem singleUnderscores_word {w rest : List Char} (hne : w ≠ []) (hw : '_' ∉ w)
    (hrest : SingleUnderscores ('_' :: rest)) :
    SingleUnderscores ('_' :: (w ++ '_' :: rest)) := by
  have hnone : ∀ c ∈ w, c ≠ '_' := fun c hc h => hw (h ▸ hc)
  have hfirst : SingleUnderscores ('_' :: w) :=
    List.isChain_cons.2 ⟨fun c hc => .inr (hnone c (List.mem_of_mem_head? hc)),
      (List.pairwise_of_forall_mem_list fun a ha b _ => .inl (hnone a ha)).isChain⟩
  rw [← List.cons_append]
  refine List.isChain_append.2 ⟨hfirst, hrest, fun c hc d _ => ?_⟩
  rw [List.getLast?_cons_of_ne_nil hne] at hc
  exact .inl (hnone c (List.mem_of_mem_getLast? hc))

/-- **Single underscores.** Words `ws` without underscores, with one between each two and one at
either end, have no two underscores side by side. -/
theorem singleUnderscores_intercalate {ws : List (List Char)} (hne : ws ≠ [])
    (h : ∀ w ∈ ws, w ≠ [] ∧ '_' ∉ w) :
    SingleUnderscores ('_' :: (List.intercalate ['_'] ws ++ ['_'])) := by
  induction ws with
  | nil => exact absurd rfl hne
  | cons w ws ih =>
    rw [List.forall_mem_cons] at h
    cases ws with
    | nil =>
      rw [List.intercalate_singleton]
      exact singleUnderscores_word h.1.1 h.1.2 (.singleton _)
    | cons v ws =>
      have hrest := ih (List.cons_ne_nil v ws) h.2
      rw [List.intercalate_cons_cons, List.append_assoc, List.append_assoc]
      exact singleUnderscores_word h.1.1 h.1.2 hrest

/-- Two underscores of `cs` side by side would show, and so would one at an end of `cs` with another
put beside it. -/
theorem no_stray_underscore {cs : List Char} (h : SingleUnderscores ('_' :: (cs ++ ['_']))) :
    cs.head? ≠ some '_' ∧ cs.getLast? ≠ some '_' ∧ ¬ ['_', '_'] <:+: cs := by
  have hpair : ¬ ['_', '_'] <:+: '_' :: (cs ++ ['_']) := by
    intro hinside
    have hchain := List.IsChain.infix h hinside
    exact absurd (List.isChain_cons_cons.1 hchain).1 (by simp)
  refine ⟨fun hhead => hpair ?_, fun hlast => hpair ?_, fun hinside => hpair ?_⟩
  · obtain ⟨rest, rfl⟩ := List.head?_eq_some_iff.1 hhead
    exact ⟨[], rest ++ ['_'], rfl⟩
  · obtain ⟨rest, rfl⟩ := List.getLast?_eq_some_iff.1 hlast
    exact ⟨'_' :: rest, [], by simp⟩
  · exact hinside.trans ⟨['_'], ['_'], by simp⟩

/-! ### Names -/

/-- The words `ws`, each behind an underscore. -/
def behindUnderscores (ws : List (List Char)) : List Char :=
  ws.flatMap fun w => '_' :: w.map Char.toUpper

theorem behindUnderscores_cons (w : List Char) (ws : List (List Char)) :
    behindUnderscores (w :: ws) = '_' :: (w.map Char.toUpper ++ behindUnderscores ws) := rfl

theorem intercalate_map_upper (w : List Char) (ws : List (List Char)) :
    List.intercalate ['_'] ((w :: ws).map (List.map Char.toUpper))
      = w.map Char.toUpper ++ behindUnderscores ws := by
  induction ws generalizing w with
  | nil => simp [behindUnderscores]
  | cons v ws ih =>
    rw [List.map_cons, List.map_cons, List.intercalate_cons_cons, ← List.map_cons, ih,
      behindUnderscores_cons, List.append_assoc, List.singleton_append]

/-- A character that is kept does not become an underscore by `toUpper`. -/
theorem toUpper_ne_underscore {c : Char} (h : c.isAlphanum = true) : c.toUpper ≠ '_' := by
  intro heq
  have hkept := isUpper_or_isDigit_toUpper h
  rw [heq] at hkept
  exact absurd hkept (by decide)

namespace Naming

/-- A name that is at a character `p` which was kept, and has written it in capitals last. -/
structure At (out : List Char) (p : Char) : Prop where
  kept : p.isAlphanum = true
  last : out.getLast? = some p.toUpper

variable {out cs : List Char} {p c : Char}

theorem At.ne_nil (h : At out p) : out ≠ [] := by
  rintro rfl
  exact absurd h.last (by simp)

theorem At.endsWithUnderscore (h : At out p) (before : Option Char) :
    (Naming.mk out before).endsWithUnderscore = false := by
  rw [Naming.endsWithUnderscore, h.last]
  exact beq_eq_false_iff_ne.2 fun heq => toUpper_ne_underscore h.kept (Option.some.inj heq)

theorem at_concat (out : List Char) (hc : c.isAlphanum = true) : At (out ++ [c.toUpper]) c :=
  ⟨hc, List.getLast?_concat⟩

theorem endsWithUnderscore_concat (out : List Char) (before : Option Char) :
    (Naming.mk (out ++ ['_']) before).endsWithUnderscore = true := by
  rw [endsWithUnderscore, List.getLast?_concat]
  rfl

theorem trimmed_of_at (h : At out p) (before : Option Char) :
    (Naming.mk out before).trimmed = out := by
  obtain ⟨init, rfl⟩ := List.getLast?_eq_some_iff.1 h.last
  have hp : (p.toUpper == '_') = false := beq_eq_false_iff_ne.2 (toUpper_ne_underscore h.kept)
  simp [trimmed, hp]

theorem trimmed_concat (out : List Char) (before : Option Char) :
    (Naming.mk (out ++ ['_']) before).trimmed = (Naming.mk out before).trimmed := by
  simp [trimmed]

/-- By `next`, what is not kept leaves one underscore behind what was kept. -/
theorem next_of_at_of_not (h : At out p) (hc : c.isAlphanum = false) :
    next ⟨out, some p⟩ c = ⟨out ++ ['_'], none⟩ := by
  have hempty : out.isEmpty = false := by simpa using h.ne_nil
  simp [next, hc, hempty, h.endsWithUnderscore]

theorem next_of_at (h : At out p) (hc : c.isAlphanum = true) :
    next ⟨out, some p⟩ c
      = ⟨(if startsWord p c then out ++ ['_'] else out) ++ [c.toUpper], some c⟩ := by
  simp [next, hc, h.endsWithUnderscore]

theorem next_of_apart_of_not (hc : c.isAlphanum = false) :
    next ⟨out ++ ['_'], none⟩ c = ⟨out ++ ['_'], none⟩ := by
  simp [next, hc, endsWithUnderscore_concat]

theorem next_of_none (out : List Char) (hc : c.isAlphanum = true) :
    next ⟨out, none⟩ c = ⟨out ++ [c.toUpper], some c⟩ := by
  simp [next, hc]

theorem next_empty_of_not (hc : c.isAlphanum = false) : next empty c = empty := by
  simp [next, hc, empty]

end Naming

open Naming in
/-- **What the pass leaves.** It is at a character `p` that was kept, and goes on with the word of
`p`; or behind an underscore, and what comes next opens a word; or at the beginning. -/
theorem trimmed_foldl_next (cs : List Char) :
    (∀ out p, At out p → ∀ w ws, words (p :: cs) = (p :: w) :: ws →
        (cs.foldl next ⟨out, some p⟩).trimmed
          = out ++ (w.map Char.toUpper ++ behindUnderscores ws))
      ∧ (∀ out p, At out p → (cs.foldl next ⟨out ++ ['_'], none⟩).trimmed
          = out ++ behindUnderscores (words cs))
      ∧ (cs.foldl next .empty).trimmed
          = List.intercalate ['_'] ((words cs).map (List.map Char.toUpper)) := by
  induction cs with
  | nil =>
    refine ⟨fun out p h w ws hws => ?_, fun out p h => ?_, rfl⟩
    · have hsingle : words [p] = [[p]] := words_cons_apart h.kept (by simp)
      obtain ⟨hw, rfl⟩ := List.cons.inj (hws.symm.trans hsingle)
      obtain rfl := (List.cons.inj hw).2
      rw [List.foldl_nil, trimmed_of_at h]
      simp [behindUnderscores]
    · rw [List.foldl_nil, trimmed_concat, trimmed_of_at h]
      simp [behindUnderscores, words]
  | cons c cs ih =>
    obtain ⟨ihKept, ihApart, ihStart⟩ := ih
    by_cases hc : c.isAlphanum = true
    · -- The word that `c` opens, if nothing before it joins it.
      obtain ⟨w, ws, hws⟩ : ∃ w ws, words (c :: cs) = (c :: w) :: ws := by
        rcases words_cons_cases cs hc with hown | ⟨w, ws, -, hjoined⟩
        · exact ⟨[], _, hown⟩
        · exact ⟨w, ws, hjoined⟩
      have hopened (out : List Char) := ihKept _ c (at_concat out hc) w ws hws
      refine ⟨fun out p h v vs hvs => ?_, fun out p h => ?_, ?_⟩
      · rw [List.foldl_cons, next_of_at h hc, hopened]
        cases hstarts : startsWord p c with
        | true =>
          have hown : words (p :: c :: cs) = [p] :: words (c :: cs) :=
            words_cons_apart h.kept (by simp [hstarts])
          rw [hown, hws] at hvs
          obtain ⟨hv, rfl⟩ := List.cons.inj hvs
          obtain rfl := (List.cons.inj hv).2
          simp [behindUnderscores_cons]
        | false =>
          obtain ⟨u, us, hus, hjoined⟩ := words_cons_joined cs h.kept hc hstarts
          rw [hws] at hus
          obtain ⟨rfl, rfl⟩ := List.cons.inj hus
          rw [hjoined] at hvs
          obtain ⟨hv, rfl⟩ := List.cons.inj hvs
          obtain rfl := (List.cons.inj hv).2
          simp
      · rw [List.foldl_cons, next_of_none _ hc, hopened, hws, behindUnderscores_cons]
        simp
      · rw [List.foldl_cons, Naming.empty, next_of_none _ hc, hopened, hws, intercalate_map_upper]
        simp
    · have hc : c.isAlphanum = false := Bool.eq_false_iff.2 hc
      have hskip : words (c :: cs) = words cs := words_cons_of_not hc
      refine ⟨fun out p h v vs hvs => ?_, fun out p h => ?_, ?_⟩
      · have hown : words (p :: c :: cs) = [p] :: words (c :: cs) :=
          words_cons_apart h.kept (by simp [hc])
        rw [hown, hskip] at hvs
        obtain ⟨hv, rfl⟩ := List.cons.inj hvs
        obtain rfl := (List.cons.inj hv).2
        rw [List.foldl_cons, next_of_at_of_not h hc, ihApart out p h]
        rfl
      · rw [List.foldl_cons, next_of_apart_of_not hc, ihApart out p h, hskip]
      · rw [List.foldl_cons, next_empty_of_not hc, ihStart, hskip]

/-- By `typeName` the words of the field stand in capitals before `VIOLATION`. -/
theorem typeName_eq (field : String) :
    let ws := (words field.toList).map (List.map Char.toUpper)
    typeName field = String.intercalate "_"
      ((if ws = [] then ["CONDITION"] else ws.map String.ofList) ++ ["VIOLATION"]) := by
  intro ws
  have htrimmed : (field.toList.foldl Naming.next .empty).trimmed = List.intercalate ['_'] ws :=
    (trimmed_foldl_next field.toList).2.2
  rw [typeName, htrimmed]
  by_cases hws : ws = []
  · rw [hws]
    rfl
  · have hempty : (List.intercalate ['_'] ws).isEmpty = false := by
      obtain ⟨w, rest, hrest⟩ := List.exists_cons_of_ne_nil hws
      obtain ⟨hne, -⟩ := mem_words_upper (hrest ▸ List.mem_cons_self : w ∈ ws)
      rw [hrest]
      cases rest <;> simp [List.intercalate_cons_cons, hne]
    rw [hempty, if_neg hws, String.intercalate_append_of_ne_nil (by simpa using hws)
      (List.cons_ne_nil _ _), String.intercalate_singleton]
    apply String.toList_inj.1
    simp [String.toList_intercalate, Function.comp_def]

/-- No underscore of `typeName field` is stray, since no word has one. -/
theorem no_stray_underscore_typeName (field : String) :
    (typeName field).toList.head? ≠ some '_' ∧ (typeName field).toList.getLast? ≠ some '_'
      ∧ ¬ ['_', '_'] <:+: (typeName field).toList := by
  apply no_stray_underscore
  rw [typeName_eq, String.toList_intercalate]
  refine singleUnderscores_intercalate (by simp) fun w hw => ?_
  obtain ⟨s, hs, rfl⟩ := List.mem_map.1 hw
  have hconstant : ∀ s ∈ ["CONDITION", "VIOLATION"], s.toList ≠ [] ∧ '_' ∉ s.toList := by decide
  rcases List.mem_append.1 hs with hs | hs
  · split at hs
    · exact hconstant s (List.mem_append_left ["VIOLATION"] hs)
    · obtain ⟨v, hv, rfl⟩ := List.mem_map.1 hs
      obtain ⟨hne, hupper⟩ := mem_words_upper hv
      rw [String.toList_ofList]
      exact ⟨hne, fun hmem => absurd (hupper '_' hmem) (by decide)⟩
  · exact hconstant s (List.mem_append_right ["CONDITION"] hs)

/-- **The name of a type, word by word.** In `typeName field`, words `ws` of capitals and digits
stand before the last word, with single underscores between them; there is none if and only if no
character of `field` is kept, and then another word stands for them. Together they are the letters
and digits of `field`, in capitals and in order. Of two that are kept one after the other, the
second starts a new word (`wordAt`) if and only if something else stood between them, or it is a
capital right after a small letter or a digit. -/
theorem typeName_words (field : String) :
    ∃ ws : List (List Char),
      typeName field = String.intercalate "_"
          ((if ws = [] then ["CONDITION"] else ws.map String.ofList) ++ ["VIOLATION"])
      ∧ (ws = [] ↔ ∀ c ∈ field.toList, c.isAlphanum = false)
      ∧ (∀ w ∈ ws, w ≠ [] ∧ ∀ c ∈ w, c.isUpper = true ∨ c.isDigit = true)
      ∧ ((typeName field).toList.head? ≠ some '_' ∧ (typeName field).toList.getLast? ≠ some '_'
        ∧ ¬ ['_', '_'] <:+: (typeName field).toList)
      ∧ ws.flatten = (field.toList.filter Char.isAlphanum).map Char.toUpper
      ∧ ∀ before a gap b after, field.toList = before ++ a :: (gap ++ b :: after) →
          a.isAlphanum = true → b.isAlphanum = true → (∀ c ∈ gap, c.isAlphanum = false) →
          let place := before.countP Char.isAlphanum
          (wordAt ws place ≠ wordAt ws (place + 1)
            ↔ gap ≠ [] ∨ b.isUpper = true ∧ (a.isLower = true ∨ a.isDigit = true)) := by
  refine ⟨_, typeName_eq field, ?_, fun w hw => mem_words_upper hw,
    no_stray_underscore_typeName field, ?_, ?_⟩
  · rw [List.map_eq_nil_iff, words_eq_nil_iff]
  · rw [← List.map_flatten, flatten_words]
  · intro before a gap b after hfield ha hb hgap place
    have hcut := wordAt_words_ne_iff before gap after ha hb hgap
    rw [← hfield, startsWord, Bool.and_eq_true, Bool.or_eq_true] at hcut
    rw [wordAt_map, wordAt_map]
    exact hcut

/-- A point and a capital after a digit start words, a digit after a letter does not. -/
theorem typeName_words_riskScore :
    typeName "custom.riskScore2Ext" = "CUSTOM_RISK_SCORE2_EXT_VIOLATION"
      ∧ ∃ ws, typeName "custom.riskScore2Ext"
          = String.intercalate "_" (ws.map String.ofList ++ ["VIOLATION"])
        ∧ ws.flatten = "CUSTOMRISKSCORE2EXT".toList
        ∧ wordAt ws 5 ≠ wordAt ws 6
        ∧ wordAt ws 14 = wordAt ws 15 ∧ wordAt ws 15 ≠ wordAt ws 16 := by
  refine ⟨by decide, ?_⟩
  obtain ⟨ws, hname, hnone, -, -, hflatten, hcut⟩ := typeName_words "custom.riskScore2Ext"
  have hflatten : ws.flatten = "CUSTOMRISKSCORE2EXT".toList := hflatten
  have hsome : ws ≠ [] := fun hnil => absurd (hnone.1 hnil 'c' (by decide)) (by decide)
  rw [if_neg hsome] at hname
  have hpoint := hcut "custo".toList 'm' ['.'] 'r' "iskScore2Ext".toList (by decide) (by decide)
    (by decide) (List.forall_mem_singleton.2 (by decide))
  have hdigit := hcut "custom.riskScor".toList 'e' [] '2' "Ext".toList (by decide) (by decide)
    (by decide) nofun
  have hcapital := hcut "custom.riskScore".toList '2' [] 'E' "xt".toList (by decide) (by decide)
    (by decide) nofun
  refine ⟨ws, hname, hflatten, hpoint.2 (by decide), ?_, hcapital.2 (by decide)⟩
  by_contra hne
  exact absurd (hdigit.1 hne) (by decide)

end Governance.Violation
