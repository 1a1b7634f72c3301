import Mathlib.Data.List.Forall2
import Governance.Json.Reader
import Governance.Json.Writer
import Governance.Proofs.Number.ReadBack

/-!
# Where written values end

A value in a document ends where its text says so, whatever follows it: a text at its closing quote,
an array at its closing bracket when every item ends by itself, a number at the first character that
no number has. So if two documents agree, their first values agree and what follows agrees too.

* `readText_flatMap`: the reader of texts gives back what was written.
* `quotedChars_append_inj`, `separated_append_inj`, `write_append_inj`: texts, rows and numbers can
  be told from what follows them.
-/

namespace Governance.Json

open Number

/-! ### Escapes -/

/-- The four digits of a control are read by `readHex4` as its number. -/
theorem readHex4_paddedHex {n : Nat} (h : n < 0x20) (rest : List Char) :
    readHex4 (Text.paddedHex 4 n ++ rest) = some (n, rest) := by
  have hdigits : ∀ n < 0x20,
      Text.paddedHex 4 n = ['0', '0', Nat.digitChar (n / 16), Nat.digitChar (n % 16)]
        ∧ hexValue? (Nat.digitChar (n / 16)) = some (n / 16)
        ∧ hexValue? (Nat.digitChar (n % 16)) = some (n % 16) := by decide
  obtain ⟨hpadded, hhigh, hlow⟩ := hdigits n h
  have hzero : hexValue? '0' = some 0 := by decide
  have hvalue : valueOfDigits 16 [0, 0, n / 16, n % 16] = n := by
    simp [valueOfDigits]
    omega
  simp [hpadded, readHex4, hzero, hhigh, hlow, hvalue]

theorem readNumbered_paddedHex {c : Char} (h : c.toNat < 0x20) (rest : List Char) :
    readNumbered (Text.paddedHex 4 c.toNat ++ rest) = some (c, rest) := by
  have hhigh : ¬ (0xD800 ≤ c.toNat ∧ c.toNat < 0xDC00) := by omega
  have hlow : ¬ (0xDC00 ≤ c.toNat ∧ c.toNat < 0xE000) := by omega
  simp [readNumbered, readHex4_paddedHex h, hhigh, hlow]

/-- An escape by `escapeChar` is read as the character that it stands for. -/
theorem readText_escapeChar (fuel : Nat) (acc : List Char) (c : Char) (rest : List Char) :
    readText (fuel + 1) acc (escapeChar c ++ rest) = readText fuel (c :: acc) rest := by
  unfold escapeChar
  split
  · next h => subst h; rfl
  split
  · next h => subst h; rfl
  split
  · next h => subst h; rfl
  split
  · next h => subst h; rfl
  split
  · next h => subst h; rfl
  split
  · next h =>
    obtain rfl : c = '\x08' := Char.toNat_inj.1 h
    rfl
  split
  · next h =>
    obtain rfl : c = '\x0c' := Char.toNat_inj.1 h
    rfl
  split
  · next h => simp [readText, readNumbered_paddedHex h]
  · next hslash _ _ _ _ _ h => simp [readText, hslash, h]

/-- **Texts are read back.** By `readText`, the characters `cs` of a text and a closing quote are
read as the text, and `rest` is left. -/
theorem readText_flatMap (cs acc rest : List Char) {fuel : Nat} (h : cs.length < fuel) :
    readText fuel acc (cs.flatMap escapeChar ++ '"' :: rest)
      = some (String.ofList (acc.reverse ++ cs), rest) := by
  induction cs generalizing acc fuel with
  | nil =>
    obtain ⟨fuel, rfl⟩ := Nat.exists_eq_add_one_of_ne_zero (Nat.ne_of_gt h)
    simp [readText]
  | cons c cs ih =>
    obtain ⟨fuel, rfl⟩ := Nat.exists_eq_add_one_of_ne_zero (Nat.ne_of_gt (Nat.zero_lt_of_lt h))
    rw [List.flatMap_cons, List.append_assoc, readText_escapeChar,
      ih (c :: acc) (by simpa using h)]
    simp

/-- A text that `quotedChars` writes ends at its closing quote. -/
theorem quotedChars_append_inj {s t : String} {r r' : List Char}
    (h : quotedChars s ++ r = quotedChars t ++ r') : s = t ∧ r = r' := by
  have hread (u : String) (rest : List Char) (fuel : Nat) (hfuel : u.toList.length < fuel) :
      readText fuel [] ((quotedChars u ++ rest).drop 1) = some (u, rest) := by
    simpa [quotedChars] using readText_flatMap u.toList [] rest hfuel
  have hs := hread s r (max s.toList.length t.toList.length + 1) (by omega)
  have ht := hread t r' (max s.toList.length t.toList.length + 1) (by omega)
  rw [h, ht] at hs
  obtain ⟨rfl, rfl⟩ := Prod.mk.inj (Option.some.inj hs)
  exact ⟨rfl, rfl⟩

/-! ### Rows -/

section Rows

variable {α : Type} {text : α → List Char} {opening closing : Char} {xs ys : List α}
  {r r' : List Char}

theorem separated_cons (piece : List Char) (rest : List (List Char)) :
    separated [','] (piece :: rest) = piece ++ rest.flatMap (',' :: ·) := by
  induction rest generalizing piece with
  | nil => simp [separated]
  | cons next rest ih =>
    rw [separated, ih, List.flatMap_cons]
    · simp
    · simp

/-- What stands after the first item of a row: it ends at `closing`, the first character that is no
comma. -/
theorem flatMap_comma_append_inj {Same : α → α → Prop} (hclosing : closing ≠ ',')
    (hends : ∀ x ∈ xs, ∀ y ∈ ys, ∀ r r', text x ++ r = text y ++ r' → Same x y ∧ r = r')
    (h : (xs.map text).flatMap (',' :: ·) ++ closing :: r
      = (ys.map text).flatMap (',' :: ·) ++ closing :: r') :
    List.Forall₂ Same xs ys ∧ r = r' := by
  induction xs generalizing ys with
  | nil =>
    cases ys with
    | nil => exact ⟨.nil, by simpa using h⟩
    | cons y ys => exact absurd h (by simp [hclosing])
  | cons x xs ih =>
    cases ys with
    | nil => exact absurd h (by simp [hclosing.symm])
    | cons y ys =>
      simp only [List.map_cons, List.flatMap_cons, List.cons_append, List.append_assoc,
        List.cons.injEq, true_and] at h
      obtain ⟨hsame, hrest⟩ := hends x List.mem_cons_self y List.mem_cons_self _ _ h
      obtain ⟨hall, hr⟩ := ih (fun x hx y hy => hends x (List.mem_cons_of_mem _ hx) y
        (List.mem_cons_of_mem _ hy)) hrest
      exact ⟨.cons hsame hall, hr⟩

/-- A row ends at `closing`, when each item ends by itself and none starts as the row closes. -/
theorem separated_append_inj {Same : α → α → Prop} (hclosing : closing ≠ ',')
    (hopening : opening ≠ closing) (hopens : ∀ x, ∃ rest, text x = opening :: rest)
    (hends : ∀ x ∈ xs, ∀ y ∈ ys, ∀ r r', text x ++ r = text y ++ r' → Same x y ∧ r = r')
    (h : separated [','] (xs.map text) ++ closing :: r
      = separated [','] (ys.map text) ++ closing :: r') :
    List.Forall₂ Same xs ys ∧ r = r' := by
  cases xs with
  | nil =>
    cases ys with
    | nil => exact ⟨.nil, by simpa [separated] using h⟩
    | cons y ys =>
      obtain ⟨rest, hrest⟩ := hopens y
      rw [List.map_cons, separated_cons, hrest] at h
      exact absurd h (by simp [separated, hopening.symm])
  | cons x xs =>
    cases ys with
    | nil =>
      obtain ⟨rest, hrest⟩ := hopens x
      rw [List.map_cons, separated_cons, hrest] at h
      exact absurd h (by simp [separated, hopening])
    | cons y ys =>
      rw [List.map_cons, List.map_cons, separated_cons, separated_cons, List.append_assoc,
        List.append_assoc] at h
      obtain ⟨hsame, hrest⟩ := hends x List.mem_cons_self y List.mem_cons_self _ _ h
      obtain ⟨hall, hr⟩ := flatMap_comma_append_inj hclosing (fun x hx y hy =>
        hends x (List.mem_cons_of_mem _ hx) y (List.mem_cons_of_mem _ hy)) hrest
      exact ⟨.cons hsame hall, hr⟩

end Rows

/-- An array of the texts `xs` ends at its closing bracket. -/
theorem texts_append_inj {xs ys : List String} {r r' : List Char}
    (h : separated [','] (xs.map quotedChars) ++ ']' :: r
      = separated [','] (ys.map quotedChars) ++ ']' :: r') : xs = ys ∧ r = r' := by
  have hopens (s : String) : ∃ rest, quotedChars s = '"' :: rest := ⟨_, rfl⟩
  obtain ⟨hall, hr⟩ := separated_append_inj (by decide) (by decide) hopens
    (fun _ _ _ _ _ _ => quotedChars_append_inj) h
  exact ⟨List.forall₂_eq_eq_eq ▸ hall, hr⟩

/-! ### Numbers -/

/-- A number written in `style` ends at `closing`, the first character that no number has. -/
theorem write_append_inj {style : Style} {x y : Binary64} {closing : Char} {r r' : List Char}
    (hx : x.isFinite = true) (hy : y.isFinite = true) (hclosing : ¬ IsNumeral closing)
    (h : (style.write x).toList ++ closing :: r = (style.write y).toList ++ closing :: r') :
    x.equal y = true ∧ r = r' := by
  have hends {z : Binary64} (hz : z.isFinite = true) (rest : List Char) :
      ((style.write z).toList ++ closing :: rest).takeWhile (· != closing)
        = (style.write z).toList := by
    have hnone : ∀ c ∈ (style.write z).toList, (c != closing) = true := fun c hc => by
      rw [bne_iff_ne]
      rintro rfl
      exact hclosing (Style.isNumeral_of_mem_write hz c hc)
    rw [List.takeWhile_append_of_pos hnone]
    simp
  have htexts : (style.write x).toList = (style.write y).toList := by
    rw [← hends hx r, ← hends hy r', h]
  rw [htexts] at h
  exact ⟨Style.equal_of_write_eq hx hy (String.toList_inj.1 htexts),
    (List.cons.inj (List.append_cancel_left h)).2⟩

end Governance.Json
