import Governance.Condition.Issue
import Governance.Proofs.Number.ReadBack

/-!
# The paths of places

A place in a written condition is shown as a path: the steps down to a node, and the part of the
node that is meant. The root has a path of its own.

* `Place.text_inj`: different places have different paths.
* `Place.textUnder_eq_rebase`: what is shown under a base is the path with the base in front.
* `Place.text_append_way`: so it is for places below a node, with the path to the node as base.
-/

namespace Governance

open Number

/-! ### Paths -/

/-- The path that goes down to the child of each index of `way` in turn. -/
def steps (way : List Nat) : String :=
  String.join (way.map fun (i : Nat) => "/conditions/" ++ intText i)

/-- A path seen from above, where `base` leads to what was the root. -/
def rebase (base path : String) : String := if path = "/" then base else base ++ path

/-- The characters of the path that `steps` gives. -/
def stepChars (way : List Nat) : List Char :=
  way.flatMap fun i => "/conditions/".toList ++ digitChars i

theorem toList_intText (n : Nat) : (intText n).toList = digitChars n := by
  have hpos : ¬(n : Int) < 0 := by omega
  simp [intText, intChars, hpos]

theorem toList_steps (way : List Nat) : (steps way).toList = stepChars way := by
  simp only [steps, stepChars, String.toList_join, List.flatMap_map, String.toList_append,
    toList_intText]

theorem steps_append (way rest : List Nat) : steps (way ++ rest) = steps way ++ steps rest := by
  apply String.toList_inj.1
  simp only [String.toList_append, toList_steps, stepChars, List.flatMap_append]

/-- A number of digits ends where something else begins, so `m` and what follows it can be told
apart. -/
theorem digitChars_append_inj {m n : Nat} {r r' : List Char}
    (hr : ∀ c ∈ r.head?, isDigit c = false) (hr' : ∀ c ∈ r'.head?, isDigit c = false)
    (h : digitChars m ++ r = digitChars n ++ r') : m = n ∧ r = r' := by
  obtain ⟨htake, hdrop⟩ := takeWhile_digits (fun c hc => isDigit_of_mem_digitChars (n := m) hc) hr
  obtain ⟨htake', hdrop'⟩ :=
    takeWhile_digits (fun c hc => isDigit_of_mem_digitChars (n := n) hc) hr'
  rw [h, htake'] at htake
  rw [h, hdrop'] at hdrop
  refine ⟨?_, hdrop.symm⟩
  rw [← valueOfChars_digitChars m, ← valueOfChars_digitChars n, htake]

namespace Place

theorem pointer_eq (p : Place) : p.pointer = steps p.way ++ p.part.text := rfl

/-- No digit follows the number of a step in `stepChars`. -/
theorem isDigit_head?_stepChars (way : List Nat) (part : NodePart) :
    ∀ c ∈ (stepChars way ++ part.text.toList).head?, isDigit c = false := by
  intro c hc
  have hslash : ∀ c ∈ (stepChars way ++ part.text.toList).head?, c = '/' := by
    cases way with
    | nil => cases part <;> simp [stepChars, NodePart.text]
    | cons i way => simp [stepChars]
  rw [hslash c hc]
  decide

/-- **A path tells the steps and the part**: `way` and `part` can be read off. -/
theorem stepChars_append_inj {way way' : List Nat} {part part' : NodePart}
    (h : stepChars way ++ part.text.toList = stepChars way' ++ part'.text.toList) :
    way = way' ∧ part = part' := by
  induction way generalizing way' with
  | nil =>
    cases way' with
    | nil => cases part <;> cases part' <;> simp_all [stepChars, NodePart.text]
    | cons i way' => cases part <;> simp [stepChars, NodePart.text] at h
  | cons i way ih =>
    cases way' with
    | nil => cases part' <;> simp [stepChars, NodePart.text] at h
    | cons j way' =>
      have hnext : digitChars i ++ (stepChars way ++ part.text.toList)
          = digitChars j ++ (stepChars way' ++ part'.text.toList) := by
        simpa [stepChars] using h
      obtain ⟨rfl, hrest⟩ := digitChars_append_inj (isDigit_head?_stepChars way part)
        (isDigit_head?_stepChars way' part') hnext
      obtain ⟨rfl, rfl⟩ := ih hrest
      exact ⟨rfl, rfl⟩

theorem toList_pointer (p : Place) :
    p.pointer.toList = stepChars p.way ++ p.part.text.toList := by
  rw [pointer_eq, String.toList_append, toList_steps]

theorem pointer_inj {p q : Place} (h : p.pointer = q.pointer) : p = q := by
  have hchars := congrArg String.toList h
  rw [toList_pointer, toList_pointer] at hchars
  obtain ⟨way, part⟩ := p
  obtain ⟨way', part'⟩ := q
  obtain ⟨rfl, rfl⟩ := stepChars_append_inj hchars
  rfl

/-- The path `/` of the root is that of no other place. -/
theorem pointer_ne_slash (p : Place) : p.pointer ≠ "/" := by
  intro h
  have hchars := congrArg String.toList h
  rw [toList_pointer] at hchars
  obtain ⟨way, part⟩ := p
  cases way with
  | nil => cases part <;> simp [stepChars, NodePart.text] at hchars
  | cons i way => simp [stepChars] at hchars

/-- **Different places have different paths**: `text` is injective. -/
theorem text_inj {p q : Place} (h : p.text = q.text) : p = q := by
  apply pointer_inj
  unfold text at h
  split at h <;> split at h
  · next hp hq => rw [String.isEmpty_iff.1 hp, String.isEmpty_iff.1 hq]
  · exact absurd h.symm q.pointer_ne_slash
  · exact absurd h p.pointer_ne_slash
  · exact h

/-- With the path of the root read as no step, `p.text` is `p.pointer`. -/
theorem pointer_of_text (p : Place) : (if p.text = "/" then "" else p.text) = p.pointer := by
  unfold text
  by_cases hempty : p.pointer.isEmpty = true
  · rw [if_pos hempty, if_pos rfl, String.isEmpty_iff.1 hempty]
  · rw [if_neg hempty, if_neg p.pointer_ne_slash]

/-- **What is under a base is seen from above**: `textUnder` is `rebase` of the path. -/
theorem textUnder_eq_rebase (base : String) (p : Place) :
    p.textUnder base = rebase base p.text := by
  rw [textUnder, ← pointer_of_text, rebase]
  split
  · exact String.append_empty
  · rfl

/-- A place below the end of `way` has the path of the way in front. -/
theorem text_append_way {way : List Nat} (hway : way ≠ []) (p : Place) :
    text ⟨way ++ p.way, p.part⟩ = rebase (steps way) p.text := by
  have hpointer : pointer ⟨way ++ p.way, p.part⟩ = p.textUnder (steps way) := by
    rw [pointer_eq, textUnder, pointer_eq, steps_append, String.append_assoc]
  have hne : (p.textUnder (steps way)).isEmpty ≠ true := by
    intro hempty
    have hchars := congrArg String.toList (String.isEmpty_iff.1 hempty)
    rw [textUnder, String.toList_append, toList_steps] at hchars
    cases way with
    | nil => exact hway rfl
    | cons i way => simp [stepChars] at hchars
  rw [text, hpointer, if_neg hne, textUnder_eq_rebase]

end Place

end Governance
