import Governance.Pattern.Library
import Governance.Pattern.Parser

/-!
# A library of patterns, written out

The library by which the program runs: patterns are read by `parse`, compiled to a `Node` whose size
is estimated without building it, and matched by the places that they reach.
-/

namespace Governance.Pattern

/-! ### Size -/

/-- Bytes that every compiled pattern takes. -/
def baseSize : Nat := 160

/-- Bytes of one step of a compiled pattern. -/
def stepSize : Nat := 32

/-- Bytes of a compiled pattern; copies of a repeated part are counted, not made. -/
def Node.size : Node Leaf → Nat
  | .empty => 0
  | .leaf (.char c) => stepSize + c.size
  | .leaf (.look _) => stepSize
  | .both x y => x.size + y.size
  | .either x y => x.size + y.size + stepSize
  | .repeated x least none => x.size * max least 1 + stepSize
  | .repeated x least (some most) => x.size * most + stepSize * (most - least)
  | .group x => x.size + 2 * stepSize

/-- Characters that a class may have for its words to be listed. -/
def classWordLimit : Nat := 10

/-- Copies that a repetition may have for its words to be listed. -/
def repetitionWordLimit : Nat := 10

/-- Words that a pattern may have to be matched by its words. -/
def wordLimit : Nat := 250

/-- How many words a pattern stands for, where they can be listed (`classWordLimit`,
`repetitionWordLimit`). -/
def Node.words? : Node Leaf → Option Nat
  | .empty => none
  | .leaf (.char c) => c.count?.filter (· ≤ classWordLimit)
  | .leaf (.look _) => none
  | .both x .empty => x.words?
  | .both x y => do some ((← x.words?) * (← y.words?))
  | .either x y => do some ((← x.words?) + (← y.words?))
  | .repeated x least most =>
    if most = some least ∧ 0 < least ∧ least ≤ repetitionWordLimit then
      x.words?.map (Nat.pow · least)
    else none
  | .group _ => none

/-- Whether the compiled pattern `n` stays within `limit` bytes. A pattern of a few words needs no
program. -/
def Node.fits (limit : Nat) (n : Node Leaf) : Bool :=
  n.words?.any (fun w => decide (0 < w ∧ w ≤ wordLimit)) || decide (baseSize + n.size ≤ limit)

theorem Node.fits_of_le {limit larger : Nat} {n : Node Leaf} (h : n.fits limit = true)
    (hle : limit ≤ larger) : n.fits larger = true := by
  rw [fits, Bool.or_eq_true, decide_eq_true_iff] at h ⊢
  exact h.imp_right fun hsize => Nat.le_trans hsize hle

/-! ### The library -/

/-- Reads the `pattern` and checks its size (`Node.fits`). -/
def Node.build (pattern : String) (sizeLimit : Nat) : Except BuildError (Node Leaf) :=
  match parse pattern with
  | .error fault => .error (.malformed fault.message)
  | .ok node => if node.fits sizeLimit then .ok node else .error .tooBig

theorem Node.build_eq_ok_iff {pattern : String} {sizeLimit : Nat} {node : Node Leaf} :
    build pattern sizeLimit = .ok node ↔ parse pattern = .ok node ∧ node.fits sizeLimit = true := by
  unfold build
  cases parse pattern with
  | error fault => simp
  | ok read =>
    by_cases hfits : read.fits sizeLimit = true
    · simp only [hfits, if_true, Except.ok.injEq]
      exact ⟨fun h => ⟨h, h ▸ hfits⟩, And.left⟩
    · simp only [hfits, Bool.false_eq_true, if_false, Except.ok.injEq]
      exact ⟨nofun, fun h => absurd (h.1 ▸ h.2) hfits⟩

instance : Library where
  Program := Node Leaf
  build := Node.build
  isMatch program text := program.isMatch text.toList
  build_mono hle h := by
    obtain ⟨node, hnode⟩ := h
    obtain ⟨hread, hfits⟩ := Node.build_eq_ok_iff.1 hnode
    exact ⟨node, Node.build_eq_ok_iff.2 ⟨hread, Node.fits_of_le hfits hle⟩⟩

end Governance.Pattern
