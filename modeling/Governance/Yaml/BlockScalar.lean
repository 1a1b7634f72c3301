import Governance.Yaml.Scalar

/-!
# Scalars on lines of their own

A block scalar takes the lines that follow its header and are indented far enough: as far as the
header says, or else as far as its first line with text. In the literal style every line break
stays; in the folded style a single break between two lines of text becomes a blank, unless one of
the lines starts with spacing. The header also says which breaks at the end stay.
-/

namespace Governance.Yaml

/-! ### Lines -/

/-- A line: its `body`, the break behind it, and the text from the line on. -/
structure Line where
  body : List Glyph
  ending : Option Char
  fromHere : List Glyph

/-- The lines of a text, as a block scalar reads them. -/
def linesOf : List Glyph → List Line
  | [] => []
  | g :: rest =>
    if g.isBreak then ⟨[], some g.char, g :: rest⟩ :: linesOf rest
    else
      match linesOf rest with
      | [] => [⟨[g], none, g :: rest⟩]
      | line :: more => ⟨g :: line.body, line.ending, g :: rest⟩ :: more

/-- The text that some lines begin (`fromHere` of the first). -/
def textFrom : List Line → List Glyph
  | [] => []
  | line :: _ => line.fromHere

theorem textFrom_linesOf (gs : List Glyph) : textFrom (linesOf gs) = gs := by
  cases gs with
  | nil => rfl
  | cons g rest =>
    unfold linesOf
    split
    · rfl
    · split <;> rfl

/-- How many blanks a `line` starts with. -/
def Line.indentation (line : Line) : Nat := (line.body.takeWhile fun g => g.char == ' ').length

/-- The `line` without its first `width` blanks. -/
def Line.without (width : Nat) (line : Line) : List Glyph :=
  line.body.drop (min width line.indentation)

/-! ### Headers -/

/-- Which line breaks stay at the end of a block scalar. -/
inductive Chomping
  /-- The break behind the last line with text. -/
  | clip
  /-- None. -/
  | strip
  /-- All of them. -/
  | keep
deriving DecidableEq

def readChomping : List Glyph → Option Chomping × List Glyph
  | g :: rest =>
    if g.char = '+' then (some .keep, rest)
    else if g.char = '-' then (some .strip, rest)
    else (none, g :: rest)
  | [] => (none, [])

/-- A width, which is no zero. -/
def readWidth : List Glyph → Except Fault (Option Nat × List Glyph)
  | g :: rest =>
    match Number.digitValue? g.char with
    | some 0 => .error .blockHeader
    | some n => .ok (some n, rest)
    | none => .ok (none, g :: rest)
  | [] => .ok (none, [])

/-- What the header of a block scalar says. -/
structure BlockHeader where
  chomping : Chomping
  /-- By how much the lines are indented, if the header says so. -/
  width : Option Nat

/-- The header of a block scalar, behind its indicator, and the lines after it (`linesOf`). -/
def BlockHeader.read (gs : List Glyph) : Except Fault (BlockHeader × List Line) := do
  let (before, rest) := readChomping gs
  let (width, rest) ← readWidth rest
  let (after, rest) :=
    if before.isNone && width.isSome then readChomping rest else (none, rest)
  let rest ← nextLine .blockHeader rest
  .ok (⟨(before.or after).getD .clip, width⟩, linesOf rest)

/-! ### Indentation -/

/-- The greatest indentation among the empty lines in front of the text and its first line. -/
def widestStart : Nat → List Line → Except Fault Nat
  | widest, [] => .ok widest
  | widest, line :: more =>
    match line.body.drop line.indentation with
    | [] =>
      if line.ending.isSome then widestStart (max widest line.indentation) more
      else .ok (max widest line.indentation)
    | g :: _ =>
      if g.char = '\t' then .error .tab else .ok (max widest line.indentation)

/-- The indentation of a block scalar with the header `h` inside a block whose own is `outer`. -/
def BlockHeader.indentation (h : BlockHeader) (outer : Option Nat) (lines : List Line) :
    Except Fault Nat :=
  match h.width with
  | some width => .ok (outer.getD 0 + width)
  | none => (widestStart 0 lines).map fun widest =>
      max (max widest (match outer with | some n => n + 1 | none => 0)) 1

/-! ### Folding -/

/-- The text so far, last character first, and the breaks behind it. -/
structure Folding where
  acc : List Char
  /-- The break behind the last line with text. -/
  lineBreak : Option Char
  /-- The breaks of empty lines after it, last one first. -/
  emptyLines : List Char
  /-- Whether the last line with text starts with spacing. -/
  isSpaced : Bool

namespace Folding

def start : Folding := ⟨[], none, [], false⟩

/-- The text of `s` with a further line. -/
def addLine (literal : Bool) (s : Folding) (text : List Glyph) (ending : Option Char) : Folding :=
  let isSpaced := text.head?.any Glyph.isSpacing
  let joint :=
    if !literal && s.lineBreak == some '\n' && !s.isSpaced && !isSpaced then
      if s.emptyLines.isEmpty then [' '] else s.emptyLines
    else s.emptyLines ++ s.lineBreak.toList
  { acc := (chars text).reverse ++ (joint ++ s.acc)
    lineBreak := ending
    emptyLines := []
    isSpaced := isSpaced }

/-- The whole text, its last breaks as `c` says. -/
def finish (c : Chomping) (s : Folding) : String :=
  let tail := match c with
    | .strip => []
    | .clip => s.lineBreak.toList
    | .keep => s.emptyLines ++ s.lineBreak.toList
  String.ofList (tail ++ s.acc).reverse

end Folding

/-- Folds the lines that are indented by `indent`; gives the lines after them. -/
def foldLines (literal : Bool) (indent : Nat) :
    Folding → List Line → Except Fault (Folding × List Line)
  | s, [] => .ok (s, [])
  | s, line :: more =>
    match line.without indent with
    | [] =>
      match line.ending with
      | some c => foldLines literal indent { s with emptyLines := c :: s.emptyLines } more
      | none => .ok (s, [])
    | g :: rest =>
      if g.column < indent then
        if g.char = '\t' then .error .tab else .ok (s, line :: more)
      else foldLines literal indent (s.addLine literal (g :: rest) line.ending) more

/-- The rest of a block scalar behind its indicator, and what comes after; `outer` is the
indentation of the block around it. -/
def blockScalar (literal : Bool) (outer : Option Nat) (gs : List Glyph) :
    Except Fault (Scalar × List Glyph) := do
  let (header, lines) ← BlockHeader.read gs
  let indent ← header.indentation outer lines
  let (s, after) ← foldLines literal indent .start lines
  .ok (⟨s.finish header.chomping, if literal then .literal else .folded⟩, textFrom after)

end Governance.Yaml
