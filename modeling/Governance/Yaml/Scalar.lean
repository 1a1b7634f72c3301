import Governance.Json.Reader
import Governance.Yaml.Glyph

/-!
# Scalars on the lines of their surroundings

Plain scalars, which end where an indicator says so, and scalars in quotes. Both may run over
several lines: between two words a single line break becomes a blank, and of several breaks the
first is dropped. Spacing on one line is kept, and at the ends of a line it is not.
-/

namespace Governance.Yaml

/-- How a `Scalar` is written. -/
inductive ScalarStyle
  | plain
  | quoted
  | literal
  | folded
deriving DecidableEq

/-- A scalar: its `text` after folding and escapes, and how it was written. -/
structure Scalar where
  text : String
  style : ScalarStyle
deriving DecidableEq

/-- The plain scalar that stands where nothing is written. -/
def Scalar.empty : Scalar := ⟨"", .plain⟩

/-! ### Gaps between words -/

/-- What separates two words; the last character comes first. -/
inductive Gap
  | spacing (cs : List Char)
  /-- Line breaks; the first is absent when it was escaped. -/
  | breaks (first : Option Char) (more : List Char)

namespace Gap

/-- No gap at all. -/
def none : Gap := spacing []

def isBroken : Gap → Bool
  | spacing _ => false
  | breaks _ _ => true

def isNone : Gap → Bool
  | spacing cs => cs.isEmpty
  | breaks _ _ => false

/-- The gap with one more character `c` of spacing, which counts on a single line only. -/
def addSpacing (c : Char) : Gap → Gap
  | spacing cs => spacing (c :: cs)
  | breaks first more => breaks first more

/-- The gap with one more line break `c`. -/
def addBreak (c : Char) : Gap → Gap
  | spacing _ => breaks (some c) []
  | breaks first more => breaks first (c :: more)

/-- What the gap leaves in the text, last character first. -/
def folded : Gap → List Char
  | spacing cs => cs
  | breaks (some first) more =>
    if first = '\n' then if more.isEmpty then [' '] else more else more ++ [first]
  | breaks Option.none more => more

/-- A single line feed is `folded` to a blank. -/
theorem folded_lineFeed : (Gap.none.addBreak '\n').folded = [' '] := rfl

end Gap

/-! ### Plain scalars -/

/-- Whether what stands behind a `gap` is no part of the scalar in front of it: `g` and the glyphs
after it. -/
def endsBehind (flow : Bool) (indent : Nat) (gap : Gap) (g : Glyph) (rest : List Glyph) : Bool :=
  (gap.isBroken && !flow && decide (g.column < indent)) || atMarker (g :: rest)
    || (g.char == '#' && !gap.isNone)

/-- Whether `g`, followed by `rest`, is an indicator that ends a plain scalar. -/
def isIndicator (flow : Bool) (g : Glyph) (rest : List Glyph) : Bool :=
  (g.char == ':' && wordEnds rest)
    || (flow && (g.char == ',' || g.char == '[' || g.char == ']' || g.char == '\x7b'
      || g.char == '\x7d'))

/-- Whether a colon stands where neither a key nor a scalar may end. -/
def isStrayColon (flow : Bool) (g : Glyph) : List Glyph → Bool
  | h :: _ =>
    flow && g.char == ':' && (h.char == ',' || h.char == '?' || h.char == '[' || h.char == ']'
      || h.char == '\x7b' || h.char == '\x7d')
  | [] => false

/-- The rest of a plain scalar, in a block of the indentation `indent`: its characters, last one
first, whether line breaks follow, and what comes after. `acc` holds the characters before the
`gap`. -/
def plainFrom (flow : Bool) (indent : Nat) (gap : Gap) (acc : List Char) :
    List Glyph → Except Fault (List Char × Bool × List Glyph)
  | [] => .ok (acc, gap.isBroken, [])
  | g :: rest =>
    if g.isSpacing then
      if gap.isBroken && decide (g.column < indent) && g.char == '\t' then .error .tab
      else plainFrom flow indent (gap.addSpacing g.char) acc rest
    else if g.isBreak then plainFrom flow indent (gap.addBreak g.char) acc rest
    else if endsBehind flow indent gap g rest then .ok (acc, gap.isBroken, g :: rest)
    else if isStrayColon flow g rest then .error .colon
    else if isIndicator flow g rest then .ok (acc, gap.isBroken, g :: rest)
    else plainFrom flow indent .none (g.char :: (gap.folded ++ acc)) rest

/-! ### Single quotes -/

/-- The rest of a scalar in single quotes, in which a quote is written twice. -/
def singleQuotedFrom (gap : Gap) (acc : List Char) :
    List Glyph → Except Fault (List Char × List Glyph)
  | [] => .error .quoteUnclosed
  | g :: rest =>
    if atMarker (g :: rest) then .error .markerInQuote
    else if g.isSpacing then singleQuotedFrom (gap.addSpacing g.char) acc rest
    else if g.isBreak then singleQuotedFrom (gap.addBreak g.char) acc rest
    else if g.char = '\'' then
      match rest with
      | [] => .ok (gap.folded ++ acc, [])
      | h :: more =>
        if h.char = '\'' then singleQuotedFrom .none ('\'' :: (gap.folded ++ acc)) more
        else .ok (gap.folded ++ acc, h :: more)
    else singleQuotedFrom .none (g.char :: (gap.folded ++ acc)) rest

/-! ### Double quotes -/

/-- Escapes of a single character. -/
def escapes : List (Char × Char) :=
  [('0', '\x00'), ('a', '\x07'), ('b', '\x08'), ('t', '\t'), ('\t', '\t'), ('n', '\n'),
   ('v', '\x0b'), ('f', '\x0c'), ('r', '\r'), ('e', '\x1b'), (' ', ' '), ('"', '"'), ('/', '/'),
   ('\\', '\\'), ('N', '\u0085'), ('_', '\u00a0'), ('L', '\u2028'), ('P', '\u2029')]

/-- How many digits a numbered escape has. -/
def numberedWidth : Char → Nat
  | 'x' => 2
  | 'u' => 4
  | 'U' => 8
  | _ => 0

/-- The character of a number of `width` digits in base sixteen. -/
def numbered? (width : Nat) (cs : List Char) : Option Char := do
  let digits ← cs.mapM Json.hexValue?
  let n := Number.valueOfDigits 16 digits
  if digits.length = width ∧ n.isValidChar then some (Char.ofNat n) else none

/-- The rest of a scalar in double quotes, in which a backslash starts an escape (`escapes`,
`numbered?`). -/
def doubleQuotedFrom (gap : Gap) (acc : List Char) (gs : List Glyph) :
    Except Fault (List Char × List Glyph) :=
  match gs with
  | [] => .error .quoteUnclosed
  | g :: rest =>
    if atMarker (g :: rest) then .error .markerInQuote
    else if g.isSpacing then doubleQuotedFrom (gap.addSpacing g.char) acc rest
    else if g.isBreak then doubleQuotedFrom (gap.addBreak g.char) acc rest
    else if g.char = '"' then .ok (gap.folded ++ acc, rest)
    else if g.char = '\\' then
      match rest with
      | [] => .error .escape
      | h :: more =>
        if h.isBreak then doubleQuotedFrom (.breaks none []) (gap.folded ++ acc) more
        else if 0 < numberedWidth h.char then
          match numbered? (numberedWidth h.char) (chars (more.take (numberedWidth h.char))) with
          | some c =>
            doubleQuotedFrom .none (c :: (gap.folded ++ acc)) (more.drop (numberedWidth h.char))
          | none => .error .escape
        else
          match escapes.lookup h.char with
          | some c => doubleQuotedFrom .none (c :: (gap.folded ++ acc)) more
          | none => .error .escape
    else doubleQuotedFrom .none (g.char :: (gap.folded ++ acc)) rest
termination_by gs.length
decreasing_by all_goals simp +arith

end Governance.Yaml
