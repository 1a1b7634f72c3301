import Governance.Yaml.Fault

/-!
# Characters with their places

Layout is read off columns, so a file is a list of characters each of which knows its line and
column. Every spelling of a line break becomes one character: a line feed, or one of the two
separators that are kept as they are. Control characters are refused.
-/

namespace Governance.Yaml

/-- A character and its place; `line` and `column` count from zero. -/
structure Glyph where
  char : Char
  line : Nat
  column : Nat
deriving DecidableEq

/-! ### Kinds of characters -/

/-- Characters that a file may hold; the others are faults. -/
def isAllowed (c : Char) : Bool :=
  let n := c.toNat
  c == '\t' || c == '\n' || c == '\r' || decide (0x20 ≤ n ∧ n ≤ 0x7e) || n == 0x85
    || decide (0xa0 ≤ n ∧ n ≤ 0xfffd) || decide (0x10000 ≤ n)

/-- Line breaks, once their spelling is settled. -/
def isBreak (c : Char) : Bool := c == '\n' || c == '\u2028' || c == '\u2029'

def isSpacing (c : Char) : Bool := c == ' ' || c == '\t'

/-- Characters of names. -/
def isWordChar (c : Char) : Bool := c.isAlphanum || c == '_' || c == '-'

def Glyph.isBreak (g : Glyph) : Bool := Yaml.isBreak g.char

def Glyph.isSpacing (g : Glyph) : Bool := Yaml.isSpacing g.char

def Glyph.isWordChar (g : Glyph) : Bool := Yaml.isWordChar g.char

/-- The characters of the glyphs `gs`. -/
def chars (gs : List Glyph) : List Char := gs.map Glyph.char

/-! ### From text to glyphs -/

/-- Spells every line break with one character. -/
def settleBreaks : List Char → List Char
  | [] => []
  | '\r' :: '\n' :: cs => '\n' :: settleBreaks cs
  | c :: cs => (if c = '\r' ∨ c = '\u0085' then '\n' else c) :: settleBreaks cs

/-- Characters with their places, from a `line` and `column` on. -/
def place (line column : Nat) : List Char → List Glyph
  | [] => []
  | c :: cs =>
    ⟨c, line, column⟩ :: if isBreak c then place (line + 1) 0 cs else place line (column + 1) cs

theorem chars_place (line column : Nat) (cs : List Char) : chars (place line column cs) = cs := by
  induction cs generalizing line column with
  | nil => rfl
  | cons c cs ih =>
    unfold place
    split <;> simp [chars] <;> exact ih _ _

/-- A mark of the byte order, which may stand at the start and takes up a column. -/
def dropMark : List Glyph → List Glyph
  | g :: gs => if g.char = '\ufeff' then gs else g :: gs
  | [] => []

/-- The glyphs of a file (`settleBreaks`, `place`), if it holds nothing but characters that are
allowed. -/
def glyphs (text : String) : Except Fault (List Glyph) :=
  if text.toList.all isAllowed then .ok (dropMark (place 0 0 (settleBreaks text.toList)))
  else .error .controlCharacter

/-! ### What stands ahead -/

/-- Whether a word ends here: before spacing, a line break or the end. -/
def wordEnds : List Glyph → Bool
  | [] => true
  | g :: _ => g.isSpacing || g.isBreak

/-- Whether three times the character `c` stands alone at the start of a line. -/
def isMarker (c : Char) : List Glyph → Bool
  | x :: y :: z :: rest =>
    x.column == 0 && x.char == c && y.char == c && z.char == c && wordEnds rest
  | _ => false

/-- Whether a line starts at `gs` that separates documents. -/
def atMarker (gs : List Glyph) : Bool := isMarker '-' gs || isMarker '.' gs

/-- Whether the next character is `c`. -/
def startsWith (c : Char) : List Glyph → Bool
  | g :: _ => g.char == c
  | [] => false

/-- What follows the line, of which nothing may be left but spacing and a comment; `otherwise` is
the fault. -/
def nextLine (otherwise : Fault) (gs : List Glyph) : Except Fault (List Glyph) :=
  let afterSpacing := gs.dropWhile Glyph.isSpacing
  let tail :=
    if startsWith '#' afterSpacing then afterSpacing.dropWhile fun g => !g.isBreak
    else afterSpacing
  match tail with
  | [] => .ok []
  | g :: rest => if g.isBreak then .ok rest else .error otherwise

end Governance.Yaml
