import Governance.Yaml.BlockScalar

/-!
# Tokens

The marks and scalars that a file consists of. Blocks have no brackets in the file: where a line
is indented further than the block around it, a token opens a block, and where a line is indented
less, tokens close the blocks it has left. A key is known as one only when its colon is met, so the
token of a key, and that of the block it opens, go in front of tokens that are there already.

The place where a key may have started is kept until a colon comes. It is given up at the end of
the line or after 1024 characters, which is a fault when only a key may stand there.
-/

namespace Governance.Yaml

/-- A mark or scalar of a file. -/
inductive Token
  | version (major minor : Nat)
  | handle (name meaning : String)
  | documentStart
  | documentEnd
  | blockSequence
  | blockMapping
  | blockEnd
  | flowSequence
  | flowSequenceEnd
  | flowMapping
  | flowMappingEnd
  /-- The dash of an item of a block. -/
  | dash
  | comma
  | key
  | value
  | alias (name : String)
  | anchor (name : String)
  | tag (handle suffix : String)
  | scalar (s : Scalar)
deriving DecidableEq

/-! ### Layout -/

/-- Where a key may have started. -/
structure Candidate where
  /-- Whether nothing but a key may stand there. -/
  required : Bool
  /-- How many tokens stand in front of it. -/
  place : Nat
  line : Nat
  column : Nat

/-- Where the reader of tokens stands. -/
structure Layout where
  rest : List Glyph
  tokens : Array Token
  /-- The columns of the open blocks, innermost first. -/
  indents : List Nat
  /-- Where a key may have started inside the innermost brackets. -/
  candidate : Option Candidate
  /-- The same for each pair of brackets further out, innermost first, and outside all brackets. -/
  outer : List (Option Candidate)
  /-- Whether a key may start next. -/
  keyAllowed : Bool

namespace Layout

def start (gs : List Glyph) : Layout := ⟨gs, #[], [], none, [], true⟩

/-- Whether the reader is between brackets. -/
def inFlow (s : Layout) : Bool := !s.outer.isEmpty

def emit (t : Token) (s : Layout) : Layout := { s with tokens := s.tokens.push t }

/-! ### Blocks -/

/-- Opens a block at a `column` right of the innermost one, by the mark `t` in front of the token at
`place`. -/
def openBlock (t : Token) (column place : Nat) (s : Layout) : Layout :=
  if s.inFlow || s.indents.head?.any (column ≤ ·) then s
  else
    { s with
      indents := column :: s.indents
      tokens := s.tokens.insertIdxIfInBounds place t }

/-- Closes the blocks whose columns satisfy `isLeft`, from the innermost one on. -/
def closeBlocks (isLeft : Nat → Bool) (s : Layout) : Layout :=
  if s.inFlow then s
  else
    { s with
      indents := s.indents.dropWhile isLeft
      tokens := s.tokens ++ (s.indents.takeWhile isLeft).map fun _ => Token.blockEnd }

/-- Closes the blocks right of a `column`. -/
def closeBlocksBeyond (column : Nat) : Layout → Layout := closeBlocks (column < ·)

def closeAllBlocks : Layout → Layout := closeBlocks fun _ => true

/-! ### Keys -/

/-- Gives up a place where a key may have started; one that is `required` is a fault. -/
def giveUp : Option Candidate → Except Fault (Option Candidate)
  | some c => if c.required then .error .keyWithoutValue else .ok none
  | none => .ok none

/-- Gives up the place `c` if it lies on an earlier line or too far back. -/
def giveUpStale (line column : Nat) (c : Option Candidate) : Except Fault (Option Candidate) :=
  if c.any fun c => decide (c.line < line ∨ c.column + 1024 < column) then giveUp c else .ok c

/-- Gives up the `candidate` inside the innermost brackets. -/
def dropCandidate (s : Layout) : Except Fault Layout :=
  (giveUp s.candidate).map fun c => { s with candidate := c }

/-- Gives up all places that lie too far back of `g` (`giveUpStale`). -/
def dropStale (g : Glyph) (s : Layout) : Except Fault Layout := do
  let candidate ← giveUpStale g.line g.column s.candidate
  let outer ← s.outer.mapM (giveUpStale g.line g.column)
  .ok { s with candidate := candidate, outer := outer }

/-- Notes that a key may start at `g`, if one may. -/
def noteCandidate (g : Glyph) (s : Layout) : Except Fault Layout :=
  if s.keyAllowed then do
    let s ← s.dropCandidate
    let required := !s.inFlow && s.indents.head? == some g.column
    .ok { s with candidate := some ⟨required, s.tokens.size, g.line, g.column⟩ }
  else .ok s

/-! ### Marks -/

/-- Goes on with `rest`, behind what has been read. -/
def goOn (rest : List Glyph) (keyAllowed : Bool) (s : Layout) : Layout :=
  { s with rest := rest, keyAllowed := keyAllowed }

/-- A line that separates documents, told by `t`. -/
def documentMark (t : Token) (rest : List Glyph) (s : Layout) : Except Fault Layout := do
  let s ← s.closeAllBlocks.dropCandidate
  .ok ((s.emit t).goOn (rest.drop 2) false)

def openBracket (t : Token) (g : Glyph) (rest : List Glyph) (s : Layout) : Except Fault Layout := do
  let s ← s.noteCandidate g
  let s := (s.emit t).goOn rest true
  .ok { s with candidate := none, outer := s.candidate :: s.outer }

def closeBracket (t : Token) (rest : List Glyph) (s : Layout) : Except Fault Layout := do
  let s ← s.dropCandidate
  let s := (s.emit t).goOn rest false
  match s.outer with
  | candidate :: outer => .ok { s with candidate := candidate, outer := outer }
  | [] => .ok s

def comma (rest : List Glyph) (s : Layout) : Except Fault Layout := do
  let s ← s.dropCandidate
  .ok ((s.emit .comma).goOn rest true)

/-- A mark `t` that opens a `block` of its own when it stands outside brackets. -/
def blockMark (block t : Token) (otherwise : Fault) (keyAllowed : Bool) (g : Glyph)
    (rest : List Glyph) (s : Layout) : Except Fault Layout :=
  if s.inFlow then do
    let s ← s.dropCandidate
    .ok ((s.emit t).goOn rest keyAllowed)
  else if s.keyAllowed then do
    let s ← (s.openBlock block g.column s.tokens.size).dropCandidate
    .ok ((s.emit t).goOn rest keyAllowed)
  else .error otherwise

def dash (g : Glyph) (rest : List Glyph) (s : Layout) : Except Fault Layout :=
  s.blockMark .blockSequence .dash .entryOutOfPlace true g rest

/-- The mark in front of a key that is written out. -/
def keyMark (g : Glyph) (rest : List Glyph) (s : Layout) : Except Fault Layout :=
  s.blockMark .blockMapping .key .keyOutOfPlace (!s.inFlow) g rest

/-- The colon in front of a value. -/
def colon (g : Glyph) (rest : List Glyph) (s : Layout) : Except Fault Layout :=
  match s.candidate with
  | some c =>
    let s := { s with tokens := s.tokens.insertIdxIfInBounds c.place .key, candidate := none }
    .ok (((s.openBlock .blockMapping c.column c.place).emit .value).goOn rest false)
  | none => s.blockMark .blockMapping .value .valueOutOfPlace (!s.inFlow) g rest

/-! ### Names and tags -/

/-- The word at the start of `gs`. -/
def word (gs : List Glyph) : String := String.ofList (chars (gs.takeWhile Glyph.isWordChar))

def afterWord (gs : List Glyph) : List Glyph := gs.dropWhile Glyph.isWordChar

/-- Characters that may follow the name of an anchor without spacing. -/
def isNameEnd (c : Char) : Bool :=
  c == '?' || c == ':' || c == ',' || c == ']' || c == '\x7d' || c == '%' || c == '@'
    || c.toNat == 0x60

/-- An anchor or an alias: `t` makes the token of its name. -/
def named (t : String → Token) (g : Glyph) (rest : List Glyph) (s : Layout) :
    Except Fault Layout := do
  let s ← s.noteCandidate g
  let after := afterWord rest
  if word rest = "" ∨ ¬ (wordEnds after || after.head?.any fun g => isNameEnd g.char) then
    .error .anchorName
  else .ok ((s.emit (t (word rest))).goOn after false)

/-- Characters of tags; some stand only between angle brackets (`verbatim`) or in directives. -/
def isTagChar (verbatim : Bool) (c : Char) : Bool :=
  isWordChar c || ";/?:@&=+$.%!~*'()".contains c || (verbatim && ",[]".contains c)

/-- The bytes that some characters of a tag write, a percent sign and two digits for one byte. -/
def tagBytes : List Char → Option (List UInt8)
  | [] => some []
  | '%' :: a :: b :: rest => do
    let a ← Json.hexValue? a
    let b ← Json.hexValue? b
    let bytes ← tagBytes rest
    some (UInt8.ofNat (a * 16 + b) :: bytes)
  | c :: rest => if c = '%' then none else (tagBytes rest).map fun bytes => c.toUInt8 :: bytes

/-- A piece of a tag, and what follows it (`tagBytes`). -/
def tagText (verbatim : Bool) (gs : List Glyph) : Except Fault (String × List Glyph) :=
  let own := chars (gs.takeWhile fun g => isTagChar verbatim g.char)
  match (tagBytes own).bind fun bytes => String.fromUTF8? ⟨bytes.toArray⟩ with
  | some text => .ok (text, gs.dropWhile fun g => isTagChar verbatim g.char)
  | none => .error .tag

/-- The longest handle at the start of `gs`: an exclamation mark, a word, and perhaps another
mark. -/
def tagHandle (gs : List Glyph) : String × List Glyph :=
  let name := "!" ++ word (gs.drop 1)
  let after := afterWord (gs.drop 1)
  if startsWith '!' after then (name ++ "!", after.drop 1) else (name, after)

/-- A tag between angle brackets, behind them. -/
def verbatimTag (gs : List Glyph) : Except Fault (Token × List Glyph) := do
  let (text, rest) ← tagText true gs
  if text ≠ "" ∧ startsWith '>' rest then .ok (.tag "" text, rest.drop 1) else .error .tag

/-- A tag that starts with a handle (`tagHandle`); a single mark is a handle too. -/
def shortTag (gs : List Glyph) : Except Fault (Token × List Glyph) := do
  let (handle, rest) := tagHandle gs
  if handle.length > 1 ∧ handle.endsWith "!" then
    let (text, rest) ← tagText false rest
    if text = "" then .error .tag else .ok (.tag handle text, rest)
  else
    let (text, rest) ← tagText false (gs.drop 1)
    .ok (if text = "" then .tag "" "!" else .tag "!" text, rest)

def tag (g : Glyph) (rest : List Glyph) (s : Layout) : Except Fault Layout := do
  let s ← s.noteCandidate g
  let (t, after) ←
    if startsWith '<' rest then verbatimTag (rest.drop 1) else shortTag (g :: rest)
  if wordEnds after || (s.inFlow && startsWith ',' after) then .ok ((s.emit t).goOn after false)
  else .error .tag

/-! ### Directives -/

/-- A number of at most nine digits, and what follows it. -/
def versionNumber (gs : List Glyph) : Except Fault (Nat × List Glyph) :=
  let digits := (chars gs).takeWhile Number.isDigit
  match Number.natOfChars? digits with
  | some n =>
    if digits.length ≤ 9 then .ok (n, gs.drop digits.length) else .error .directive
  | none => .error .directive

def versionDirective (gs : List Glyph) : Except Fault (Token × List Glyph) := do
  let (major, rest) ← versionNumber (gs.dropWhile Glyph.isSpacing)
  if startsWith '.' rest then do
    let (minor, rest) ← versionNumber (rest.drop 1)
    .ok (.version major minor, rest)
  else .error .directive

def handleDirective (gs : List Glyph) : Except Fault (Token × List Glyph) := do
  let gs := gs.dropWhile Glyph.isSpacing
  let (handle, rest) := tagHandle gs
  if startsWith '!' gs ∧ (handle = "!" ∨ handle.endsWith "!")
      ∧ rest.head?.any Glyph.isSpacing then do
    let (meaning, rest) ← tagText true (rest.dropWhile Glyph.isSpacing)
    if meaning ≠ "" ∧ wordEnds rest then .ok (.handle handle meaning, rest)
    else .error .directive
  else .error .directive

def directive (rest : List Glyph) (s : Layout) : Except Fault Layout := do
  let s ← s.closeAllBlocks.dropCandidate
  let after := afterWord rest
  if !wordEnds after then .error .directive
  else
    let (t, after) ←
      if word rest = "YAML" then versionDirective after
      else if word rest = "TAG" then handleDirective after
      else .error .directive
    let after ← nextLine .directive after
    .ok ((s.emit t).goOn after false)

/-! ### Scalars -/

/-- A scalar on lines of its own (`blockScalar`). -/
def block (literal : Bool) (rest : List Glyph) (s : Layout) : Except Fault Layout := do
  let s ← s.dropCandidate
  let (scalar, after) ← blockScalar literal s.indents.head? rest
  .ok ((s.emit (.scalar scalar)).goOn after true)

/-- A scalar in quotes, of which `read` reads the inside. -/
def quoted (read : List Glyph → Except Fault (List Char × List Glyph)) (g : Glyph)
    (rest : List Glyph) (s : Layout) : Except Fault Layout := do
  let s ← s.noteCandidate g
  let (acc, after) ← read rest
  .ok ((s.emit (.scalar ⟨String.ofList acc.reverse, .quoted⟩)).goOn after false)

/-- Characters that a plain scalar does not start with. -/
def isReserved (c : Char) : Bool :=
  "-?:,[]\x7b\x7d#&*!|>'\"%@".contains c || c.toNat == 0x60

/-- Whether a plain scalar starts at `g`; between brackets, where `flow` is on, fewer may. -/
def startsPlain (flow : Bool) (g : Glyph) (rest : List Glyph) : Bool :=
  !(g.isSpacing || isReserved g.char) || (g.char == '-' && !wordEnds rest)
    || (!flow && (g.char == '?' || g.char == ':') && !wordEnds rest)

def plain (g : Glyph) (rest : List Glyph) (s : Layout) : Except Fault Layout := do
  let s ← s.noteCandidate g
  let indent := match s.indents with
    | [] => 0
    | column :: _ => column + 1
  let (acc, isBroken, after) ← plainFrom s.inFlow indent .none [] (g :: rest)
  .ok ((s.emit (.scalar ⟨String.ofList acc.reverse, .plain⟩)).goOn after isBroken)

/-! ### One token after another -/

/-- Skips spacing, comments and line breaks; outside brackets a key may start on a new line, and a
tab may not stand where a key may start. -/
def skipGap (flow : Bool) (inComment keyAllowed : Bool) : List Glyph → Bool × List Glyph
  | [] => (keyAllowed, [])
  | g :: rest =>
    if g.isBreak then skipGap flow false (keyAllowed || !flow) rest
    else if inComment then skipGap flow true keyAllowed rest
    else if g.char = ' ' ∨ g.char = '\t' ∧ (flow || !keyAllowed) then
      skipGap flow false keyAllowed rest
    else if g.char = '#' then skipGap flow true keyAllowed rest
    else (keyAllowed, g :: rest)

/-- The layout `s` before the next token (`skipGap`). -/
def skip (s : Layout) : Layout :=
  let (keyAllowed, rest) := skipGap s.inFlow false s.keyAllowed s.rest
  s.goOn rest keyAllowed

/-- Reads the token that starts with `g`. -/
def token (g : Glyph) (rest : List Glyph) (s : Layout) : Except Fault Layout :=
  let markEnds := s.inFlow || wordEnds rest
  if g.column = 0 ∧ g.char = '%' then s.directive rest
  else if isMarker '-' (g :: rest) then s.documentMark .documentStart rest
  else if isMarker '.' (g :: rest) then s.documentMark .documentEnd rest
  else if g.char = '[' then s.openBracket .flowSequence g rest
  else if g.char = '\x7b' then s.openBracket .flowMapping g rest
  else if g.char = ']' then s.closeBracket .flowSequenceEnd rest
  else if g.char = '\x7d' then s.closeBracket .flowMappingEnd rest
  else if g.char = ',' then s.comma rest
  else if g.char = '-' ∧ wordEnds rest then s.dash g rest
  else if g.char = '?' ∧ markEnds then s.keyMark g rest
  else if g.char = ':' ∧ markEnds then s.colon g rest
  else if g.char = '*' then s.named .alias g rest
  else if g.char = '&' then s.named .anchor g rest
  else if g.char = '!' then s.tag g rest
  else if g.char = '|' ∧ !s.inFlow then s.block true rest
  else if g.char = '>' ∧ !s.inFlow then s.block false rest
  else if g.char = '\'' then s.quoted (singleQuotedFrom .none []) g rest
  else if g.char = '"' then s.quoted (doubleQuotedFrom .none []) g rest
  else if startsPlain s.inFlow g rest then s.plain g rest
  else .error .noToken

/-- The tokens, with those that the end of the file closes. -/
def finish (s : Layout) : Except Fault (List Token) := do
  let s ← s.closeAllBlocks.dropCandidate
  .ok s.tokens.toList

/-- Reads at most `allowance` tokens, one after another. -/
def readAll : Nat → Layout → Except Fault (List Token)
  | 0, s => s.finish
  | allowance + 1, s => do
    let s := s.skip
    match s.rest with
    | [] => s.finish
    | g :: rest =>
      let s ← s.dropStale g
      let s ← (s.closeBlocksBeyond g.column).token g rest
      readAll allowance s

end Layout

/-- The tokens of the `text` of a file; each takes up a character at least. -/
def Token.ofText (text : String) : Except Fault (List Token) := do
  let gs ← glyphs text
  Layout.readAll (gs.length + 1) (.start gs)

end Governance.Yaml
