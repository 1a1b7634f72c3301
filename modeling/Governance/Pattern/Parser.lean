import Governance.Pattern.Node
import Governance.Json.Reader

/-!
# Reading patterns

The written form of patterns: classes, groups with flags and names, repetition counts, escapes,
places, and a free layout under the flag `x`. The reader carries the rest of the text, the flags in
force and the names of groups so far. Each call takes a smaller allowance, which the length of the
pattern bounds. Nesting is limited.
-/

namespace Governance.Pattern

open Number (isDigit valueOfDigits)
open Text (isBlank)

/-- Why `parseChars` cannot read a pattern. -/
inductive Fault
  | groupUnclosed
  | groupUnopened
  | groupName
  | groupNameTwice
  | lookAround
  | backReference
  | nothingToRepeat
  | repetitionCount
  | flag
  | escape
  | codePoint
  | property
  | classUnclosed
  | classRange
  | classItem
  | tooDeep
  | notText
deriving DecidableEq

/-- All faults, each once. -/
def Fault.all : List Fault :=
  [groupUnclosed, groupUnopened, groupName, groupNameTwice, lookAround, backReference,
   nothingToRepeat, repetitionCount, flag, escape, codePoint, property, classUnclosed, classRange,
   classItem, tooDeep, notText]

def Fault.message : Fault → String
  | groupUnclosed => "unclosed group"
  | groupUnopened => "unopened group"
  | groupName => "invalid capture group name"
  | groupNameTwice => "duplicate capture group name"
  | lookAround => "look-around is not supported"
  | backReference => "backreferences are not supported"
  | nothingToRepeat => "repetition operator missing expression"
  | repetitionCount => "invalid repetition count"
  | flag => "invalid flags"
  | escape => "unrecognized escape sequence"
  | codePoint => "invalid code point"
  | property => "property not found"
  | classUnclosed => "unclosed character class"
  | classRange => "invalid character class range"
  | classItem => "invalid item in character class"
  | tooDeep => "exceeded the maximum nesting"
  | notText => "pattern can match invalid text"

theorem Fault.mem_all (f : Fault) : f ∈ all := by cases f <;> decide

/-- Nesting beyond `nestingLimit` is refused. -/
def nestingLimit : Nat := 250

/-- Flags that groups set. -/
structure Flags where
  caseless : Bool
  multiLine : Bool
  dotAll : Bool
  unicode : Bool
  carriageReturns : Bool
  verbose : Bool

def Flags.initial : Flags := ⟨false, false, false, true, false, false⟩

/-- Where a reader stands: what is left (`rest`), and the `flags` in force. -/
structure State where
  rest : List Char
  flags : Flags
  names : List (List Char)

/-- A pattern with its nesting. `setsFlags` marks what only sets flags and cannot be repeated. -/
structure Piece where
  node : Node Leaf
  nesting : Nat
  setsFlags : Bool

/-! ### Blanks and comments -/

/-- Skips blanks and comments, which run to the end of their line. -/
def skipLayout (inComment : Bool) : List Char → List Char
  | [] => []
  | c :: rest =>
    if inComment then skipLayout (c ≠ '\n') rest
    else if isBlank c then skipLayout false rest
    else if c = '#' then skipLayout true rest
    else c :: rest

/-- Skips layout where `flags` allow it. -/
def Flags.skip (flags : Flags) (cs : List Char) : List Char :=
  if flags.verbose then skipLayout false cs else cs

/-! ### Leaves -/

/-- The class `c`, if the `flags` in force allow it; without Unicode it must hold ASCII alone. -/
def Flags.checkClass (flags : Flags) (c : CharClass) : Except Fault CharClass :=
  if flags.unicode then .ok c
  else if c.hasHighByte then .error .notText
  else .ok (.inter .ascii c)

/-- The class `c`, closed under case where `flags` ask for it. -/
def Flags.fold (flags : Flags) (c : CharClass) : CharClass :=
  if flags.caseless then if flags.unicode then .caseless c else .caselessAscii c else c

/-- What an escape or a plain character stands for. -/
inductive Atom
  | literal (c : Char) (isByte : Bool)
  | set (c : CharClass)
  | look (l : Look)

/-- The pattern of a character `c` that stands for itself. -/
def Flags.literal (flags : Flags) (c : Char) (isByte : Bool) : Except Fault (Node Leaf) :=
  if !flags.unicode && isByte && decide (0x80 ≤ c.toNat) then .error .notText
  else .ok (.leaf (.char (flags.fold (.single c))))

def Flags.dot (flags : Flags) : Except Fault (Node Leaf) :=
  if !flags.unicode then .error .notText
  else if flags.dotAll then .ok (.leaf (.char .everything))
  else if flags.carriageReturns then
    .ok (.leaf (.char (.negation (.ranges [(0xa, 0xa), (0xd, 0xd)]))))
  else .ok (.leaf (.char (.negation (.single '\n'))))

/-- The pattern of an `Atom` outside brackets. -/
def Flags.atom (flags : Flags) : Atom → Except Fault (Node Leaf)
  | .literal c isByte => flags.literal c isByte
  | .set c => (flags.checkClass c).map fun c => .leaf (.char c)
  | .look l => .ok (.leaf (.look l))

/-! ### Escapes -/

/-- Characters with a meaning of their own in a pattern. -/
def isMeta (c : Char) : Bool :=
  ['\\', '.', '+', '*', '?', '(', ')', '|', '[', ']', '\x7b', '\x7d', '^', '$', '#', '&', '-',
    '~'].contains c

/-- Characters that stand for themselves behind a backslash. -/
def standsForItself (c : Char) : Bool :=
  isMeta c || (decide (c.toNat < 0x80) && !c.isAlphanum && c ≠ '<' && c ≠ '>')

/-- The character with the number `n`. -/
def charOf? (n : Nat) : Option Char :=
  if n < 0xd800 ∨ (0xe000 ≤ n ∧ n < 0x110000) then some (Char.ofNat n) else none

/-- `count` digits in base sixteen, layout between them passed over. -/
def hexRun (flags : Flags) : Nat → List Char → Except Fault (List Nat × List Char)
  | 0, cs => .ok ([], flags.skip cs)
  | count + 1, cs =>
    match flags.skip cs with
    | [] => .error .escape
    | c :: rest =>
      match Json.hexValue? c with
      | none => .error .escape
      | some d => (hexRun flags count rest).map fun (ds, rest) => (d :: ds, rest)

/-- Digits in base sixteen up to a closing brace. -/
def hexUntilBrace (flags : Flags) (cs : List Char) : Except Fault (List Nat × List Char) :=
  let kept := if flags.verbose then cs.filter fun c => !isBlank c else cs
  let inner := kept.takeWhile (· ≠ '\x7d')
  match cs.dropWhile (· ≠ '\x7d') with
  | [] => .error .escape
  | _ :: rest =>
    match inner.mapM Json.hexValue? with
    | none => .error .escape
    | some [] => .error .escape
    | some ds => .ok (ds, flags.skip rest)

/-- A character by its number: `width` digits, or any count of them in braces. -/
def readCodePoint (flags : Flags) (width : Nat) (cs : List Char) :
    Except Fault (Char × Bool × List Char) := do
  let (ds, rest, braced) ← match flags.skip cs with
    | '\x7b' :: rest => do
      let (ds, rest) ← hexUntilBrace flags rest
      pure (ds, rest, true)
    | cs => do
      let (ds, rest) ← hexRun flags width cs
      pure (ds, rest, false)
  match charOf? (valueOfDigits 16 ds) with
  | some c => .ok (c, !braced && width == 2, rest)
  | none => .error .codePoint

/-- Splits a list at the first place where `mark` starts. -/
def splitAt? (mark : List Char) : List Char → Option (List Char × List Char)
  | [] => none
  | c :: rest =>
    if mark.isPrefixOf (c :: rest) then some ([], (c :: rest).drop mark.length)
    else (splitAt? mark rest).map fun (a, b) => (c :: a, b)

/-- The class that the `inner` text of property braces names. -/
def bracedProperty? (inner : List Char) : Option CharClass :=
  match splitAt? ['!', '='] inner with
  | some (name, value) => (propertyValue? name value).map .negation
  | none =>
    match splitAt? [':'] inner with
    | some (name, value) => propertyValue? name value
    | none =>
      match splitAt? ['='] inner with
      | some (name, value) => propertyValue? name value
      | none => property? inner

/-- The property class behind `\p`, or behind `\P` where it is `negated`. -/
def readProperty (flags : Flags) (negated : Bool) (cs : List Char) :
    Except Fault (CharClass × List Char) := do
  let (found, rest) ← match flags.skip cs with
    | [] => .error .escape
    | '\x7b' :: rest =>
      let inner := rest.takeWhile (· ≠ '\x7d')
      let inner := if flags.verbose then inner.filter fun c => !isBlank c else inner
      match rest.dropWhile (· ≠ '\x7d') with
      | [] => .error .escape
      | _ :: after => .ok (bracedProperty? inner, after)
    | c :: rest => if c = '\\' then .error .property else .ok (property? [c], flags.skip rest)
  if !flags.unicode then .error .property
  match found with
  | some c => .ok ((flags.fold c).negatedIf negated, rest)
  | none => .error .property

/-- The word boundaries that braces name, or none where braces are a count. -/
def readNamedBoundary (flags : Flags) (cs : List Char) :
    Except Fault (Option (Look × List Char)) :=
  let isNameChar (c : Char) : Bool := c.isAlpha || c == '-'
  match flags.skip cs with
  | [] => .error .escape
  | c :: more =>
    if !isNameChar c then .ok none
    else
      let name := String.ofList ((c :: more).takeWhile isNameChar)
      match flags.skip ((c :: more).dropWhile isNameChar) with
      | '\x7d' :: rest =>
        if name = "start" then .ok (some (.wordStart flags.unicode, rest))
        else if name = "end" then .ok (some (.wordEnd flags.unicode, rest))
        else if name = "start-half" then .ok (some (.wordStartHalf flags.unicode, rest))
        else if name = "end-half" then .ok (some (.wordEndHalf flags.unicode, rest))
        else .error .escape
      | _ => .error .escape

/-- The `Atom` that stands behind a backslash. -/
def readEscape (flags : Flags) : List Char → Except Fault (Atom × List Char)
  | [] => .error .escape
  | c :: rest =>
    if isDigit c then .error .backReference
    else if c = 'x' then
      (readCodePoint flags 2 rest).map fun (c, isByte, rest) => (.literal c isByte, rest)
    else if c = 'u' then
      (readCodePoint flags 4 rest).map fun (c, _, rest) => (.literal c false, rest)
    else if c = 'U' then
      (readCodePoint flags 8 rest).map fun (c, _, rest) => (.literal c false, rest)
    else if c = 'p' ∨ c = 'P' then
      (readProperty flags (c = 'P') rest).map fun (a, rest) => (.set a, rest)
    else if c = 'd' ∨ c = 'D' then .ok (.set ((digitClass flags.unicode).negatedIf (c = 'D')), rest)
    else if c = 's' ∨ c = 'S' then .ok (.set ((blankClass flags.unicode).negatedIf (c = 'S')), rest)
    else if c = 'w' ∨ c = 'W' then .ok (.set ((wordClass flags.unicode).negatedIf (c = 'W')), rest)
    else if standsForItself c then .ok (.literal c false, rest)
    else if c = 'a' then .ok (.literal '\x07' false, rest)
    else if c = 'f' then .ok (.literal '\x0c' false, rest)
    else if c = 't' then .ok (.literal '\t' false, rest)
    else if c = 'n' then .ok (.literal '\n' false, rest)
    else if c = 'r' then .ok (.literal '\r' false, rest)
    else if c = 'v' then .ok (.literal '\x0b' false, rest)
    else if c = 'A' then .ok (.look .textStart, rest)
    else if c = 'z' then .ok (.look .textEnd, rest)
    else if c = 'B' then .ok (.look (.noWordBoundary flags.unicode), rest)
    else if c = '<' then .ok (.look (.wordStart flags.unicode), rest)
    else if c = '>' then .ok (.look (.wordEnd flags.unicode), rest)
    else if c = 'b' then
      match rest with
      | '\x7b' :: more => do
        match ← readNamedBoundary flags more with
        | some (l, after) => .ok (.look l, after)
        | none => .ok (.look (.wordBoundary flags.unicode), rest)
      | _ => .ok (.look (.wordBoundary flags.unicode), rest)
    else .error .escape

/-! ### Bracketed classes -/

/-- An operator between the parts of a bracketed class. -/
inductive SetOperator
  | inter
  | minus
  | xor

def SetOperator.apply : SetOperator → CharClass → CharClass → CharClass
  | inter, a, b => .inter a b
  | minus, a, b => .minus a b
  | xor, a, b => .xor a b

/-- An ASCII class in colons, if one stands behind an opening bracket. -/
def readAsciiClass? (cs : List Char) : Option (CharClass × List Char) :=
  match cs with
  | ':' :: rest =>
    let (negated, rest) := match rest with
      | '^' :: more => (true, more)
      | rest => (false, rest)
    match rest.dropWhile (· ≠ ':') with
    | ':' :: ']' :: after =>
      (asciiClass? (String.ofList (rest.takeWhile (· ≠ ':')))).map fun c =>
        (c.negatedIf negated, after)
    | _ => none
  | _ => none

/-- One end of a range, or an item of its own. -/
def readClassAtom (flags : Flags) : List Char → Except Fault (Atom × List Char)
  | [] => .error .classUnclosed
  | '\\' :: rest => readEscape flags rest
  | c :: rest => .ok (.literal c false, rest)

/-- A character `c` as a member of a class; without Unicode it must be a byte. -/
def Flags.classChar (flags : Flags) (c : Char) (isByte : Bool) : Except Fault Nat :=
  if flags.unicode || isByte || decide (c.toNat < 0x80) then .ok c.toNat else .error .notText

/-- An `Atom` as an item of a class. -/
def Flags.classItem (flags : Flags) : Atom → Except Fault CharClass
  | .literal c isByte => (flags.classChar c isByte).map fun n => .ranges [(n, n)]
  | .set c => .ok c
  | .look _ => .error .classItem

/-- One item of a class or a range of characters (`readClassAtom`). -/
def readClassRange (flags : Flags) (cs : List Char) : Except Fault (CharClass × List Char) := do
  let (first, rest) ← readClassAtom flags cs
  let single := do
    let item ← flags.classItem first
    pure (item, flags.skip rest)
  match flags.skip rest with
  | [] => .error .classUnclosed
  | '-' :: more =>
    match flags.skip more with
    | ']' :: _ => single
    | '-' :: _ => single
    | [] => .error .classUnclosed
    | more => do
      let (last, after) ← readClassAtom flags more
      match first, last with
      | .literal a aByte, .literal b bByte =>
        if b < a then .error .classRange
        else do
          let low ← flags.classChar a aByte
          let high ← flags.classChar b bByte
          pure (.ranges [(low, high)], after)
      | _, _ => .error .classRange
  | _ => single

/-- Dashes at the start of a class stand for themselves. -/
def leadingDashes (flags : Flags) : Nat → List Char → Bool × List Char
  | 0, cs => (false, cs)
  | fuel + 1, cs =>
    match cs with
    | '-' :: rest => (true, (leadingDashes flags fuel (flags.skip rest)).2)
    | cs => (false, cs)

/-- The parts of a class read so far: what stands before the last operator, and the items since. -/
structure ClassSoFar where
  before : Option (SetOperator × CharClass)
  items : List CharClass
  nesting : Nat

/-- What has been read of a class, as one class. -/
def ClassSoFar.close (flags : Flags) (s : ClassSoFar) : CharClass :=
  let items := CharClass.unions s.items.reverse
  match s.before with
  | none => items
  | some (op, left) => op.apply (flags.fold left) (flags.fold items)

def ClassSoFar.nestingOf (s : ClassSoFar) : Nat :=
  s.nesting + (if s.before.isSome then 1 else 0) + (if 1 < s.items.length then 1 else 0)

mutual

/-- A class behind its opening bracket; `fuel` bounds the recursion. -/
def readClass (flags : Flags) : Nat → List Char → Except Fault (CharClass × Nat × List Char)
  | 0, _ => .error .classUnclosed
  | fuel + 1, cs =>
    match flags.skip cs with
    | [] => .error .classUnclosed
    | c :: rest =>
      let negated := c == '^'
      let cs := if negated then flags.skip rest else c :: rest
      let (dashes, cs) := leadingDashes flags cs.length cs
      let items := if dashes then [.single '-'] else []
      let (items, cs) := match items, cs with
        | [], ']' :: rest => ([CharClass.single ']'], flags.skip rest)
        | items, cs => (items, cs)
      if cs.isEmpty then .error .classUnclosed
      else do
        let (inner, nesting, rest) ← readClassItems flags fuel ⟨none, items, 0⟩ cs
        .ok ((flags.fold inner).negatedIf negated, nesting + 1, rest)

/-- The items of a class up to its closing bracket, added to those of `s`. -/
def readClassItems (flags : Flags) :
    Nat → ClassSoFar → List Char → Except Fault (CharClass × Nat × List Char)
  | 0, _, _ => .error .classUnclosed
  | fuel + 1, s, cs =>
    match flags.skip cs with
    | [] => .error .classUnclosed
    | ']' :: rest => .ok (s.close flags, s.nestingOf, rest)
    | '&' :: '&' :: rest =>
      readClassItems flags fuel ⟨some (.inter, s.close flags), [], s.nestingOf⟩ rest
    | '-' :: '-' :: rest =>
      readClassItems flags fuel ⟨some (.minus, s.close flags), [], s.nestingOf⟩ rest
    | '~' :: '~' :: rest =>
      readClassItems flags fuel ⟨some (.xor, s.close flags), [], s.nestingOf⟩ rest
    | '[' :: rest =>
      match readAsciiClass? rest with
      | some (c, after) =>
        readClassItems flags fuel { s with items := flags.fold c :: s.items } after
      | none => do
        let (c, nesting, after) ← readClass flags fuel rest
        readClassItems flags fuel
          { s with items := c :: s.items, nesting := max s.nesting nesting } after
    | cs => do
      let (c, rest) ← readClassRange flags cs
      readClassItems flags fuel { s with items := c :: s.items } rest

end

/-! ### Repetition -/

/-- A decimal count with blanks around it. -/
def readCount (flags : Flags) (cs : List Char) : Except Fault (Option Nat × List Char) :=
  let cs := cs.dropWhile isBlank
  let digits := if flags.verbose then (cs.takeWhile fun c => isDigit c || isBlank c).filter isDigit
    else cs.takeWhile isDigit
  let rest := (if flags.verbose then cs.dropWhile fun c => isDigit c || isBlank c
    else cs.dropWhile isDigit).dropWhile isBlank
  if digits = [] then .ok (none, flags.skip rest)
  else
    let n := Number.valueOfChars digits
    if n < UInt32.size then .ok (some n, flags.skip rest) else .error .repetitionCount

/-- Least and greatest count behind an opening brace. -/
def readCounts (flags : Flags) (cs : List Char) :
    Except Fault (Nat × Option Nat × List Char) := do
  let (least, rest) ← readCount flags (flags.skip cs)
  match least, rest with
  | some least, ',' :: rest =>
    match flags.skip rest with
    | '\x7d' :: rest => .ok (least, none, rest)
    | rest => do
      let (most, rest) ← readCount flags rest
      match most, rest with
      | some most, '\x7d' :: rest =>
        if least ≤ most then .ok (least, some most, rest) else .error .repetitionCount
      | _, _ => .error .repetitionCount
  | some least, '\x7d' :: rest => .ok (least, some least, rest)
  | _, _ => .error .repetitionCount

/-- A mark behind a repetition that only changes which match is preferred. -/
def skipPreference (cs : List Char) : List Char :=
  match cs with
  | '?' :: rest => rest
  | cs => cs

/-- The pieces with the latest one repeated from `least` to `most` times. -/
def repeatLatest (least : Nat) (most : Option Nat) : List Piece → Except Fault (List Piece)
  | [] => .error .nothingToRepeat
  | p :: rest =>
    if p.setsFlags then .error .nothingToRepeat
    else .ok (⟨.repeated p.node least most, p.nesting + 1, false⟩ :: rest)

/-! ### Groups -/

/-- A letter or underscore, and past the `first` character also digits, points and brackets. -/
def isNameChar (first : Bool) (c : Char) : Bool :=
  c == '_' || Text.alphabetic.has c.toNat
    || (!first && (c == '.' || c == '[' || c == ']' || Text.numeric.has c.toNat))

/-- The name of a group up to its closing bracket. -/
def readGroupName (cs : List Char) : Except Fault (List Char × List Char) :=
  let name := cs.takeWhile (· ≠ '>')
  match name, cs.dropWhile (· ≠ '>') with
  | c :: more, _ :: rest =>
    if isNameChar true c && more.all (isNameChar false) then .ok (name, rest)
    else .error .groupName
  | _, _ => .error .groupName

/-- Sets the flag of the letter `c`. -/
def Flags.set (flags : Flags) (c : Char) (on : Bool) : Option Flags :=
  match c with
  | 'i' => some { flags with caseless := on }
  | 'm' => some { flags with multiLine := on }
  | 's' => some { flags with dotAll := on }
  | 'u' => some { flags with unicode := on }
  | 'R' => some { flags with carriageReturns := on }
  | 'x' => some { flags with verbose := on }
  | 'U' => some flags
  | _ => none

/-- Flags up to a colon or a closing bracket. `used` holds those already written, and `dash`
whether the last one was the minus that turns the following ones off. -/
def readFlags (flags : Flags) (used : List Char) (dash : Bool) :
    List Char → Except Fault (Flags × List Char × List Char)
  | [] => .error .flag
  | c :: rest =>
    if c = ':' ∨ c = ')' then
      if dash then .error .flag else .ok (flags, used, c :: rest)
    else if used.contains c then .error .flag
    else if c = '-' then readFlags flags (c :: used) true rest
    else
      match flags.set c (!used.contains '-') with
      | some flags => readFlags flags (c :: used) false rest
      | none => .error .flag

/-- Pieces in sequence as one `Piece`. -/
def sequence : List Piece → Piece
  | [] => ⟨.empty, 0, false⟩
  | [p] => p
  | pieces =>
    ⟨pieces.foldr (fun p n => .both p.node n) .empty,
      (pieces.map Piece.nesting).foldl max 0 + 1, false⟩

/-- Alternatives as one `Piece`. -/
def choice : List Piece → Piece
  | [] => ⟨.empty, 0, false⟩
  | [p] => p
  | p :: rest =>
    ⟨rest.foldl (fun n q => .either n q.node) p.node,
      ((p :: rest).map Piece.nesting).foldl max 0 + 1, false⟩

/-! ### Patterns -/

/-- The end of a group; the flags `outer` are in force again. -/
def closeGroup (outer : Flags) (node : Node Leaf) (nesting : Nat) (st : State) :
    Except Fault (Piece × State) :=
  match st.rest with
  | ')' :: rest => .ok (⟨node, nesting + 1, false⟩, { st with rest := rest, flags := outer })
  | _ => .error .groupUnclosed

mutual

/-- Alternatives up to the end or a closing bracket; `branches` holds those read so far. -/
def readChoice : Nat → List Piece → State → Except Fault (Piece × State)
  | 0, _, _ => .error .tooDeep
  | fuel + 1, branches, st => do
    let (branch, st) ← readSequence fuel [] st
    match st.rest with
    | '|' :: rest => readChoice fuel (branch :: branches) { st with rest := rest }
    | _ => .ok (choice (branch :: branches).reverse, st)

/-- Pieces up to the end, a bar or a closing bracket; `pieces` holds the latest first. -/
def readSequence : Nat → List Piece → State → Except Fault (Piece × State)
  | 0, _, _ => .error .tooDeep
  | fuel + 1, pieces, st =>
    let flags := st.flags
    match flags.skip st.rest with
    | [] => .ok (sequence pieces.reverse, { st with rest := [] })
    | ')' :: rest => .ok (sequence pieces.reverse, { st with rest := ')' :: rest })
    | '|' :: rest => .ok (sequence pieces.reverse, { st with rest := '|' :: rest })
    | '(' :: rest => do
      let (p, st) ← readGroup fuel { st with rest := flags.skip rest }
      readSequence fuel (p :: pieces) st
    | '[' :: rest => do
      let (c, nesting, rest) ← readClass flags (2 * rest.length + 2) rest
      let c ← flags.checkClass c
      readSequence fuel (⟨.leaf (.char c), nesting, false⟩ :: pieces) { st with rest := rest }
    | '?' :: rest => do
      let pieces ← repeatLatest 0 (some 1) pieces
      readSequence fuel pieces { st with rest := skipPreference rest }
    | '*' :: rest => do
      let pieces ← repeatLatest 0 none pieces
      readSequence fuel pieces { st with rest := skipPreference rest }
    | '+' :: rest => do
      let pieces ← repeatLatest 1 none pieces
      readSequence fuel pieces { st with rest := skipPreference rest }
    | '\x7b' :: rest => do
      if pieces.isEmpty then .error .nothingToRepeat
      let (least, most, rest) ← readCounts flags rest
      let pieces ← repeatLatest least most pieces
      readSequence fuel pieces { st with rest := skipPreference (flags.skip rest) }
    | '\\' :: rest => do
      let (a, rest) ← readEscape flags rest
      let n ← flags.atom a
      readSequence fuel (⟨n, 0, false⟩ :: pieces) { st with rest := rest }
    | '.' :: rest => do
      let n ← flags.dot
      readSequence fuel (⟨n, 0, false⟩ :: pieces) { st with rest := rest }
    | '^' :: rest =>
      let l := if flags.multiLine then .lineStart flags.carriageReturns else .textStart
      readSequence fuel (⟨.leaf (.look l), 0, false⟩ :: pieces) { st with rest := rest }
    | '$' :: rest =>
      let l := if flags.multiLine then .lineEnd flags.carriageReturns else .textEnd
      readSequence fuel (⟨.leaf (.look l), 0, false⟩ :: pieces) { st with rest := rest }
    | c :: rest => do
      let n ← flags.literal c false
      readSequence fuel (⟨n, 0, false⟩ :: pieces) { st with rest := rest }

/-- A group behind its opening bracket, or flags for the rest of the group around it. -/
def readGroup : Nat → State → Except Fault (Piece × State)
  | 0, _ => .error .tooDeep
  | fuel + 1, st =>
    let outer := st.flags
    match st.rest with
    | '?' :: '=' :: _ => .error .lookAround
    | '?' :: '!' :: _ => .error .lookAround
    | '?' :: '<' :: '=' :: _ => .error .lookAround
    | '?' :: '<' :: '!' :: _ => .error .lookAround
    | '?' :: 'P' :: '<' :: rest => readNamed fuel outer { st with rest := rest }
    | '?' :: '<' :: rest => readNamed fuel outer { st with rest := rest }
    | '?' :: rest => do
      let (flags, used, rest) ← readFlags outer [] false rest
      match rest with
      | ')' :: rest =>
        if used.isEmpty then .error .nothingToRepeat
        else .ok (⟨.empty, 0, true⟩, { st with rest := rest, flags := flags })
      | rest => do
        let (p, st) ← readChoice fuel [] { st with rest := rest.drop 1, flags := flags }
        closeGroup outer p.node p.nesting st
    | _ => do
      let (p, st) ← readChoice fuel [] st
      closeGroup outer (.group p.node) p.nesting st

/-- A named group from its name on; behind it the flags `outer` are in force again. -/
def readNamed : Nat → Flags → State → Except Fault (Piece × State)
  | 0, _, _ => .error .tooDeep
  | fuel + 1, outer, st => do
    let (name, rest) ← readGroupName st.rest
    if st.names.contains name then .error .groupNameTwice
    let (p, st) ← readChoice fuel [] { st with rest := rest, names := name :: st.names }
    closeGroup outer (.group p.node) p.nesting st

end

/-- Reads the pattern `cs`. -/
def parseChars (cs : List Char) : Except Fault (Node Leaf) := do
  let (p, st) ← readChoice (4 * cs.length + 8) [] ⟨cs, .initial, []⟩
  if !st.rest.isEmpty then .error .groupUnopened
  if nestingLimit < p.nesting then .error .tooDeep
  .ok p.node

def parse (s : String) : Except Fault (Node Leaf) := parseChars s.toList

end Governance.Pattern
