import Governance.Pattern.CharClass

/-!
# Patterns and where they lead

A pattern is a tree over leaves that take one character or look at a place between characters. Its
meaning is a function on sets of places in a text: from a set of places, the places that the
pattern can reach. A set of places is a number with one bit for each place, so a step over a class
is a mask and a shift. Repetition without bound stops when no new place is reached, which takes no
more rounds than there are places.
-/

namespace Governance.Pattern

/-- Conditions on a place between two characters (`Look.holds`). -/
inductive Look
  | textStart
  | textEnd
  | lineStart (carriageReturns : Bool)
  | lineEnd (carriageReturns : Bool)
  | wordBoundary (unicode : Bool)
  | noWordBoundary (unicode : Bool)
  | wordStart (unicode : Bool)
  | wordEnd (unicode : Bool)
  | wordStartHalf (unicode : Bool)
  | wordEndHalf (unicode : Bool)
deriving DecidableEq

/-- Whether the condition `look` holds between two characters; the text's ends have none. -/
def Look.holds (look : Look) (last next : Option Char) : Bool :=
  let isWord (unicode : Bool) (c : Option Char) : Bool := c.any (wordClass unicode).has
  match look with
  | textStart => last.isNone
  | textEnd => next.isNone
  | lineStart false => last.isNone || last == some '\n'
  | lineStart true =>
    last.isNone || last == some '\n' || (last == some '\r' && next != some '\n')
  | lineEnd false => next.isNone || next == some '\n'
  | lineEnd true =>
    next.isNone || next == some '\r' || (next == some '\n' && last != some '\r')
  | wordBoundary u => isWord u last != isWord u next
  | noWordBoundary u => isWord u last == isWord u next
  | wordStart u => !isWord u last && isWord u next
  | wordEnd u => isWord u last && !isWord u next
  | wordStartHalf u => !isWord u last
  | wordEndHalf u => !isWord u next

/-- A leaf of a pattern: a character of a class, or a `Look`. -/
inductive Leaf
  | char (c : CharClass)
  | look (l : Look)
deriving DecidableEq

/-- A pattern over leaves of the type `α`. -/
inductive Node (α : Type)
  | empty
  | leaf (a : α)
  | both (first second : Node α)
  | either (first second : Node α)
  /-- At least `least` copies, at most `most` where there is a bound. -/
  | repeated (item : Node α) (least : Nat) (most : Option Nat)
  | group (item : Node α)
deriving DecidableEq

namespace Node

def map {α β : Type} (f : α → β) : Node α → Node β
  | empty => empty
  | leaf a => leaf (f a)
  | both x y => both (x.map f) (y.map f)
  | either x y => either (x.map f) (y.map f)
  | repeated x least most => repeated (x.map f) least most
  | group x => group (x.map f)

end Node

/-! ### Sets of places -/

/-- A set of places, one bit for each. -/
abbrev Places := Nat

/-- The first `count` places. -/
def Places.below (count : Nat) : Places := Nat.pow 2 count - 1

/-- What the set `p` has and `q` has not. -/
def Places.without (p q : Places) : Places := p ^^^ (p &&& q)

/-- `count` times the `step`, cut short when it leads nowhere new. -/
def times (step : Places → Places) : Nat → Places → Places
  | 0, p => p
  | count + 1, p =>
    let q := step p
    if q = p ∨ q = 0 then q else times step count q

/-- All places reached from `frontier` in at most `rounds` steps, with those already `seen`. -/
def spread (step : Places → Places) : Nat → Places → Places → Places
  | 0, seen, _ => seen
  | rounds + 1, seen, frontier =>
    let fresh := Places.without (step frontier) seen
    if fresh = 0 then seen else spread step rounds (seen ||| fresh) fresh

/-- The places that a pattern reaches from others in a text of `length` characters, each leaf as
`leafStep` says. -/
def Node.advance {α : Type} (length : Nat) (leafStep : α → Places → Places) :
    Node α → Places → Places
  | .empty, p => p
  | .leaf a, p => leafStep a p
  | .both x y, p => y.advance length leafStep (x.advance length leafStep p)
  | .either x y, p => x.advance length leafStep p ||| y.advance length leafStep p
  | .repeated x least most, p =>
    let start := times (x.advance length leafStep) least p
    let rounds := match most with
      | none => length + 1
      | some m => min (m - least) (length + 1)
    spread (x.advance length leafStep) rounds start start
  | .group x, p => x.advance length leafStep p

/-! ### Matching -/

/-- One bit for each element with the property `p`, the first element lowest. -/
def bits {α : Type} (p : α → Bool) : List α → Nat
  | [] => 0
  | a :: rest => 2 * bits p rest + (if p a then 1 else 0)

/-- The characters on both sides of each place, `last` in front of the first. -/
def sides (last : Option Char) : List Char → List (Option Char × Option Char)
  | [] => [(last, none)]
  | c :: rest => (last, some c) :: sides (some c) rest

/-- A `Leaf` prepared for one text: it takes one character at its `places`, or keeps to them. -/
inductive Mask
  | take (places : Places)
  | keep (places : Places)

def Mask.step : Mask → Places → Places
  | take places, p => (p &&& places) <<< 1
  | keep places, p => p &&& places

/-- The places of the `text` where a `Leaf` applies. -/
def Leaf.mask (text : List Char) : Leaf → Mask
  | char c => .take (bits c.has text)
  | look l => .keep (bits (fun s => l.holds s.1 s.2) (sides none text))

/-- Whether the `pattern` matches somewhere in the `text`. -/
def Node.isMatch (pattern : Node Leaf) (text : List Char) : Bool :=
  (pattern.map (Leaf.mask text)).advance text.length Mask.step (Places.below (text.length + 1)) != 0

theorem length_sides (last : Option Char) (cs : List Char) :
    (sides last cs).length = cs.length + 1 := by
  induction cs generalizing last with
  | nil => rfl
  | cons c rest ih => simp [sides, ih]

end Governance.Pattern
