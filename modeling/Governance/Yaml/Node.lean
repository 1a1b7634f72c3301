import Governance.Yaml.Token

/-!
# Nodes and documents

A document is one node: a scalar, a sequence, a mapping, or an alias for a node with an anchor. A
node may carry a tag. What is left out, such as the value of a key at the end of a line, is an empty
plain scalar. A file holds one document at most.

The reader carries the tokens that are left. Each call takes a smaller allowance, which the number
of tokens bounds.
-/

namespace Governance.Yaml

/-- A part of a document: a `scalar`, a `sequence` or a `mapping`, with its tag. -/
inductive Node
  | scalar (tag : Option String) (s : Scalar)
  | sequence (tag : Option String) (items : List Node)
  | mapping (tag : Option String) (members : List (Node × Node))
  /-- The node that the `slot` of an anchor holds. -/
  | alias (slot : Nat)

instance : Inhabited Node := ⟨.scalar none .empty⟩

/-- What stands where nothing is written. -/
def Node.absent : Node := .scalar none .empty

/-- A `node` with an anchor, in its `slot`. -/
structure Anchored where
  slot : Nat
  /-- How many marks of nodes stand in front of it. -/
  start : Nat
  node : Node

/-- A document: its node, unless the file is empty, and the nodes that aliases may mean. -/
structure Document where
  root : Option Node
  anchored : List Anchored
  /-- How many marks of nodes it has: one for a scalar or an alias, two for anything else. -/
  size : Nat

/-- The node of a `slot`: of several the one that starts last. -/
def Document.node? (d : Document) (slot : Nat) : Option Node :=
  let holders := d.anchored.filter fun a => a.slot == slot
  let last := holders.foldl (fun n a => max n a.start) 0
  (holders.find? fun a => a.start == last).map Anchored.node

/-! ### The reader -/

/-- What the reader of nodes has seen and has left. -/
structure Remaining where
  tokens : List Token
  /-- What the handles of tags stand for. -/
  handles : List (String × String)
  /-- The slots of the anchors so far. -/
  slots : List (String × Nat)
  anchored : List Anchored
  size : Nat

/-- A step of the reader of nodes. -/
abbrev Step := StateT Remaining (Except Fault)

namespace Step

/-- The next token. -/
def ahead : Step (Option Token) := do return (← get).tokens.head?

/-- Passes over the next token. -/
def pass : Step Unit := modify fun s => { s with tokens := s.tokens.drop 1 }

/-- Whether the next token is one of `ts`. -/
def isAhead (ts : List Token) : Step Bool := do
  return match ← ahead with
    | some t => ts.contains t
    | none => false

/-- Counts `n` marks of nodes. -/
def count (n : Nat) : Step Unit := modify fun s => { s with size := s.size + n }

def fail {α : Type} (e : Fault) : Step α := throw e

/-- Nothing in the place of a node. -/
def absent : Step Node := do
  count 1
  return .absent

/-! ### Anchors and tags -/

/-- Gives the anchor `name` its slot. The `slots` are numbered by the names in use, so a name that
comes again takes a slot that the next new name will share. -/
def openAnchor (name : String) : Step (Nat × Nat) := do
  let s ← get
  let slot := s.slots.length
  set { s with slots := (name, slot) :: s.slots.filter fun entry => entry.1 != name }
  return (slot, s.size)

/-- Puts the `node` in the slot of its anchor, if it has one (`openAnchor`). -/
def closeAnchor (mark : Option (Nat × Nat)) (node : Node) : Step Node := do
  match mark with
  | some (slot, start) =>
    modify fun s => { s with anchored := ⟨slot, start, node⟩ :: s.anchored }
  | none => pure ()
  return node

/-- The anchor that stands ahead, opened. -/
def anchor? : Step (Option (Nat × Nat)) := do
  match ← ahead with
  | some (.anchor name) =>
    pass
    return some (← openAnchor name)
  | _ => return none

/-- A tag that stands ahead, its handle replaced by what it stands for. -/
def tag? : Step (Option String) := do
  match ← ahead with
  | some (.tag handle suffix) =>
    pass
    if handle = "" then return some suffix
    else
      match (← get).handles.lookup handle with
      | some meaning => return some (meaning ++ suffix)
      | none => fail .unknownHandle
  | _ => return none

/-- An anchor and a tag, either of them first (`anchor?`, `tag?`). -/
def properties : Step (Option (Nat × Nat) × Option String) := do
  match ← tag? with
  | some tag => return (← anchor?, some tag)
  | none =>
    let anchor ← anchor?
    return (anchor, ← tag?)

end Step

open Step

/-! ### Nodes -/

mutual

/-- A node. Blocks stand only where `block` allows them, and items without indentation of their own
only where `flush` does. -/
def readNode (block flush : Bool) : Nat → Step Node
  | 0 => fail .tooDeep
  | allowance + 1 => do
    match ← ahead with
    | some (.alias name) =>
      pass
      match (← get).slots.lookup name with
      | some slot =>
        count 1
        return .alias slot
      | none => fail .unknownAnchor
    | _ =>
      let (mark, tag) ← properties
      match ← ahead with
      | some .dash =>
        if flush then
          count 2
          closeAnchor mark (.sequence tag (← readFlushItems allowance))
        else readBare mark tag
      | some (.scalar s) =>
        pass
        count 1
        closeAnchor mark (.scalar (tag.filter (· != "!")) s)
      | some .flowSequence =>
        pass
        count 2
        closeAnchor mark (.sequence tag (← readFlowItems true allowance))
      | some .flowMapping =>
        pass
        count 2
        closeAnchor mark (.mapping tag (← readFlowMembers true allowance))
      | some .blockSequence =>
        if block then
          pass
          count 2
          closeAnchor mark (.sequence tag (← readItems allowance))
        else readBare mark tag
      | some .blockMapping =>
        if block then
          pass
          count 2
          closeAnchor mark (.mapping tag (← readMembers allowance))
        else readBare mark tag
      | _ => readBare mark tag

/-- A node of which only an anchor or a `tag` is written. -/
def readBare (mark : Option (Nat × Nat)) (tag : Option String) : Step Node :=
  if mark.isSome || tag.isSome then do
    count 1
    closeAnchor mark (.scalar tag .empty)
  else fail .noContent

/-- A node, or nothing before one of the tokens `ends`. -/
def readUnless (ends : List Token) (block flush : Bool) : Nat → Step Node
  | 0 => fail .tooDeep
  | allowance + 1 => do
    if ← isAhead ends then absent else readNode block flush allowance

/-- The items of a block. -/
def readItems : Nat → Step (List Node)
  | 0 => fail .tooDeep
  | allowance + 1 => do
    match ← ahead with
    | some .dash =>
      pass
      let item ← readUnless [.dash, .blockEnd] true false allowance
      return item :: (← readItems allowance)
    | some .blockEnd =>
      pass
      return []
    | _ => fail .blockUnclosed

/-- Items at the column of the key in front of them. -/
def readFlushItems : Nat → Step (List Node)
  | 0 => fail .tooDeep
  | allowance + 1 => do
    match ← ahead with
    | some .dash =>
      pass
      let item ← readUnless [.dash, .key, .value, .blockEnd] true false allowance
      return item :: (← readFlushItems allowance)
    | _ => return []

/-- The members of a block. -/
def readMembers : Nat → Step (List (Node × Node))
  | 0 => fail .tooDeep
  | allowance + 1 => do
    match ← ahead with
    | some .key =>
      pass
      let key ← readUnless [.key, .value, .blockEnd] true true allowance
      let value ← readValue [.key, .value, .blockEnd] true allowance
      return (key, value) :: (← readMembers allowance)
    | some .blockEnd =>
      pass
      return []
    | _ => fail .blockUnclosed

/-- The value of a key: nothing unless its mark stands ahead (`readUnless`). -/
def readValue (ends : List Token) (block : Bool) : Nat → Step Node
  | 0 => fail .tooDeep
  | allowance + 1 => do
    match ← ahead with
    | some .value =>
      pass
      readUnless ends block block allowance
    | _ => absent

/-- The items between brackets. A key among them makes a mapping of a single member. -/
def readFlowItems (first : Bool) : Nat → Step (List Node)
  | 0 => fail .tooDeep
  | allowance + 1 => do
    if !first && !(← isAhead [.flowSequenceEnd]) then
      if ← isAhead [.comma] then pass else fail .flowUnclosed
    match ← ahead with
    | some .flowSequenceEnd =>
      pass
      return []
    | some .key =>
      pass
      count 2
      let key ← readPairKey allowance
      let value ← readValue [.comma, .flowSequenceEnd] false allowance
      return .mapping none [(key, value)] :: (← readFlowItems false allowance)
    | _ =>
      let item ← readNode false false allowance
      return item :: (← readFlowItems false allowance)

/-- The key of a single member; the mark in the place of an absent key goes with it. -/
def readPairKey : Nat → Step Node
  | 0 => fail .tooDeep
  | allowance + 1 => do
    if ← isAhead [.value, .comma, .flowSequenceEnd] then
      pass
      absent
    else readNode false false allowance

/-- The members between braces. -/
def readFlowMembers (first : Bool) : Nat → Step (List (Node × Node))
  | 0 => fail .tooDeep
  | allowance + 1 => do
    if !first && !(← isAhead [.flowMappingEnd]) then
      if ← isAhead [.comma] then pass else fail .flowUnclosed
    match ← ahead with
    | some .flowMappingEnd =>
      pass
      return []
    | some .key =>
      pass
      let key ← readUnless [.value, .comma, .flowMappingEnd] false false allowance
      let value ← readValue [.comma, .flowMappingEnd] false allowance
      return (key, value) :: (← readFlowMembers false allowance)
    | _ =>
      let key ← readNode false false allowance
      let value ← absent
      return (key, value) :: (← readFlowMembers false allowance)

end

/-! ### Documents -/

/-- What handles stand for unless a directive says otherwise. -/
def standardHandles : List (String × String) :=
  [("!", "!"), ("!!", "tag:yaml.org,2002:")]

/-- Reads directives; one version at most, and each handle once, added to `handles`. -/
def readDirectives (versioned : Bool) (handles : List (String × String)) :
    List Token → Except Fault (List (String × String) × List Token)
  | .version major minor :: ts =>
    if versioned then .error .duplicateDirective
    else if major = 1 ∧ (minor = 1 ∨ minor = 2) then readDirectives true handles ts
    else .error .version
  | .handle name meaning :: ts =>
    if (handles.lookup name).isSome then .error .duplicateDirective
    else readDirectives versioned ((name, meaning) :: handles) ts
  | ts => .ok (handles, ts)

/-- Whether directives or the mark of a document stand ahead. -/
def opensDocument : List Token → Bool
  | .version _ _ :: _ => true
  | .handle _ _ :: _ => true
  | .documentStart :: _ => true
  | _ => false

/-- Whether a document has nothing behind its mark. -/
def isBareDocument : List Token → Bool
  | [] => true
  | .documentEnd :: _ => true
  | ts => opensDocument ts

/-- The root of a document, which `step` reads, and what has been read with it. -/
def readRoot (handles : List (String × String)) (ts : List Token) (step : Nat → Step Node) :
    Except Fault (Node × Remaining) :=
  (step (3 * ts.length + 3)).run ⟨ts, handles ++ standardHandles, [], [], 0⟩

/-- The document that the tokens `ts` make up. -/
def Document.ofTokens (ts : List Token) : Except Fault Document := do
  if ts.isEmpty then .ok ⟨none, [], 1⟩
  else
    let (root, s) ←
      if opensDocument ts then do
        let (handles, ts) ← readDirectives false [] ts
        match ts with
        | .documentStart :: ts =>
          if isBareDocument ts then readRoot handles ts fun _ => absent
          else readRoot handles ts (readNode true false)
        | _ => .error .noDocumentStart
      else readRoot [] ts (readNode true false)
    if (s.tokens.dropWhile (· == .documentEnd)).isEmpty then .ok ⟨some root, s.anchored, s.size⟩
    else .error .secondDocument

/-- Reads the `text` of a file. -/
def Document.read (text : String) : Except Fault Document := do
  Document.ofTokens (← Token.ofText text)

end Governance.Yaml
