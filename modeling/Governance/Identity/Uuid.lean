import Governance.Json.Decode
import Governance.Json.Reader

/-!
# Universally unique identifiers

An identifier is a number of 128 bits, written as thirty-two digits in base sixteen in five groups.
It is read in that form, without hyphens, in braces, or behind `urn:uuid:`, in any case of letters.
Fresh identifiers come from a source that is handed in, so the same source gives the same results.
-/

namespace Governance

/-- An identifier, which is a `value` of 128 bits. -/
structure Uuid where
  value : Fin 0x100000000000000000000000000000000
deriving DecidableEq

namespace Uuid

/-- The identifier with the number `n`, taken modulo 2^128. -/
def ofNat (n : Nat) : Uuid := ⟨Fin.ofNat _ n⟩

instance : LT Uuid := ⟨fun a b => a.value < b.value⟩

instance : DecidableLT Uuid := fun a b => inferInstanceAs (Decidable (a.value < b.value))

/-- The thirty-two digits of `u` without hyphens. -/
def digitChars (u : Uuid) : List Char := Text.paddedHex 32 u.value.val

/-- The digits of `u` with hyphens after the eighth, twelfth, sixteenth and twentieth. -/
def text (u : Uuid) : String :=
  let ds := u.digitChars
  String.ofList
    (ds.take 8 ++ '-' :: (ds.drop 8).take 4 ++ '-' :: (ds.drop 12).take 4
      ++ '-' :: (ds.drop 16).take 4 ++ '-' :: ds.drop 20)

def toJson (u : Uuid) : Json := .text u.text

/-- Why a text is no `Uuid`. -/
inductive Fault
  | character (found : Char) (place : Nat)
  | length (found : Nat)
  | groupCount (found : Nat)
  | groupLength (group expected found : Nat)

def Fault.message : Fault → String
  | character found place =>
    "invalid character: found `" ++ String.singleton found ++ "` at " ++ Number.intText place
  | length found =>
    "invalid length: expected length 32 for simple format, found " ++ Number.intText found
  | groupCount found => "invalid group count: expected 5, found " ++ Number.intText found
  | groupLength group expected found =>
    "invalid group length in group " ++ Number.intText group ++ ": expected "
      ++ Number.intText expected ++ ", found " ++ Number.intText found

/-- The `Uuid` that thirty-two digits in base sixteen write. -/
def ofDigits? (cs : List Char) : Option Uuid :=
  if cs.length = 32 then
    (cs.mapM Json.hexValue?).map fun ds => ofNat (Number.valueOfDigits 16 ds)
  else none

/-- The `Uuid` that five groups of digits with hyphens between them write. -/
def ofHyphenated? (cs : List Char) : Option Uuid :=
  if cs.length = 36 ∧ [8, 13, 18, 23].all fun i => cs[i]? == some '-' then
    ofDigits? (cs.filter (· ≠ '-'))
  else none

/-- The scheme in front of a `Uuid` that is written as a resource. -/
def scheme : List Char := "urn:uuid:".toList

/-- The text of `cs` inside braces or behind the `scheme`, how much was taken off in front, and
whether the text stood bare. -/
def unwrap (cs : List Char) : List Char × Nat × Bool :=
  if cs.head? = some '\x7b' ∧ cs.getLast? = some '\x7d' ∧ 2 ≤ cs.length then
    ((cs.drop 1).dropLast, 1, false)
  else if (cs.take scheme.length).map Char.toLower = scheme then
    (cs.drop scheme.length, scheme.length, false)
  else (cs, 0, true)

/-- Group sizes from the places of the hyphens in `cs`. -/
def groupLengths (cs : List Char) : List Nat :=
  match cs with
  | [] => [0]
  | c :: rest =>
    match groupLengths rest with
    | [] => [1]
    | n :: more => if c = '-' then 0 :: n :: more else (n + 1) :: more

/-- The fault of the first group whose size is not the expected one, counted from `index`. -/
def firstWrongGroup (index : Nat) : List Nat → List Nat → Fault
  | expected :: es, found :: fs =>
    if expected = found then firstWrongGroup (index + 1) es fs
    else .groupLength index expected found
  | _, _ => .groupCount 0

/-- What is wrong with a text `cs` that `read` refuses. -/
def faultOf (cs : List Char) : Fault :=
  let (inner, offset, bare) := unwrap cs
  match inner.findIdx? fun c => c ≠ '-' ∧ (Json.hexValue? c).isNone with
  | some i =>
    let width := (String.ofList (inner.take i)).utf8ByteSize
    .character (inner.getD i '-') (width + offset)
  | none =>
    let hyphens := inner.count '-'
    if hyphens = 0 ∧ bare then .length cs.length
    else if hyphens ≠ 4 then .groupCount (hyphens + 1)
    else firstWrongGroup 0 [8, 4, 4, 4, 12] (groupLengths inner)

/-- Reads the identifier that the text `s` writes, hyphenated or not, in braces or behind the
`scheme`. -/
def read (s : String) : Except Fault Uuid :=
  let cs := s.toList
  let (inner, _, bare) := unwrap cs
  match (if bare ∧ cs.length = 32 then ofDigits? cs else ofHyphenated? inner) with
  | some u => .ok u
  | none => .error (faultOf cs)

def ofJson : Json → Decode.Reading Uuid
  | .text s =>
    match read s with
    | .ok u => .ok u
    | .error e => .error (.rejected ("UUID parsing failed: " ++ e.message))
  | j => .error (.wrongType j "a formatted UUID string")

end Uuid

/-- A `stream` of fresh identifiers and how many of them are `used` up. -/
structure IdSource where
  stream : Nat → Uuid
  used : Nat

namespace IdSource

/-- The identifier that `source` gives after `n` more. -/
def nth (source : IdSource) (n : Nat) : Uuid := source.stream (source.used + n)

/-- The `source` once `n` more identifiers are used up. -/
def advance (source : IdSource) (n : Nat) : IdSource := ⟨source.stream, source.used + n⟩

theorem nth_advance (source : IdSource) (n k : Nat) :
    (source.advance n).nth k = source.nth (n + k) := by
  simp [nth, advance, Nat.add_assoc]

end IdSource

end Governance
