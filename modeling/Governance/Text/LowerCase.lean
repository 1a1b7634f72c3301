import Governance.Text.CaseTables

/-!
# Lower case of a whole text

Every letter is lowered on its own, except the capital sigma, whose form depends on whether it
ends a word, and the dotted capital I, which becomes two characters. Lowering the empty text gives
the empty text, and every character gives at least one.
-/

namespace Governance.Text

/-- Whether the first character of `cs` that is not `caseIgnorable` is `cased`. -/
def startsCased (cs : List Char) : Bool :=
  match cs.dropWhile fun c => caseIgnorable.has c.toNat with
  | [] => false
  | c :: _ => cased.has c.toNat

/-- A sigma ends a word when a `cased` character comes `before` it and none `after` it. -/
def endsWord (before after : List Char) : Bool := startsCased before && !startsCased after

/-- The lower case of a character `c` that is not a sigma. -/
def lowerChar (c : Char) : List Char :=
  if c = 'İ' then ['i', '\u0307'] else [Char.ofNat (CaseRun.image lowerRuns c.toNat)]

/-- Lower case of the rest of a text; `before` holds what precedes it, last character first. -/
def lowerAfter (before : List Char) : List Char → List Char
  | [] => []
  | c :: after =>
    (if c = 'Σ' then [if endsWord before after then 'ς' else 'σ'] else lowerChar c)
      ++ lowerAfter (c :: before) after

def lowerChars (cs : List Char) : List Char := lowerAfter [] cs

/-- The lower case of the text `s`. -/
def lower (s : String) : String := String.ofList (lowerChars s.toList)

theorem toList_lower (s : String) : (lower s).toList = lowerChars s.toList := by
  simp [lower]

theorem lowerChars_nil : lowerChars [] = [] := rfl

theorem lowerChar_ne_nil (c : Char) : lowerChar c ≠ [] := by
  unfold lowerChar
  split <;> simp

/-- Whether `s` and `t` agree up to the case of ASCII letters. -/
def sameIgnoringAsciiCase (s t : String) : Bool :=
  s.toList.map Char.toLower == t.toList.map Char.toLower

/-- The text `s` with its ASCII letters in upper case. -/
def upperAscii (s : String) : String := String.ofList (s.toList.map Char.toUpper)

end Governance.Text
