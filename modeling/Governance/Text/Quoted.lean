import Governance.Text.HiddenTable

/-!
# Quoted text

A text between double quotes, as messages show it: quotes, backslashes and the common controls
with a backslash, characters without a shape of their own by number, all else as it is.
-/

namespace Governance.Text

/-- The digits of `n` in base sixteen, small letters, no padding. -/
def hexDigits (n : Nat) : List Char := Nat.toDigits 16 n

/-- The digits of `n` in base sixteen, at least `width` of them. -/
def paddedHex (width n : Nat) : List Char :=
  let ds := hexDigits n
  List.replicate (width - ds.length) '0' ++ ds

/-- The character `c` inside a quoted text. -/
def quoteChar (c : Char) : List Char :=
  if c = '"' then ['\\', '"']
  else if c = '\\' then ['\\', '\\']
  else if c = '\n' then ['\\', 'n']
  else if c = '\r' then ['\\', 'r']
  else if c = '\t' then ['\\', 't']
  else if c.toNat = 0 then ['\\', '0']
  else if c ≠ ' ' ∧ hidden.has c.toNat then
    ['\\', 'u', '\x7b'] ++ hexDigits c.toNat ++ ['\x7d']
  else [c]

def quoteChars (cs : List Char) : List Char := '"' :: cs.flatMap quoteChar ++ ['"']

/-- The text `s` in quotes, each character as `quoteChar` says. -/
def quote (s : String) : String := String.ofList (quoteChars s.toList)

end Governance.Text
