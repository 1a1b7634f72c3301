import Governance.Json.Writer

/-!
# Why a document cannot be read

A document that does not have the shape that its reader wants is refused for one cause, and
`Refusal.message` is the one place where causes get their wording.
-/

namespace Governance

open Number

/-- Why reading a value is refused. -/
inductive Refusal
  /-- A record lacks the member `name`. -/
  | missingField (name : String)
  /-- A closed record has a member `name` that is none of the `known`. -/
  | unknownField (name : String) (known : List String)
  /-- A `name` that is none of the `known` ones. -/
  | unknownVariant (name : String) (known : List String)
  /-- A value `found` of the wrong shape. -/
  | wrongType (found : Json) (wanted : String)
  /-- A value `found` of the right shape that is out of range. -/
  | wrongValue (found : Json) (wanted : String)
  /-- An array whose `length` is not the wanted one. -/
  | wrongLength (length : Nat) (wanted : String)
  /-- A value that is none of the shapes of a `union`. -/
  | noVariant (union : String)
  /-- A value of the right shape that a rule of its domain rejects, for the `reason`. -/
  | rejected (reason : String)

namespace Refusal

def ticked (name : String) : String := "`" ++ name ++ "`"

/-- A value that was `found`, as messages call it. -/
def describe : Json → String
  | .null => "null"
  | .bool b => "boolean " ++ ticked (if b then "true" else "false")
  | .int n => "integer " ++ ticked (intText n)
  | .float x => "floating point " ++ ticked (Style.document.write x)
  | .text s => "string " ++ Text.quote s
  | .array _ => "sequence"
  | .object _ => "map"

/-- The names that would have been accepted, as messages list them. -/
def choices : List String → String
  | [] => "nothing"
  | [a] => ticked a
  | [a, b] => ticked a ++ " or " ++ ticked b
  | names => "one of " ++ String.intercalate ", " (names.map ticked)

def message : Refusal → String
  | missingField name => "missing field " ++ ticked name
  | unknownField name known => "unknown field " ++ ticked name ++ ", expected " ++ choices known
  | unknownVariant name known => "unknown variant " ++ ticked name ++ ", expected " ++ choices known
  | wrongType found wanted => "invalid type: " ++ describe found ++ ", expected " ++ wanted
  | wrongValue found wanted => "invalid value: " ++ describe found ++ ", expected " ++ wanted
  | wrongLength length wanted => "invalid length " ++ intText length ++ ", expected " ++ wanted
  | noVariant union => "data did not match any variant of untagged enum " ++ union
  | rejected reason => reason

end Refusal

end Governance
