import Governance.Operator.Basic
import Governance.FieldValue
import Governance.Pattern.Limits

/-!
# What operators say

Each leaf operator is a judgement on the value of a field and an operand. Comparison takes both as
numbers where both are; equality falls back to their texts, while ordering fails. Texts are
compared in lower case. Arrays are compared as sets of trimmed texts in lower case. The operators
that combine conditions judge no field.
-/

namespace Governance

open Number

/-- The two sides of a judgement. -/
inductive Side
  | context
  | operand
deriving DecidableEq

def Side.label : Side → String
  | context => "context"
  | operand => "operand"

/-- Why an operator gives no answer to its two values. -/
inductive EvaluationError
  /-- The ordering `operator` met a value that is no number on one `side`. -/
  | notNumeric (operator : Operator) (side : Side) (kind value : String)
  /-- The operand was `found` to have a shape that the `operator` cannot use. -/
  | invalidOperand (operator : Operator) (found : String)
  /-- A pattern failed, with the library's `failure`. -/
  | pattern (failure : Pattern.Failure)
deriving DecidableEq

namespace EvaluationError

/-- The stable name of the error's cause. -/
def code : EvaluationError → String
  | notNumeric .. => "NOT_NUMERIC"
  | invalidOperand .. => "INVALID_OPERAND"
  | pattern (.timeout ..) => "REGEX_TIMEOUT"
  | pattern (.tooComplex ..) => "PATTERN_TOO_COMPLEX"
  | pattern (.invalid ..) => "INVALID_PATTERN"

def message : EvaluationError → String
  | notNumeric op side kind value =>
    op.label ++ " requires numeric operands; " ++ side.label ++ " value " ++ Text.quote value
      ++ " is a non-numeric " ++ kind
  | invalidOperand op found => op.label ++ " cannot use a " ++ found ++ " operand"
  | pattern failure => failure.message

end EvaluationError

/-- What operators need besides their values: limits on patterns and a `clock`. -/
structure Surroundings where
  limits : Pattern.Limits
  clock : Pattern.Clock

/-! ### Comparison -/

/-- Equality of `actual` and `expected`: of numbers where both are numbers, of texts otherwise. -/
def looselyEqual (actual expected : FieldValue) : Bool :=
  match actual.asNumber, expected.asNumber with
  | some a, some e => a.equal e
  | _, _ => actual.toText == expected.toText

/-- Both sides as numbers; of two that are none, `actual` is told. -/
def numericPair (op : Operator) (actual expected : FieldValue) :
    Except EvaluationError (Binary64 × Binary64) :=
  match actual.asNumber with
  | none => .error (.notNumeric op .context actual.kind actual.display)
  | some a =>
    match expected.asNumber with
    | none => .error (.notNumeric op .operand expected.kind expected.display)
    | some e => .ok (a, e)

/-- Whether `holds` of both sides as numbers. -/
def ordering (op : Operator) (holds : Binary64 → Binary64 → Bool) (actual expected : FieldValue) :
    Except EvaluationError Bool :=
  (numericPair op actual expected).map fun p => holds p.1 p.2

/-! ### Texts -/

/-- Whether the `needle` occurs in the text. -/
def occursIn (needle : List Char) : List Char → Bool
  | [] => needle.isEmpty
  | c :: rest => needle.isPrefixOf (c :: rest) || occursIn needle rest

/-- A `test` of the lower-cased texts of both sides; a side without text fails it. -/
def textTest (test : List Char → List Char → Bool) (actual expected : FieldValue) : Bool :=
  match actual.toText, expected.toText with
  | some hay, some needle => test (Text.lowerChars hay.toList) (Text.lowerChars needle.toList)
  | _, _ => false

def hasWithin (actual expected : FieldValue) : Bool :=
  textTest (fun hay needle => occursIn needle hay) actual expected

def hasAtStart (actual expected : FieldValue) : Bool :=
  textTest (fun hay needle => needle.isPrefixOf hay) actual expected

def hasAtEnd (actual expected : FieldValue) : Bool :=
  textTest (fun hay needle => needle.isSuffixOf hay) actual expected

variable [Pattern.Library]

/-- Whether the pattern in the operand `expected` matches the text of `actual`. -/
def matchesPattern (env : Surroundings) (actual expected : FieldValue) :
    Except EvaluationError Bool :=
  match expected with
  | .text pattern =>
    match actual.toText with
    | none => .ok false
    | some hay =>
      match Pattern.matchWithin env.clock env.limits pattern hay with
      | .ok b => .ok b
      | .error e => .error (.pattern e)
  | v => .error (.invalidOperand .regexMatch v.kind)

/-! ### Sets -/

/-- The texts of `v` for comparison as a set: trimmed and in lower case. -/
def foldedTexts (v : FieldValue) : List String := v.toTexts.map fun s => Text.lower (Text.trim s)

def sharesAny (actual expected : FieldValue) : Bool :=
  (foldedTexts expected).any (foldedTexts actual).contains

def sharesAll (actual expected : FieldValue) : Bool :=
  (foldedTexts expected).all (foldedTexts actual).contains

/-! ### All operators -/

/-- A judgement on the value of a field and an operand, in `Surroundings`. -/
abbrev Judgement := Surroundings → FieldValue → FieldValue → Except EvaluationError Bool

/-- The `Judgement` of an operator; the logical ones, which combine conditions, have none. -/
def Operator.judgement? : Operator → Option Judgement
  | .equals => some fun _ a e => .ok (looselyEqual a e)
  | .notEquals => some fun _ a e => .ok (!looselyEqual a e)
  | .greaterThan => some fun _ => ordering .greaterThan fun a e => e.less a
  | .lessThan => some fun _ => ordering .lessThan fun a e => a.less e
  | .greaterThanOrEqual => some fun _ => ordering .greaterThanOrEqual fun a e => e.atMost a
  | .lessThanOrEqual => some fun _ => ordering .lessThanOrEqual fun a e => a.atMost e
  | .contains => some fun _ a e => .ok (hasWithin a e)
  | .notContains => some fun _ a e => .ok (!hasWithin a e)
  | .startsWith => some fun _ a e => .ok (hasAtStart a e)
  | .endsWith => some fun _ a e => .ok (hasAtEnd a e)
  | .regexMatch => some matchesPattern
  | .containsAny => some fun _ a e => .ok (sharesAny a e)
  | .containsAll => some fun _ a e => .ok (sharesAll a e)
  | .notContainsAny => some fun _ a e => .ok (!sharesAny a e)
  | .isTrue => some fun _ a _ => .ok (a.asBool == some true)
  | .isFalse => some fun _ a _ => .ok (a.asBool == some false)
  | .isNull => some fun _ a _ => .ok a.isNull
  | .isNotNull => some fun _ a _ => .ok (!a.isNull)
  | .and | .or | .not => none

theorem Operator.judgement?_eq_none_iff {op : Operator} :
    op.judgement? = none ↔ op.isLogical = true := by
  cases op <;> simp [Operator.judgement?, Operator.isLogical, Operator.group]

end Governance
