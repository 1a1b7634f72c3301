import Governance.Condition.Written
import Governance.Pattern.Limits

/-!
# What is wrong with a written condition

An issue names a place in a written condition and a problem there. A place is a way down from the
root and the part of the node that is meant. Problems fall into six kinds.
-/

namespace Governance

open Number

/-! ### Places -/

/-- The part of a node that an issue is about. -/
inductive NodePart
  | whole
  | operator
  | field
  | value
  | conditions
deriving DecidableEq

def NodePart.text : NodePart → String
  | whole => ""
  | operator => "/operator"
  | field => "/field"
  | value => "/value"
  | conditions => "/conditions"

/-- A part of the node that is reached by going down to the child of each index in turn. -/
structure Place where
  way : List Nat
  part : NodePart
deriving DecidableEq

namespace Place

/-- The given `part` of the root. -/
def root (part : NodePart) : Place := ⟨[], part⟩

/-- The place `p`, seen from the parent of whose children this is the one at `index`. -/
def under (index : Nat) (p : Place) : Place := ⟨index :: p.way, p.part⟩

/-- The steps to the part that `p` names; nothing for the root itself. -/
def pointer (p : Place) : String :=
  String.join (p.way.map fun (i : Nat) => "/conditions/" ++ intText i) ++ p.part.text

/-- The place `p` as messages show it. -/
def text (p : Place) : String := if p.pointer.isEmpty then "/" else p.pointer

/-- The place `p` in a document that holds the root under `base`. -/
def textUnder (base : String) (p : Place) : String := base ++ p.pointer

end Place

/-! ### Problems -/

/-- Why an operator cannot use an operand. -/
inductive OperandFault
  | absent (operator : Operator)
  | notNumeric (operator : Operator) (value : FieldValue)
  | notPattern (kind : String)
  | pattern (failure : Pattern.Failure)
  | notScalar (operator : Operator)
  | emptyArray (operator : Operator)
  | notTexts (operator : Operator) (kind : String)

def OperandFault.message : OperandFault → String
  | absent op => op.label ++ " requires a value"
  | notNumeric op value =>
    op.label ++ " requires a numeric value, found " ++ value.kind ++ " " ++ value.display
  | notPattern kind => "REGEX_MATCH requires a string pattern, found " ++ kind
  | pattern failure => failure.message
  | notScalar op => op.label ++ " requires a scalar value, found a string array"
  | emptyArray op => op.label ++ " requires a non-empty array"
  | notTexts op kind => op.label ++ " requires an array of strings, found " ++ kind

/-- What is wrong at a place. -/
inductive Problem
  | tooDeep (limit : Nat)
  | unknownOperator (name : String)
  | strayField (operator : Operator)
  | strayValue (operator : Operator)
  | strayConditions (operator : Operator)
  | notOne (found : Nat)
  | noneBelow (operator : Operator)
  | blankField (operator : Operator)
  | unsupportedValue (cause : FieldValue.Unsupported)
  | operand (fault : OperandFault)

/-- A kind of problem. -/
inductive IssueKind
  | unknownOperator
  | wrongArity
  | missingField
  | mixedNode
  | invalidOperand
  | tooDeep
deriving DecidableEq

def IssueKind.label : IssueKind → String
  | unknownOperator => "UNKNOWN_OPERATOR"
  | wrongArity => "WRONG_ARITY"
  | missingField => "MISSING_FIELD"
  | mixedNode => "MIXED_NODE"
  | invalidOperand => "INVALID_OPERAND"
  | tooDeep => "TOO_DEEP"

namespace Problem

def kind : Problem → IssueKind
  | tooDeep _ => .tooDeep
  | unknownOperator _ => .unknownOperator
  | strayField _ => .mixedNode
  | strayValue _ => .mixedNode
  | strayConditions _ => .mixedNode
  | notOne _ => .wrongArity
  | noneBelow _ => .wrongArity
  | blankField _ => .missingField
  | unsupportedValue _ => .invalidOperand
  | operand _ => .invalidOperand

def message : Problem → String
  | tooDeep limit => "nesting exceeds maximum depth " ++ intText limit
  | unknownOperator name => "unknown operator " ++ Text.quote name
  | strayField op => op.label ++ " node must not carry a field"
  | strayValue op => op.label ++ " node must not carry a value"
  | strayConditions op => op.label ++ " is a leaf operator and cannot have conditions"
  | notOne found => "NOT takes exactly one condition, found " ++ intText found
  | noneBelow op => op.label ++ " takes at least one condition"
  | blankField op => op.label ++ " requires a non-empty field"
  | unsupportedValue cause => cause.message
  | operand fault => fault.message

end Problem

/-! ### Issues -/

/-- A problem at a place. -/
structure Issue where
  place : Place
  problem : Problem

namespace Issue

/-- The issue `i`, seen from the parent of whose children this is the one at `index`. -/
def under (index : Nat) (i : Issue) : Issue := ⟨i.place.under index, i.problem⟩

/-- The place and the message of `i` in one line. -/
def text (i : Issue) : String := i.place.text ++ " " ++ i.problem.message

/-- The issue `i` with the text `path` for its place. -/
def toJsonAt (path : String) (i : Issue) : Json :=
  .object
    [("path", .text path), ("kind", .text i.problem.kind.label),
      ("message", .text i.problem.message)]

def toJson (i : Issue) : Json := i.toJsonAt i.place.text

end Issue

end Governance
