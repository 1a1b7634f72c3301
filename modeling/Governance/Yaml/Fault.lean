import Governance.Json.Refusal

/-!
# Why a file cannot be read

The causes for which the text of a file is refused: its characters, the layout of its lines, the
nesting of its parts, its scalars, and last the value that it should have held. `Fault.message` is
the one place where they get their wording.
-/

namespace Governance.Yaml

/-- Why a file is refused. -/
inductive Fault
  | controlCharacter
  /-- A tab where columns count. -/
  | tab
  | noToken
  | keyWithoutValue
  | entryOutOfPlace
  | keyOutOfPlace
  | valueOutOfPlace
  | colon
  | directive
  | version
  | duplicateDirective
  | anchorName
  | tag
  | unknownHandle
  | blockHeader
  | quoteUnclosed
  | markerInQuote
  | escape
  | noContent
  | blockUnclosed
  | flowUnclosed
  | noDocumentStart
  | secondDocument
  | unknownAnchor
  | tooManyAliases
  | tooDeep
  /-- A tag that names no shape of value. -/
  | strangeTag
  /-- A scalar that its tag does not fit. -/
  | misfit
  | integerRange
  | keyShape
  | duplicateMember (name : String)
  | unknownMember (name : String)
  | wrongShape (wanted : String)
  /-- A value that its reader refuses. -/
  | refused (cause : Refusal)

def Fault.message : Fault → String
  | controlCharacter => "control characters are not allowed"
  | tab => "found a tab character where an indentation space is expected"
  | noToken => "found character that cannot start any token"
  | keyWithoutValue => "could not find expected ':'"
  | entryOutOfPlace => "block sequence entries are not allowed in this context"
  | keyOutOfPlace => "mapping keys are not allowed in this context"
  | valueOutOfPlace => "mapping values are not allowed in this context"
  | colon => "found unexpected ':'"
  | directive => "malformed directive"
  | version => "found incompatible YAML document"
  | duplicateDirective => "found duplicate directive"
  | anchorName => "malformed anchor or alias"
  | tag => "malformed tag"
  | unknownHandle => "found undefined tag handle"
  | blockHeader => "malformed header of a block scalar"
  | quoteUnclosed => "found unexpected end of stream in a quoted scalar"
  | markerInQuote => "found unexpected document indicator in a quoted scalar"
  | escape => "found unknown escape character"
  | noContent => "did not find expected node content"
  | blockUnclosed => "did not find expected key or '-' indicator"
  | flowUnclosed => "did not find expected ',' or closing bracket"
  | noDocumentStart => "did not find expected <document start>"
  | secondDocument => "expected a single document but found another document in the stream"
  | unknownAnchor => "unknown anchor"
  | tooManyAliases => "repetition limit exceeded"
  | tooDeep => "recursion limit exceeded"
  | strangeTag => "a tagged value is not expected here"
  | misfit => "a scalar does not fit its tag"
  | integerRange => "integer out of range"
  | keyShape => "a key must be a scalar"
  | duplicateMember name => "duplicate field " ++ Refusal.ticked name
  | unknownMember name => "unknown field " ++ Refusal.ticked name
  | wrongShape wanted => "invalid type, expected " ++ wanted
  | refused cause => cause.message

end Governance.Yaml
