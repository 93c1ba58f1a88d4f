/-!
Why a text is no YAML, or no YAML that can be read as plain data.
-/

namespace ControlPlane.Yaml

/-- Why a text is not acceptable. -/
inductive Fault where
  | forbiddenCharacter
  | strayCharacter
  | strayTab
  /-- A key that needs a value indicator has none on its line. -/
  | keyWithoutValue
  /-- An indicator of a block collection stands where no collection can start. -/
  | misplacedIndicator
  | unterminated
  /-- A document marker stands inside a quoted scalar. -/
  | markerInScalar
  | badEscape
  | badBlockHeader
  | badTag
  | unknownTagHandle
  | badAnchor
  | badDirective
  | unexpectedToken
  | unknownAnchor
  | tooManyAliases
  | tooDeep
  | duplicateKey
  | numberOutOfRange
  /-- A scalar is not what its tag announces. -/
  | badTaggedScalar
  deriving DecidableEq, Inhabited

/-- The words for a fault. -/
def Fault.message : Fault → String
  | forbiddenCharacter => "control characters are not allowed"
  | strayCharacter => "found character that cannot start any token"
  | strayTab => "found a tab character where indentation is expected"
  | keyWithoutValue => "could not find expected ':'"
  | misplacedIndicator => "block collections are not allowed in this context"
  | unterminated => "found unexpected end of stream"
  | markerInScalar => "found unexpected document indicator"
  | badEscape => "found unknown escape character"
  | badBlockHeader => "did not find expected comment or line break"
  | badTag => "did not find expected tag"
  | unknownTagHandle => "found undefined tag handle"
  | badAnchor => "did not find expected alphabetic or numeric character"
  | badDirective => "found unacceptable directive"
  | unexpectedToken => "did not find expected node content"
  | unknownAnchor => "unknown anchor"
  | tooManyAliases => "repetition limit exceeded"
  | tooDeep => "recursion limit exceeded"
  | duplicateKey => "duplicate entry"
  | numberOutOfRange => "number out of range"
  | badTaggedScalar => "invalid value for tag"

end ControlPlane.Yaml
