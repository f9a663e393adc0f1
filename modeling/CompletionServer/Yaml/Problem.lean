import CompletionServer.Fault

/-!
# Problems with a YAML text

A text is either malformed, which is a matter of the format, or holds a scalar whose conversion
fails, which is a fault.
-/

namespace CompletionServer.Yaml

/-- What is wrong with the form of a text. -/
inductive Malformation
  | unprintableCharacter
  | strayCharacter
  | missingColon
  | entryNotAllowed
  | keyNotAllowed
  | valueNotAllowed
  | badDirective
  | badName
  | badTag
  | badBlockHeader
  | badEscape
  | unterminatedScalar
  | documentMarkInScalar
  | unexpectedToken
  | missingContent
  | badVersion
  | repeatedDirective
  | unknownHandle
  | unknownAlias
  | repeatedAnchor
  | severalDocuments
  | wrongNodeKind
  | unknownTag
  | badMerge
  | collectionAsKey
  | badEncoding
  deriving DecidableEq, Repr

/-- The wording of a malformation. -/
def Malformation.message : Malformation → String
  | .unprintableCharacter => "special characters are not allowed"
  | .strayCharacter => "found character that cannot start any token"
  | .missingColon => "could not find expected ':'"
  | .entryNotAllowed => "sequence entries are not allowed here"
  | .keyNotAllowed => "mapping keys are not allowed here"
  | .valueNotAllowed => "mapping values are not allowed here"
  | .badDirective => "malformed directive"
  | .badName => "expected alphabetic or numeric character"
  | .badTag => "malformed tag"
  | .badBlockHeader => "malformed block scalar header"
  | .badEscape => "unknown escape"
  | .unterminatedScalar => "found unexpected end of stream"
  | .documentMarkInScalar => "found unexpected document separator"
  | .unexpectedToken => "found an unexpected token"
  | .missingContent => "expected the node content"
  | .badVersion => "found incompatible YAML document (version 1.* is required)"
  | .repeatedDirective => "found duplicate directive"
  | .unknownHandle => "found undefined tag handle"
  | .unknownAlias => "found undefined alias"
  | .repeatedAnchor => "found duplicate anchor"
  | .severalDocuments => "expected a single document in the stream"
  | .wrongNodeKind => "expected a node of another kind"
  | .unknownTag => "could not determine a constructor for the tag"
  | .badMerge => "expected a mapping or list of mappings for merging"
  | .collectionAsKey => "found unhashable key"
  | .badEncoding => "failed to decode base64 data"

/-- Why a text yields no value. -/
inductive Problem
  | malformed (cause : Malformation)
  | fault (fault : Fault)

end CompletionServer.Yaml
