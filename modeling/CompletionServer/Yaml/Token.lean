import CompletionServer.Text.Points

/-!
# Tokens of a YAML text

The tokens carry the structure that indentation expresses: a block collection begins with its own
token and ends with a block end, and a mapping key is announced before it.
-/

namespace CompletionServer.Yaml

/-- A line that begins with a percent sign. -/
inductive Directive
  | version (major minor : Nat)
  | tag (handle expansion : String)
  | unknown
  deriving DecidableEq, Repr

/-- A token. -/
inductive Token
  | streamEnd
  | directive (value : Directive)
  | documentStart
  | documentEnd
  | blockSequenceStart
  | blockMappingStart
  | blockEnd
  | flowSequenceStart
  | flowSequenceEnd
  | flowMappingStart
  | flowMappingEnd
  | blockEntry
  | flowEntry
  | key
  | value
  | alias (name : String)
  | anchor (name : String)
  /-- A tag: its handle, none when the suffix is the whole tag, and its suffix. -/
  | tag (handle : Option String) (suffix : String)
  /-- A scalar and whether it was written without quotes on the line. -/
  | scalar (text : Text.Points) (isPlain : Bool)
  deriving DecidableEq, Repr

end CompletionServer.Yaml
