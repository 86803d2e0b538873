/-!
# YAML tokens

The tokens that the scanner finds in a YAML character stream: stream and document
markers, directives, the block and flow structure indicators, the key and value
indicators, anchors, aliases, tags and scalars. Block collections have no brackets in
the text; the scanner makes their start and end tokens from the indentation.
-/

set_option autoImplicit false

namespace ChartCatalog.Yaml

/-- How a scalar is written. -/
inductive ScalarStyle where
  | plain
  | singleQuoted
  | doubleQuoted
  | literal
  | folded
  deriving DecidableEq, Repr, Inhabited

/-- A YAML token. -/
inductive Token where
  | streamStart
  | streamEnd
  | versionDirective (major minor : Nat)
  | tagDirective (handle pfx : String)
  | documentStart
  | documentEnd
  | blockSequenceStart
  | blockMappingStart
  | blockEnd
  | flowSequenceStart
  | flowSequenceEnd
  | flowMappingStart
  | flowMappingEnd
  | blockEntry
  | flowEntry
  | key
  | value
  | alias (name : String)
  | anchor (name : String)
  | tag (handle suffix : String)
  | scalar (text : String) (style : ScalarStyle)
  deriving DecidableEq, Repr, Inhabited

end ChartCatalog.Yaml
