/-! Tokens of YAML text. -/

namespace ClientGen.Yaml

inductive ScalarStyle
  | plain
  | singleQuoted
  | doubleQuoted
  | literal
  | folded
  deriving DecidableEq

/-- The text of a tag. Octets that write no character are gaps in it. -/
abbrev TagText := List (Option Char)

def TagText.ofString (text : String) : TagText := text.toList.map some

inductive Token
  | version (major minor : Nat)
  | tagHandle (handle : String) (start : TagText)
  | documentStart
  | documentEnd
  | blockSequence
  | blockMapping
  | blockEnd
  | flowSequence
  | flowSequenceEnd
  | flowMapping
  | flowMappingEnd
  | blockEntry
  | flowEntry
  | key
  | value
  | alias (name : String)
  | anchor (name : String)
  | tag (handle : String) (suffix : TagText)
  | scalar (style : ScalarStyle) (text : String)
  | streamEnd
  deriving DecidableEq

end ClientGen.Yaml
