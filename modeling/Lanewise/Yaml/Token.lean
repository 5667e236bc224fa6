import Lanewise.Yaml.Cursor

/-!
# Tokens

The pieces of a YAML text, each with the place where it starts and the place where it ends. Block
structure, which the text shows by indentation, is in the tokens explicit.
-/

namespace Lanewise.Yaml

inductive Style
  | plain | singleQuoted | doubleQuoted | literal | folded
  deriving DecidableEq, Repr, Inhabited

def Style.isQuoted : Style → Bool
  | .singleQuoted | .doubleQuoted => true
  | _ => false

inductive Lexeme
  | streamStart
  | streamEnd
  | versionDirective (major minor : Nat)
  | tagDirective (handle leader : String)
  | documentStart
  | documentEnd
  | blockSequenceStart
  | blockMappingStart
  | blockEnd
  | flowSequenceStart
  | flowSequenceEnd
  | flowMappingStart
  | flowMappingEnd
  | blockEntry
  | flowEntry
  | key
  | value
  | alias (name : String)
  | anchor (name : String)
  | tag (handle suffix : String)
  | scalar (style : Style) (text : String)
  deriving DecidableEq, Repr, Inhabited

structure Token where
  lexeme : Lexeme
  start : Mark
  stop : Mark
  deriving DecidableEq, Repr, Inhabited

end Lanewise.Yaml
