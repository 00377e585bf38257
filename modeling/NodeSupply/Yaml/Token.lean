import NodeSupply.Yaml.Tag

/-!
The tokens of a YAML text.
-/

namespace NodeSupply.Yaml

/-- How a scalar is written. -/
inductive ScalarStyle where
  | plain
  | singleQuoted
  | doubleQuoted
  /-- A block that keeps its lines, behind a bar. -/
  | literal
  /-- A block that joins its lines, behind an angle bracket. -/
  | folded
deriving DecidableEq

/-- A token. The blocks of mappings and sequences have tokens for where they begin and end though
only indentation says so in the text. -/
inductive Token where
  | versionDirective (major minor : Nat)
  | tagDirective (handle : String) (space : List UInt8)
  | documentStart
  | documentEnd
  | blockSequenceStart
  | blockMappingStart
  | blockEnd
  | flowSequenceStart
  | flowSequenceEnd
  | flowMappingStart
  | flowMappingEnd
  | flowEntry
  | blockEntry
  | key
  | value
  | anchor (name : String)
  | alias (name : String)
  /-- A tag as written: the handle, empty if there is none, and what follows it. -/
  | tag (handle : String) (suffix : List UInt8)
  | scalar (style : ScalarStyle) (text : String)
deriving DecidableEq

end NodeSupply.Yaml
