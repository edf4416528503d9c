import Canopen.Yaml.Fault

/-!
# Tokens of YAML

The marks, names and scalars of a text.  Where a block collection starts and ends is told by
indentation alone, so tokens of its own stand for it.
-/

namespace Canopen.Yaml

/-- How a scalar is written. -/
inductive Style where
  | plain
  | quoted
  /-- Quoted, with codes of half characters. -/
  | halved (halves : Halves)
deriving DecidableEq, Repr

inductive Token where
  | streamEnd
  | versionDirective (major : Nat)
  | tagDirective (handle start : String)
  | otherDirective
  | documentStart
  | documentEnd
  | blockSequenceStart
  | blockMappingStart
  | blockEnd
  | flowSequenceStart
  | flowSequenceEnd
  | flowMappingStart
  | flowMappingEnd
  | blockEntry
  | flowEntry
  | key
  | value
  | alias (name : String)
  | anchor (name : String)
  | tag (handle : Option String) (suffix : String)
  | scalar (style : Style) (text : String)
deriving DecidableEq, Repr

end Canopen.Yaml
