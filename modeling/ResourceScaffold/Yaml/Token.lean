import ResourceScaffold.Text.CodePoint
import ResourceScaffold.Yaml.Cursor

/-!
# Tokens of YAML
-/

namespace ResourceScaffold.Yaml

/-- A token of a YAML text. -/
inductive Token where
  /-- A directive with the version of the format. -/
  | version (major : Nat)
  /-- A directive that lets a handle stand for the beginning of tags. -/
  | tagHandle (handle start : String)
  | otherDirective
  | documentStart
  | documentEnd
  | streamEnd
  | blockSequenceStart
  | blockMappingStart
  | blockEnd
  | flowSequenceStart
  | flowSequenceEnd
  | flowMappingStart
  | flowMappingEnd
  | blockEntry
  | flowEntry
  | key
  | value
  | reference (name : String)
  | anchor (name : String)
  /-- A tag: a handle, if there is one, and what follows it. -/
  | tag (handle : Option String) (suffix : String)
  /-- A scalar; a plain one stands without quotation marks or indicators. -/
  | scalar (text : WideText) (plain : Bool)
  /-- The place from which on the text has no tokens. -/
  | unreadable (error : ReadError)
  deriving DecidableEq, Repr, Inhabited

end ResourceScaffold.Yaml
