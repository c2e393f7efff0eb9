import Montage.Failure

/-!
The words of a YAML stream.
-/

namespace Montage.Yaml

/-- A word of a stream. The indentation of blocks is made explicit. -/
inductive Token where
  /-- A directive that names the major version of the format. -/
  | version (major : Nat)
  /-- A directive that gives tags with a handle their start. -/
  | tagHandle (handle start : String)
  /-- Any other directive. -/
  | directive
  | documentStart
  | documentEnd
  | blockSequence
  | blockMapping
  | blockEnd
  | flowSequence
  | flowSequenceEnd
  | flowMapping
  | flowMappingEnd
  /-- A dash before an item of a block. -/
  | item
  | comma
  | key
  | value
  | alias (name : String)
  | anchor (name : String)
  | tag (handle : Option String) (suffix : String)
  | scalar (text : String) (plain : Bool)
  /-- The stream cannot be read from here on. -/
  | broken (failure : Failure)
  deriving DecidableEq, Repr

end Montage.Yaml
