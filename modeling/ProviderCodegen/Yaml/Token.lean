import ProviderCodegen.Datum.Basic

/-! # Tokens of a YAML text

The indentation of blocks becomes visible as tokens that open and close them.
-/

namespace ProviderCodegen.Yaml

inductive Token
  | versionDirective (major minor : Nat)
  | tagDirective (handle shorthand : String)
  | documentStart
  | documentEnd
  | blockSequenceStart
  | blockMappingStart
  | blockEnd
  | flowSequenceStart
  | flowSequenceEnd
  | flowMappingStart
  | flowMappingEnd
  /-- The dash before an item. -/
  | blockEntry
  /-- The comma between items or entries. -/
  | flowEntry
  | key
  | value
  /-- The name of a node to repeat. -/
  | reference (name : String)
  /-- A name for the node that follows. -/
  | anchor (name : String)
  /-- A tag; with an empty handle the suffix is all of it. -/
  | tag (handle suffix : String)
  | scalar (form : TextForm) (text : String)
deriving Repr, DecidableEq

end ProviderCodegen.Yaml
