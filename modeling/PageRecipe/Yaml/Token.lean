import PageRecipe.Yaml.Mark
import PageRecipe.Yaml.Fault

/-!
# Tokens

The words and marks of a YAML text. Where the text cannot be read any further, a last token
says why.
-/

namespace PageRecipe.Yaml

/-- A tag as it is written : a handle that stands for the start of the tag, and the rest. -/
structure TagName where
  handle : String
  suffix : String
  deriving DecidableEq, Repr, Inhabited

/-- What a token is. -/
inductive TokenKind where
  | streamEnd
  | version (major minor : Nat)
  /-- Declares what a tag handle stands for. -/
  | tagHandle (handle start : String)
  | documentStart
  | documentEnd
  | blockSequenceStart
  | blockMappingStart
  | blockEnd
  | flowSequenceStart
  | flowSequenceEnd
  | flowMappingStart
  | flowMappingEnd
  | blockEntry
  | flowEntry
  | key
  | value
  | aliasTo (name : String)
  | anchor (name : String)
  | tag (name : TagName)
  | scalar (isPlain : Bool) (text : String)
  /-- The text cannot be read beyond here. -/
  | unreadable (fault : Fault)
  deriving DecidableEq, Repr, Inhabited

/-- A token with the places where it starts and stops. -/
structure Token where
  kind : TokenKind
  start : Mark
  stop : Mark
  deriving DecidableEq, Repr, Inhabited

end PageRecipe.Yaml
