import PageRecipe.Dictionary
import PageRecipe.Page.FrontMatter
import PageRecipe.Prose.Markup
import PageRecipe.Yaml.Decoding

/-!
# Pages

A page has metadata, which are the entries of its front matter, and prose. Front matter that
cannot be read does not stand in the way of the prose (`Page.ofText`).
-/

namespace PageRecipe

/-- The entries of front matter. -/
abbrev Metadata := Dictionary Yaml.Value

namespace Metadata

/-- The entry that an entry of a mapping writes. Its key is a scalar, taken as a text. -/
def entryOfNodes (step : Yaml.Step) (key value : Yaml.Node) :
    Except Yaml.Error (String × Yaml.Value) := do
  let label ← key.expectText [] "a string"
  return (label, ← Yaml.Value.ofNode .any [step] value)

/-- The metadata that the root of a document writes. -/
def ofNode (node : Yaml.Node) : Except Yaml.Error Metadata :=
  match node with
  | .mapping _ _ entries =>
    (entries.mapM fun (step, key, value) => entryOfNodes step key value).map Dictionary.ofEntries
  | node => if node.isVoid then .ok [] else .error (node.unexpected [] "a map")

/-- The metadata that front matter writes. -/
def ofText (front : String) : Except Yaml.Error Metadata :=
  if Text.allBlank front then .ok [] else Yaml.decode (fun _ => true) ofNode front

end Metadata

/-- A page. -/
structure Page where
  metadata : Metadata
  prose : Node
  deriving Repr

namespace Page

/-- The name of the recipe that the metadata ask for. -/
def recipeName? (page : Page) : Option String :=
  (page.metadata.get? "recipe").bind Yaml.Value.text?

/-- The page that a text writes, and why its front matter cannot be read. -/
def ofText (content : String) : Page × Option Yaml.Error :=
  let (front, prose) := FrontMatter.split content.toList
  let tree := Node.ofMarkdown (String.ofList prose)
  match front.map fun text => Metadata.ofText (String.ofList text) with
  | none => (⟨[], tree⟩, none)
  | some (.ok metadata) => (⟨metadata, tree⟩, none)
  | some (.error error) => (⟨[], tree⟩, some error)

end Page

end PageRecipe
