import PageRecipe.Prose.Node
import PageRecipe.Text.Outline
import PageRecipe.Text.Quoted

/-!
# Prose as an outline

The outline of a prose tree shows the selectors of elements and the starts of texts, in quotes.
Blank texts are left out.
-/

namespace PageRecipe.Node

/-- How much of a text is shown. -/
def previewLength : Nat := 40

/-- The start of a text. -/
def preview (s : String) : String :=
  let text := Text.trim s.toList
  if previewLength < text.length then String.ofList (text.take previewLength ++ ['…'])
  else String.ofList text

/-- What an outline shows of a node. -/
def outlineLabel (node : Node) : String :=
  match node with
  | .text value => Text.quoted (preview value)
  | node => node.display

mutual

/-- The outline of a node. -/
def outline : Node → Outline
  | .text value => .mk (outlineLabel (.text value)) []
  | .element tag id classes children =>
    .mk (outlineLabel (.element tag id classes children)) (outlines children)

/-- The outlines of the nodes that are not blank texts. -/
def outlines : List Node → List Outline
  | [] => []
  | node :: rest => if node.isBlankText then outlines rest else outline node :: outlines rest

end

end PageRecipe.Node
