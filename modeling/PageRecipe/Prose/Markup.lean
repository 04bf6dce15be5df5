import PageRecipe.Markdown.Structure
import PageRecipe.Prose.Builder

/-!
# Prose from Markdown

A page's prose is written in Markdown and checked as a tree under a `body` element.
-/

namespace PageRecipe

/-- The tree of a Markdown text. -/
def Node.ofMarkdown (markdown : String) : Node :=
  Builder.ofEvents (Markdown.events markdown.toList)

end PageRecipe
