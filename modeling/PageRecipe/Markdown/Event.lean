/-!
# Markdown events

The structure of a Markdown text as a flat sequence : what is opened (`Tag`), what is closed,
and what stands between. `PageRecipe.Prose.Builder` turns such a sequence into a tree.
-/

namespace PageRecipe.Markdown

/-- The kinds of alert that a block quote can be marked as. -/
inductive Alert where
  | note
  | tip
  | important
  | warning
  | caution
  deriving DecidableEq, Repr

/-- What an event opens. -/
inductive Tag where
  | paragraph
  | heading (level : Nat) (id : Option String) (classes : List String)
  | blockQuote (alert : Option Alert)
  | codeBlock
  | htmlBlock
  | list (ordered : Bool)
  | item
  | footnoteDefinition
  | definitionList
  | definitionTerm
  | definitionBody
  | table
  | tableHead
  | tableRow
  | tableCell
  | emphasis
  | strong
  | strikethrough
  | link
  | image
  | metadataBlock
  deriving DecidableEq, Repr

/-- One step through a Markdown text. -/
inductive Event where
  | start (tag : Tag)
  | stop
  | text (value : String)
  | code (value : String)
  | html (value : String)
  | inlineHtml (value : String)
  | inlineMath (value : String)
  | displayMath (value : String)
  | footnoteReference (label : String)
  | softBreak
  | hardBreak
  | rule
  | taskListMarker (isDone : Bool)
  deriving DecidableEq, Repr

end PageRecipe.Markdown
