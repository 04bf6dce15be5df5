import PageRecipe.Markdown.Event
import PageRecipe.Prose.HtmlElement

/-!
# Trees from events

The events of a Markdown text are folded into a tree with a stack of open elements
(`Builder.push`). Text goes into the text in front of it, a heading without an id gets one
from its title, and a raw HTML block becomes what `HtmlElement.nodeOf` makes of it. Events
need not be balanced : a stray end is ignored and what is still open at the end is closed.
-/

namespace PageRecipe

open Markdown (Alert Tag Event)

/-- The id of a heading with this title : its words joined by underscores. -/
def headingId (title : String) : String :=
  String.ofList (List.intercalate ['_'] (Text.words title.toList))

/-- The class of an alert. -/
def alertClass : Alert → String
  | .note => "note"
  | .tip => "tip"
  | .important => "important"
  | .warning => "warning"
  | .caution => "caution"

/-- An element that is open, with its children so far in reverse, or the raw HTML collected in
an HTML block. -/
inductive OpenElement where
  | element (tag : String) (id : Option String) (classes : List String) (children : List Node)
  | raw (html : String)
  deriving Repr

namespace OpenElement

/-- The element that an event opens. -/
def ofTag : Tag → OpenElement
  | .paragraph => element "p" none [] []
  | .heading level id classes => element ("h" ++ toString level) id classes []
  | .blockQuote alert => element "blockquote" none (alert.toList.map alertClass) []
  | .codeBlock => element "pre" none [] []
  | .htmlBlock => raw ""
  | .list true => element "ol" none [] []
  | .list false => element "ul" none [] []
  | .item => element "li" none [] []
  | .definitionList => element "dl" none [] []
  | .definitionTerm => element "dt" none [] []
  | .definitionBody => element "dd" none [] []
  | .table => element "table" none [] []
  | .tableHead => element "thead" none [] []
  | .tableRow => element "tr" none [] []
  | .tableCell => element "td" none [] []
  | .emphasis => element "em" none [] []
  | .strong => element "strong" none [] []
  | .strikethrough => element "del" none [] []
  | .link => element "a" none [] []
  | .image => element "img" none [] []
  | .footnoteDefinition => element "div" none [] []
  | .metadataBlock => element "div" none [] []

/-- A heading without an id gets one from its title. -/
def withHeadingId (node : Node) : Node :=
  if node.isHeading && node.id?.isNone then node.withId (headingId node.textContent) else node

/-- The node of an element that is closed. -/
def close : OpenElement → Node
  | element tag id classes children =>
    withHeadingId (.element tag id classes children.reverse)
  | raw html => HtmlElement.nodeOf html

end OpenElement

/-- Adds a text to children in reverse : it goes into the text in front of it. -/
def addText (value : String) : List Node → List Node
  | .text last :: rest => .text (last ++ value) :: rest
  | children => .text value :: children

/-- A tree that is being built : the children of the body in reverse, and the open elements,
innermost first. -/
structure Builder where
  body : List Node
  stack : List OpenElement
  deriving Repr

namespace Builder

/-- Nothing is built yet. -/
def empty : Builder := ⟨[], []⟩

/-- Changes the children of the innermost element, in reverse. An HTML block has none. -/
def modify (builder : Builder) (f : List Node → List Node) : Builder :=
  match builder.stack with
  | [] => { builder with body := f builder.body }
  | .element tag id classes children :: outer =>
    { builder with stack := .element tag id classes (f children) :: outer }
  | .raw _ :: _ => builder

/-- Adds a node to the innermost element. -/
def append (builder : Builder) (node : Node) : Builder := builder.modify (node :: ·)

/-- Adds a text to the innermost element. -/
def appendText (builder : Builder) (value : String) : Builder := builder.modify (addText value)

/-- Opens an element. -/
def start (builder : Builder) (tag : Tag) : Builder :=
  { builder with stack := .ofTag tag :: builder.stack }

/-- Closes the innermost element. -/
def stop (builder : Builder) : Builder :=
  match builder.stack with
  | [] => builder
  | inner :: outer => { builder with stack := outer }.append inner.close

/-- Takes raw HTML : into the HTML block if one is innermost, else as text. -/
def appendHtml (builder : Builder) (value : String) : Builder :=
  match builder.stack with
  | .raw html :: outer => { builder with stack := .raw (html ++ value) :: outer }
  | _ => builder.appendText value

/-- Takes an event. -/
def push (builder : Builder) : Event → Builder
  | .start tag => builder.start tag
  | .stop => builder.stop
  | .text value => builder.appendText value
  | .code value => builder.append (.branch "code" [.text value])
  | .html value => builder.appendHtml value
  | .inlineHtml value => builder.appendText value
  | .inlineMath value => builder.appendText value
  | .displayMath value => builder.appendText value
  | .footnoteReference label => builder.append (.branch "sup" [.text label])
  | .softBreak => builder.appendText "\n"
  | .hardBreak => builder.append (.bare "br")
  | .rule => builder.append (.bare "hr")
  | .taskListMarker _ => builder

/-- Closes the innermost element `n` times. -/
def stopTimes : Nat → Builder → Builder
  | 0, builder => builder
  | n + 1, builder => stopTimes n builder.stop

/-- The tree, when everything that is open is closed. -/
def finish (builder : Builder) : Node :=
  .branch "body" (stopTimes builder.stack.length builder).body.reverse

/-- The tree of some events. -/
def ofEvents (events : List Event) : Node := (events.foldl push empty).finish

end Builder

end PageRecipe
