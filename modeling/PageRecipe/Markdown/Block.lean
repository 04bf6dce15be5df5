import PageRecipe.Markdown.Event
import PageRecipe.Markdown.Inline

/-!
# Blocks

The block structure of a Markdown text. Text blocks keep their text uncut until all labels
are known ; `Block.events` then cuts it and gives the events of a block.
-/

namespace PageRecipe.Markdown

/-- The text of a heading : all of its line, how much of it counts, and where its last plain
text ends. -/
structure HeadingText where
  text : List Char
  stop : Nat
  lastEnd : Option Nat
  deriving Repr

/-- A block of a Markdown text. -/
inductive Block where
  /-- A paragraph ; one in a tight list has no element of its own. -/
  | paragraph (isTight : Bool) (text : List Char)
  /-- A paragraph in a definition list that becomes a term if a definition follows. -/
  | candidate (text : List Char)
  | term (text : List Char)
  | heading (level : Nat) (id : Option String) (classes : List String) (text : HeadingText)
  | rule
  | code (text : List Char)
  | html (lines : List (List Char))
  | table (head : List (List Char)) (rows : List (List (List Char)))
  | quote (alert : Option Alert) (blocks : List Block)
  | list (isOrdered : Bool) (items : List Block)
  | item (blocks : List Block)
  | definitionList (entries : List Block)
  | definition (blocks : List Block)
  deriving Repr

namespace Block

/-- The block is a term of a definition list or its definition. -/
def isEntry : Block → Bool
  | term _ => true
  | definition _ => true
  | _ => false

/-- A candidate for a term without a definition is a paragraph. -/
def settle : Block → Block
  | candidate text => paragraph false text
  | block => block

/-- A paragraph without an element of its own. -/
def tighten : Block → Block
  | paragraph _ text => paragraph true text
  | block => block

/-- Takes the elements off the paragraphs that stand directly in an entry of a tight list. -/
def tightenEntry : Block → Block
  | item blocks => item (blocks.map tighten)
  | definition blocks => definition (blocks.map tighten)
  | block => block

/-- The tokens of a heading, the last plain text of which ends at a given position. -/
def endLast (text : List Char) (lastEnd : Nat) : List Token → List Token
  | [] => []
  | [token] =>
    match token.kind with
    | .text _ =>
      let value := (text.drop token.start).take (lastEnd - token.start)
      [{ token with kind := .text value, stop := lastEnd }]
    | _ => [token]
  | token :: rest => token :: endLast text lastEnd rest

/-- The events of a text. -/
def textEvents (labels : List (List Char)) (inTable : Bool) (text : List Char) : List Event :=
  Inline.eventsOf (inlines ⟨text, labels, inTable⟩ (Token.ofText text text.length))

/-- The events of the text of a heading. -/
def headingEvents (labels : List (List Char)) (heading : HeadingText) : List Event :=
  let tokens := Token.ofText heading.text heading.stop
  let tokens := match heading.lastEnd with
    | some lastEnd => endLast heading.text lastEnd tokens
    | none => tokens
  Inline.eventsOf (inlines ⟨heading.text, labels, false⟩ tokens)

/-- The events between the start and the stop of a tag. -/
def enclosed (tag : Tag) (events : List Event) : List Event := .start tag :: (events ++ [.stop])

/-- The events of the cells of a table row. -/
def cellEvents (labels : List (List Char)) (cells : List (List Char)) : List Event :=
  cells.flatMap fun cell => enclosed .tableCell (textEvents labels true cell)

mutual

/-- The events of a block, when these labels are defined. -/
def events (labels : List (List Char)) : Block → List Event
  | paragraph true text => textEvents labels false text
  | paragraph false text => enclosed .paragraph (textEvents labels false text)
  | candidate text => enclosed .paragraph (textEvents labels false text)
  | term text => enclosed .definitionTerm (textEvents labels false text)
  | heading level id classes text =>
    enclosed (.heading level id classes) (headingEvents labels text)
  | rule => [.rule]
  | code text =>
    enclosed .codeBlock (if text.isEmpty then [] else [.text (String.ofList text)])
  | html lines => enclosed .htmlBlock (lines.map fun line => .html (String.ofList line))
  | table head rows =>
    enclosed .table (enclosed .tableHead (cellEvents labels head) ++
      rows.flatMap fun row => enclosed .tableRow (cellEvents labels row))
  | quote alert blocks => enclosed (.blockQuote alert) (eventsOf labels blocks)
  | list isOrdered items => enclosed (.list isOrdered) (eventsOf labels items)
  | item blocks => enclosed .item (eventsOf labels blocks)
  | definitionList entries => enclosed .definitionList (eventsOf labels entries)
  | definition blocks => enclosed .definitionBody (eventsOf labels blocks)

/-- The events of several blocks in a row. -/
def eventsOf (labels : List (List Char)) : List Block → List Event
  | [] => []
  | block :: rest => events labels block ++ eventsOf labels rest

end

end Block

end PageRecipe.Markdown
