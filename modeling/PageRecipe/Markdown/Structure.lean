import PageRecipe.Markdown.Block
import PageRecipe.Markdown.LineStart

/-!
# Reading the block structure

A Markdown text is read line by line. Each line is first matched against the containers that
are open (`matchContainers`) ; those it does not continue are closed, new ones may be opened,
and what is left starts a text block, which takes further lines as long as they belong to it.
`blocks` is the whole structure and `events` the events of a text.
-/

namespace PageRecipe.Markdown

/-- A container that is open. -/
inductive Container where
  | quote (alert : Option Alert)
  /-- A list with its mark. -/
  | list (isTight : Bool) (mark : Char)
  /-- A list item, with the width of the indentation that continues it. -/
  | item (indent : Nat)
  | definitionList (isTight : Bool)
  /-- A definition, with the width of the indentation that continues it. -/
  | definition (indent : Nat)
  deriving Repr

/-- A line. -/
abbrev Line := List Char

/-- Matches a line against containers, from the outermost on : how many it continues, and the
cursor behind what it continues them with. -/
def matchContainers : List Container → Cursor → Nat × Cursor
  | [], cursor => (0, cursor)
  | container :: inner, cursor =>
    let continued : Option Cursor :=
      match container with
      | .quote _ =>
        ((cursor.takeSpaces 3).2.takeChar? '>').map fun next => (next.takeSpaces 1).2
      | .item indent | .definition indent =>
        let (all, next) := cursor.takeExactly indent
        if all || next.atLineEnd then some next else none
      | .list .. | .definitionList _ => some cursor
    match continued with
    | some next =>
      let (count, last) := matchContainers inner next
      (count + 1, last)
    | none => (0, cursor)

/-! ## Lines that go on with a text block -/

/-- A table starts in a line that begins with a bar : the line below is a head with as many
columns, in the same containers. -/
def startsTable (containers : List Container) (matched : Nat) (s : List Char) :
    List Line → Bool
  | [] => false
  | below :: _ =>
    let (count, cursor) := matchContainers containers (.ofLine below)
    count == matched && headColumns? cursor == some (columnCount s)

/-- A list marker in a paragraph starts a list, unless it is out of place : inside the
paragraph's own containers, a number other than one does not start a list, and neither does
a marker that stands alone above a blank line. -/
def interruptsWithItem (free : Bool) (s : List Char) (below : List Line) : Bool :=
  match marker? s with
  | none => false
  | some (c, number, rest) =>
    let isAlone := isBlankLine rest
    if !isAlone && !(rest.head?.any fun d => d == ' ' || d == '\t') then false
    else
      free || ((c == '-' || c == '+' || c == '*' || number == 1) &&
        !(isAlone && (below.head?.all isBlankLine)))

/-- The line starts something that ends a paragraph, or a table when `free` holds. -/
def interrupts (free : Bool) (s : List Char) (below : List Line) : Bool :=
  (lineEnd? s).isSome || isRule s || (atxHeading? s).isSome || (fence? s).isSome ||
    s.head? == some '>' || interruptsWithItem free s below || interruptsWithHtml s ||
    s.head? == some ':'

/-- The line ends a paragraph in containers of which it continues `matched`. -/
def endsParagraph (containers : List Container) (matched : Nat) (s : List Char)
    (below : List Line) : Bool :=
  interrupts (matched != containers.length) s below ||
    (s.head? == some '|' && startsTable containers matched s below)

/-- How the next line relates to a paragraph. -/
inductive Continuation where
  /-- It goes on with the paragraph. -/
  | goesOn (cursor : Cursor)
  /-- It makes a heading of the paragraph. -/
  | underlines (level : Nat)
  /-- The paragraph has ended. -/
  | ends

/-- Relates a line to the paragraph above it. -/
def continuation (containers : List Container) (line : Line) (below : List Line) :
    Continuation :=
  let (matched, cursor) := matchContainers containers (.ofLine line)
  let (isIndented, next) := cursor.takeExactly 4
  let underline := if matched == containers.length then underline? next.rest else none
  if isIndented then (if next.skipSpaces.atLineEnd then .ends else .goesOn cursor)
  else
    match underline with
    | some level => .underlines level
    | none =>
      if endsParagraph containers matched next.rest below || next.skipSpaces.atLineEnd then .ends
      else .goesOn cursor

/-- The lines that go on with a paragraph, without what continues the containers, how many
lines they take, and the level when an underline makes it a heading. -/
def paragraphLines (containers : List Container) : List Line → List Line × Nat × Option Nat
  | [] => ([], 0, none)
  | line :: below =>
    match continuation containers line below with
    | .ends => ([], 0, none)
    | .underlines level => ([], 1, some level)
    | .goesOn cursor =>
      let (more, count, level) := paragraphLines containers below
      (cursor.rest :: more, count + 1, level)

/-- A line of code or HTML ends with a line feed alone. -/
def unifyLineEnd (line : List Char) : List Char :=
  match line.reverse with
  | '\n' :: '\r' :: rest => ('\n' :: rest).reverse
  | _ => line

/-- The lines of fenced code and how many lines they take, the closing fence included. -/
def fencedLines (containers : List Container) (c : Char) (count indent : Nat) :
    List Line → List Line × Nat
  | [] => ([], 0)
  | line :: below =>
    let (matched, cursor) := matchContainers containers (.ofLine line)
    if matched < containers.length then ([], 0)
    else
      let (_, cursor) := cursor.takeSpaces indent
      let (isIndented, fence) := cursor.takeExactly (4 - indent)
      if !isIndented && closesFence c count fence.rest then ([], 1)
      else
        let (more, n) := fencedLines containers c count indent below
        (unifyLineEnd cursor.text :: more, n + 1)

/-- The lines of indented code below its first one, and how many lines they take. -/
def indentedLines (containers : List Container) : List Line → List Line × Nat
  | [] => ([], 0)
  | line :: below =>
    let (matched, cursor) := matchContainers containers (.ofLine line)
    let (isIndented, content) := cursor.takeExactly 4
    if matched < containers.length || !(isIndented || content.atLineEnd) then ([], 0)
    else
      let (more, n) := indentedLines containers below
      (unifyLineEnd content.text :: more, n + 1)

/-- The lines of an HTML block below its first one, and how many lines they take. -/
def htmlLines (containers : List Container) (ending : HtmlEnd) : List Line → List Line × Nat
  | [] => ([], 0)
  | line :: below =>
    let (matched, cursor) := matchContainers containers (.ofLine line)
    if matched < containers.length then ([], 0)
    else
      let content := unifyLineEnd cursor.rest
      match ending with
      | .blankLine =>
        if isBlankLine cursor.rest then ([], 0)
        else
          let (more, n) := htmlLines containers ending below
          (content :: more, n + 1)
      | .mark value =>
        if (afterMark? value cursor.rest).isSome then ([content], 1)
        else
          let (more, n) := htmlLines containers ending below
          (content :: more, n + 1)

/-- The rows of a table below its head. -/
def tableRows (containers : List Container) (columns : Nat) :
    List Line → List (List (List Char))
  | [] => []
  | line :: below =>
    let (matched, cursor) := matchContainers containers (.ofLine line)
    let s := cursor.skipSpaces.rest
    if matched < containers.length || interrupts true s below then []
    else
      let cells := rowCells (2 * s.length + 2) s
      if cells.isEmpty then [] else fitRow columns cells :: tableRows containers columns below

/-! ## Open containers -/

/-- An open container with the blocks in it so far, in reverse. -/
structure Frame where
  container : Container
  blocks : List Block

/-- What has been read : the open containers, innermost first, the blocks outside all of
them, in reverse, and the labels that were defined. -/
structure State where
  frames : List Frame
  top : List Block
  labels : List (List Char)
  /-- The last line was blank. -/
  isBlankBefore : Bool
  /-- The innermost item started with a blank line. -/
  isItemEmpty : Bool

namespace State

/-- Nothing has been read. -/
def initial : State := ⟨[], [], [], false, false⟩

/-- The open containers, outermost first. -/
def containers (state : State) : List Container := state.frames.reverse.map (·.container)

/-- The blocks of the innermost container, in reverse. -/
def current (state : State) : List Block :=
  match state.frames with
  | frame :: _ => frame.blocks
  | [] => state.top

/-- Replaces the blocks of the innermost container. -/
def setCurrent (state : State) (blocks : List Block) : State :=
  match state.frames with
  | frame :: outer => { state with frames := { frame with blocks } :: outer }
  | [] => { state with top := blocks }

/-- Adds a block to the innermost container. -/
def add (state : State) (block : Block) : State := state.setCurrent (block :: state.current)

/-- Opens a container. -/
def enter (state : State) (container : Container) : State :=
  { state with frames := ⟨container, []⟩ :: state.frames }

/-- The block of a container that is closed with its blocks in order. -/
def blockOf (container : Container) (blocks : List Block) : Block :=
  match container with
  | .quote alert => .quote alert blocks
  | .list isTight mark =>
    .list (mark == '.' || mark == ')') (if isTight then blocks.map Block.tightenEntry else blocks)
  | .item _ => .item blocks
  | .definitionList isTight =>
    .definitionList (if isTight then blocks.map Block.tightenEntry else blocks)
  | .definition _ => .definition blocks

/-- Closes the innermost container and adds its block to the one around it. -/
def closeFrame (state : State) : State :=
  match state.frames with
  | [] => state
  | frame :: outer =>
    { state with frames := outer }.add (blockOf frame.container frame.blocks.reverse)

/-- Closes the innermost container. A definition list gives back what follows its last
definition ; when nothing does, the container around it is closed as well. -/
def close (state : State) : State :=
  match state.frames with
  | [] => state
  | frame :: outer =>
    match frame.container with
    | .definitionList _ =>
      let blocks := frame.blocks.reverse
      let entries := blocks.takeWhile Block.isEntry
      let others := (blocks.drop entries.length).map Block.settle
      let closed := { state with frames := outer, isItemEmpty := false }.add
        (blockOf frame.container entries)
      if others.isEmpty then closed.closeFrame
      else closed.setCurrent (others.reverse ++ closed.current)
    | .list true _ => { state.closeFrame with isItemEmpty := false }
    | _ => state.closeFrame

/-- Closes the innermost container `n` times. -/
def closeTimes : Nat → State → State
  | 0, state => state
  | n + 1, state => closeTimes n state.close

/-- The innermost container is an item or a definition. -/
def isInEntry (state : State) : Bool :=
  match state.frames with
  | ⟨.item _, _⟩ :: _ => true
  | ⟨.definition _, _⟩ :: _ => true
  | _ => false

/-- An item may start with one blank line ; after a second one it is closed empty. -/
def finishEmptyItem (state : State) : State :=
  let closed :=
    if state.isItemEmpty && state.isBlankBefore && state.isInEntry then state.close else state
  { closed with isItemEmpty := false }

/-- A list that holds a blank line between its parts is loose. -/
def loosen : Container → Container
  | .list _ mark => .list false mark
  | .definitionList _ => .definitionList false
  | container => container

/-- Makes the container around the innermost one loose. -/
def loosenParent (state : State) : State :=
  match state.frames with
  | inner :: parent :: outer =>
    { state with
      frames := inner :: { parent with container := loosen parent.container } :: outer }
  | _ => state

/-- Makes the innermost container loose if the last line was blank. -/
def loosenCurrent (state : State) : State :=
  match state.isBlankBefore, state.frames with
  | true, frame :: outer =>
    { state with
      frames := { frame with container := loosen frame.container } :: outer
      isBlankBefore := false }
  | _, _ => state

/-- Before a block that is no part of an open list : the list is closed, and a blank line in
front of the block makes the list around it loose. -/
def finishList (state : State) : State :=
  let state := state.finishEmptyItem
  let state := match state.frames with
    | ⟨.list .., _⟩ :: _ => state.close
    | ⟨.definitionList _, _⟩ :: _ => state.close
    | _ => state
  if state.isBlankBefore then { state.loosenParent with isBlankBefore := false } else state

/-- Goes on with the open list if its mark is the same, or opens a new one. -/
def continueList (state : State) (mark : Char) : State :=
  let state := state.finishEmptyItem
  let start (state : State) : State :=
    { state.enter (.list true mark) with isBlankBefore := false }
  match state.frames with
  | ⟨.list _ other, _⟩ :: _ =>
    if other = mark then state.loosenCurrent else start state.finishList
  | [] => start state
  | _ => start state.finishList

/-- Goes on with a definition list, or makes one of the paragraph in front of a definition
marker ; `none` when there is nothing to define. -/
def continueDefinitions? (state : State) : Option State :=
  match state.current with
  | .paragraph _ text :: before =>
    let list := (state.setCurrent before).enter (.definitionList true)
    some (list.add (.term text)).loosenCurrent
  | .candidate text :: before => some ((state.setCurrent (.term text :: before)).loosenCurrent)
  | .definition _ :: _ => some state.loosenCurrent
  | _ => none

/-- The first blank line of an empty item leaves its content without indentation. -/
def blankLine (state : State) : State :=
  match state.frames with
  | ⟨.quote _, _⟩ :: _ => state
  | ⟨.item indent, blocks⟩ :: outer =>
    let indent := if state.isItemEmpty then 0 else indent
    { state with frames := ⟨.item indent, blocks⟩ :: outer, isBlankBefore := true }
  | ⟨.definition indent, blocks⟩ :: outer =>
    let indent := if state.isItemEmpty then 0 else indent
    { state with frames := ⟨.definition indent, blocks⟩ :: outer, isBlankBefore := true }
  | _ => { state with isBlankBefore := true }

/-! ## Text blocks -/

/-- The heading made of the lines of a paragraph by an underline. -/
def underlined (level : Nat) (text : List Char) : Block :=
  match attributeBlock? text with
  | some (length, inside) =>
    let (id, classes) := readAttributes inside
    let stop := ((text.take length).reverse.dropWhile isLineBlank).length
    .heading level id classes ⟨text, stop, none⟩
  | none => .heading level none [] ⟨text, text.length, none⟩

/-- The heading on a line behind its number signs. -/
def atx (level : Nat) (rest : List Char) : Block :=
  if (lineEnd? rest).isSome then .heading level none [] ⟨[], 0, none⟩
  else
    let text := skipBlanks rest
    let (length, id, classes) :=
      match attributeBlock? text with
      | some (length, inside) => (length, readAttributes inside)
      | none => (text.length, none, [])
    .heading level id classes ⟨text, length, some (headingEnd (text.take length))⟩

/-- The innermost container is a definition list that a term may follow in. -/
def awaitsTerm (state : State) : Bool :=
  match state.frames with
  | ⟨.definitionList _, .definition _ :: _⟩ :: _ => true
  | ⟨.definitionList _, []⟩ :: _ => true
  | _ => false

/-- Reads a paragraph, or what it turns out to be, and says how many lines below its first
one it takes. -/
def readParagraph (state : State) (text : List Char) (below : List Line) : State × Nat :=
  let isCandidate := state.awaitsTerm
  let state := if isCandidate then { state with isBlankBefore := false } else state.finishList
  let containers := state.containers
  let head : Option Nat :=
    match below with
    | [] => none
    | line :: _ =>
      let (matched, cursor) := matchContainers containers (.ofLine line)
      if 0 < countBars ' ' text && matched == containers.length &&
          headColumns? cursor == some (columnCount text) then some (columnCount text)
      else none
  match head with
  | some columns =>
    let rows := tableRows containers columns below.tail
    let cells := fitRow columns (rowCells (2 * text.length + 2) text)
    (state.add (.table cells rows), rows.length + 1)
  | none =>
    let (more, count, level) := paragraphLines containers below
    let whole := text ++ more.flatten
    let block : Block := match level with
      | some level => underlined level whole
      | none => if isCandidate then .candidate whole else .paragraph false whole
    (state.add block, count)

/-- How many of the lines are taken when `left` characters of them are not. -/
def linesTaken (left : Nat) : List Line → Nat
  | [] => 0
  | line :: rest => if left < (line :: rest).flatten.length then 1 + linesTaken left rest else 0

/-- The lines that a definition of a label may reach into. -/
def definitionLines (containers : List Container) (below : List Line) : List Line :=
  (paragraphLines containers below).1

/-- Reads definitions of labels and the paragraph behind them. -/
def readText : Nat → State → List Char → List Line → State × Nat
  | 0, state, text, below => state.readParagraph text below
  | fuel + 1, state, text, below =>
    let containers := state.containers
    let more := definitionLines containers below
    match definition? (text ++ more.flatten) with
    | none => state.readParagraph text below
    | some (label, rest) =>
      let taken := linesTaken rest.length more
      let state := { state with labels := label :: state.labels }
      match below.drop taken with
      | [] => (state.finishList, taken)
      | line :: others =>
        let (matched, cursor) := matchContainers containers (.ofLine line)
        let (isIndented, next) := cursor.takeExactly 4
        if !isIndented && endsParagraph containers matched next.rest others then
          (state.finishList, taken)
        else
          let (state, count) := readText fuel state next.skipSpaces.rest others
          (state, taken + 1 + count)

/-- Reads indented code from its first line on. -/
def readIndented (state : State) (first : Cursor) (below : List Line) : State × Nat :=
  let (more, count) := indentedLines state.containers below
  let all := unifyLineEnd first.text :: more
  let kept := (all.reverse.dropWhile isBlankLine).reverse
  let endsBlank := all.getLast?.any isBlankLine
  ({ state.add (.code kept.flatten) with isBlankBefore := endsBlank }, count)

/-- Reads the text block that starts at the cursor, and says how many lines below it takes. -/
def readLeaf (state : State) (cursor : Cursor) (below : List Line) : State × Nat :=
  let (indent, content) := cursor.takeSpaces 4
  let s := content.rest
  if indent = 4 then state.finishList.readIndented content below
  else
    match blockStart? s with
    | some ending =>
      let state := state.finishList
      let first := unifyLineEnd s
      let closed := match ending with
        | .mark value => (afterMark? value s).isSome
        | .blankLine => false
      let (more, count) := if closed then ([], 0) else htmlLines state.containers ending below
      (state.add (.html (first :: more)), count)
    | none =>
      if isRule s then (state.finishList.add .rule, 0)
      else
        match atxHeading? s with
        | some (level, rest) => (state.finishList.add (atx level rest), 0)
        | none =>
          match fence? s with
          | some (c, length) =>
            let state := state.finishList
            let (code, count) := fencedLines state.containers c length indent below
            (state.add (.code code.flatten), count)
          | none => readText (below.length + 1) state s below

/-! ## Lines -/

/-- Goes on behind the mark of an alert, with the next line if that belongs to its first
paragraph. -/
def readAlert (state : State) (below : List Line) : State × Nat :=
  match below with
  | [] => (state, 0)
  | line :: others =>
    let containers := state.containers
    let (matched, cursor) := matchContainers containers (.ofLine line)
    let (isIndented, next) := cursor.takeExactly 4
    if !isIndented && endsParagraph containers matched next.rest others then (state, 0)
    else
      let content := next.skipSpaces
      if isBlankLine content.rest then (state.blankLine, 1)
      else
        let (state, count) := state.readLeaf content others
        (state, count + 1)

/-- Opens the containers that start at the cursor and reads the text block in them. -/
def readContent : Nat → State → Cursor → List Line → State × Nat
  | 0, state, cursor, below => state.readLeaf cursor below
  | fuel + 1, state, cursor, below =>
    let leaf : State × Nat :=
      if isBlankLine cursor.rest then (state.blankLine, 0) else state.readLeaf cursor below
    let (indent, start) := cursor.takeSpaces 4
    if 4 ≤ indent then leaf
    else
      match itemStart? indent start with
      | some (mark, _, width, content) =>
        let state := (state.continueList mark).enter (.item width)
        if isBlankLine content.rest then ({ state with isItemEmpty := true }, 0)
        else readContent fuel state content below
      | none =>
        let definition : Option (State × Nat × Cursor) :=
          match definitionStart? indent start with
          | none => none
          | some (width, content) =>
            state.continueDefinitions?.map fun state => (state, width, content)
        match definition with
        | some (state, width, content) =>
          let state := state.enter (.definition width)
          if isBlankLine content.rest then ({ state with isItemEmpty := true }, 0)
          else readContent fuel state content below
        | none =>
          match start.takeChar? '>' with
          | some content =>
            let content := (content.takeSpaces 1).2
            let alert := alert? content.rest
            let state := state.finishList.enter (.quote alert)
            if alert.isSome then state.readAlert below
            else readContent fuel state content below
          | none => leaf

/-- Reads a line, with the lines below it that belong to its text block, and says how many of
those there are. -/
def readLine (state : State) (line : Line) (below : List Line) : State × Nat :=
  let containers := state.containers
  let (matched, cursor) := matchContainers containers (.ofLine line)
  let state := closeTimes (containers.length - matched) state
  readContent (line.length + 1) state cursor below

/-- Reads lines until there are none left, behind some that have been read with the one above
them. -/
def readLinesBelow (state : State) : Nat → List Line → State
  | _, [] => state
  | skipped + 1, _ :: below => readLinesBelow state skipped below
  | 0, line :: below =>
    let (state, count) := state.readLine line below
    readLinesBelow state count below

/-- Reads lines until there are none left. -/
def readLines (state : State) (lines : List Line) : State := state.readLinesBelow 0 lines

end State

/-- What has been read at the end of a text, all containers closed. -/
def finalState (s : List Char) : State :=
  let state := State.initial.readLines (lines s)
  State.closeTimes state.frames.length state

/-- The blocks of a Markdown text. -/
def blocks (s : List Char) : List Block := (finalState s).top.reverse

/-- The labels that a Markdown text defines. -/
def labels (s : List Char) : List (List Char) := (finalState s).labels

/-- The events of a Markdown text. -/
def events (s : List Char) : List Event := Block.eventsOf (labels s) (blocks s)

end PageRecipe.Markdown
