import PageRecipe.Yaml.Fault

/-!
# Block scalars

A block scalar starts with `|` or `>` and goes on with the lines that are indented below it.
The literal style keeps the line breaks, the folded style turns a single line break between
two words into a space, and the chomping mark decides on the line breaks at the end.
-/

namespace PageRecipe.Yaml.BlockScalar

/-- What becomes of the line breaks at the end. -/
inductive Chomping where
  | strip
  | clip
  | keep
  deriving DecidableEq, Repr

/-- The chomping that a character marks. -/
def chomping? : Char → Option Chomping
  | '+' => some .keep
  | '-' => some .strip
  | _ => none

/-- The head of a block scalar : its chomping and its indentation, zero if it is to be found. -/
structure Header where
  chomping : Chomping
  indent : Nat
  deriving Repr

/-- Reads the digit of an indentation, if there is one. -/
def readIndent (start : Mark) (cursor : Cursor) : Except Fault (Nat × Cursor) :=
  match cursor.rest.head? with
  | some c =>
    if c == '0' then .error (.within .blockScalar start .zeroIndentation cursor.mark)
    else if c.isDigit then .ok (c.toNat - '0'.toNat, cursor.next)
    else .ok (0, cursor)
  | none => .ok (0, cursor)

/-- Reads a chomping mark, if there is one. -/
def readChomping? (cursor : Cursor) : Option (Chomping × Cursor) :=
  (cursor.rest.head?.bind chomping?).map fun chomping => (chomping, cursor.next)

/-- Reads the marks behind `|` or `>`, in either order. -/
def readHeader (start : Mark) (cursor : Cursor) : Except Fault (Header × Cursor) :=
  match readChomping? cursor with
  | some (chomping, cursor) => do
    let (indent, cursor) ← readIndent start cursor
    return (⟨chomping, indent⟩, cursor)
  | none => do
    let (indent, cursor) ← readIndent start cursor
    if indent = 0 then return (⟨.clip, 0⟩, cursor)
    match readChomping? cursor with
    | some (chomping, cursor) => return (⟨chomping, indent⟩, cursor)
    | none => return (⟨.clip, indent⟩, cursor)

/-- The blank lines in front of a line of text, and where they lead. -/
structure Breaks where
  text : List Char
  widest : Nat
  cursor : Cursor

/-- Reads blank lines and the indentation of the line behind them. An `indent` of zero takes
all spaces. -/
def readBreaks (start : Mark) (indent : Nat) :
    Nat → List Char → Nat → Cursor → Except Fault Breaks
  | 0, text, widest, cursor => .ok ⟨text, widest, cursor⟩
  | fuel + 1, text, widest, cursor =>
    let spaces := (cursor.rest.takeWhile (· == ' ')).length
    let room := if indent = 0 then spaces else min spaces (indent - cursor.mark.column)
    let cursor := cursor.advance room
    let widest := max widest cursor.mark.column
    if (indent = 0 ∨ cursor.mark.column < indent) ∧ cursor.isAt '\t' then
      .error (.within .blockScalar start .tabInIndentation cursor.mark)
    else if cursor.isAtSome isBreak then
      readBreaks start indent fuel (text ++ cursor.breakText) widest cursor.nextLine
    else .ok ⟨text, widest, cursor⟩

/-- What stands for the line break between two lines and the blank lines after it. -/
def join (isLiteral : Bool) (lead : List Char) (wasBlank isBlank : Bool) (more : List Char) :
    List Char :=
  if !isLiteral && lead == ['\n'] && !wasBlank && !isBlank then
    if more.isEmpty then [' '] else more
  else lead ++ more

/-- Reads the lines of a block scalar, at most `fuel` of them, behind the text `before`, the
line break `lead` and the blank lines `more`. -/
def readLines (isLiteral : Bool) (chomping : Chomping) (start : Mark) (indent : Nat) :
    Nat → List Char → List Char → Bool → List Char → Cursor → Except Fault (List Char × Cursor)
  | 0, before, _, _, _, cursor => .ok (before, cursor)
  | fuel + 1, before, lead, wasBlank, more, cursor =>
    if cursor.mark.column = indent ∧ !cursor.rest.isEmpty then
      let blank := cursor.isAtSome Yaml.isBlank
      let line := cursor.rest.takeWhile fun c => !isBreak c
      let before := before ++ join isLiteral lead wasBlank blank more ++ line
      let atEnd := cursor.toLineEnd
      match readBreaks start indent (cursor.rest.length + 1) [] 0 atEnd.nextLine with
      | .error fault => .error fault
      | .ok breaks =>
        readLines isLiteral chomping start indent fuel before atEnd.breakText blank breaks.text
          breaks.cursor
    else
      let last := if chomping = .strip then [] else lead
      let blankLines := if chomping = .keep then more else []
      .ok (before ++ last ++ blankLines, cursor)

/-- Reads the block scalar at the cursor, which is below a collection of the indentation
`outer`. -/
def read (outer : Int) (cursor : Cursor) : Except Fault (List Char × Cursor) := do
  let start := cursor.mark
  let isLiteral := cursor.isAt '|'
  let (header, cursor) ← readHeader start cursor.next
  let cursor := cursor.skipWhile isBlank
  let cursor := if cursor.isAt '#' then cursor.toLineEnd else cursor
  if !atBreak cursor.rest then
    throw (.within .blockScalar start .missingCommentOrBreak cursor.mark)
  let cursor := cursor.nextLine
  let given := if header.indent = 0 then 0 else outer.toNat + header.indent
  let breaks ← readBreaks start given (cursor.rest.length + 1) [] 0 cursor
  let indent := if given = 0 then max (max breaks.widest (outer + 1).toNat) 1 else given
  readLines isLiteral header.chomping start indent (breaks.cursor.rest.length + 1) [] [] false
    breaks.text breaks.cursor

end PageRecipe.Yaml.BlockScalar
