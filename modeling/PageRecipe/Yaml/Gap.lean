import PageRecipe.Yaml.Mark

/-!
# Gaps between the words of a scalar

Plain and quoted scalars may run over several lines. What stands between two of their words
is a gap : blanks on one line are kept as they are, and line breaks are folded, a single one
into a space and several into one fewer (`Gap.text`).
-/

namespace PageRecipe.Yaml

/-- The blanks and line breaks between two words. -/
structure Gap where
  /-- A line break was crossed. -/
  isBroken : Bool
  /-- The blanks in front of the first line break. -/
  blanks : List Char
  /-- The first line break. -/
  first : List Char
  /-- The line breaks after the first one. -/
  more : List Char
  deriving Repr

namespace Gap

/-- The gap without blanks. -/
def empty : Gap := ⟨false, [], [], []⟩

/-- The gap behind a line break that does not count. -/
def broken : Gap := ⟨true, [], [], []⟩

/-- The gap with a blank behind it. Blanks that start a line do not count. -/
def addBlank (gap : Gap) (c : Char) : Gap :=
  if gap.isBroken then gap else { gap with blanks := gap.blanks ++ [c] }

/-- The gap with a line break behind it. -/
def addBreak (gap : Gap) (c : Char) : Gap :=
  if gap.isBroken then { gap with more := gap.more ++ [c] } else ⟨true, [], [c], gap.more⟩

/-- What the gap stands for. -/
def text (gap : Gap) : List Char :=
  if gap.isBroken then
    if gap.first = ['\n'] then (if gap.more.isEmpty then [' '] else gap.more)
    else gap.first ++ gap.more
  else gap.blanks

/-- Reads a gap as far as it goes. In a gap that is broken a tab in front of the column
`indent` stops the reading. -/
def readFrom (indent : Nat) (gap : Gap) (mark : Mark) : List Char → Gap × Cursor
  | '\r' :: '\n' :: rest => readFrom indent (gap.addBreak '\n') (mark.below 2) rest
  | c :: rest =>
    if isBlank c then
      if gap.isBroken && c == '\t' && decide (mark.column < indent) then
        (gap, ⟨c :: rest, mark⟩)
      else readFrom indent (gap.addBlank c) (mark.right 1) rest
    else if isBreak c then readFrom indent (gap.addBreak (lineFeed c)) (mark.below 1) rest
    else (gap, ⟨c :: rest, mark⟩)
  | [] => (gap, ⟨[], mark⟩)

/-- Reads a gap, going on with `gap`. -/
def read (indent : Nat) (gap : Gap) (cursor : Cursor) : Gap × Cursor :=
  readFrom indent gap cursor.mark cursor.rest

end Gap

end PageRecipe.Yaml
