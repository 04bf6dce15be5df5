/-!
# Places in a YAML text

A mark counts the characters, the lines and the characters of the line in front of a place. A
cursor is a mark together with the text that is ahead of it, and moves on character by
character or over a line break (`Cursor.next`, `Cursor.nextLine`).
-/

namespace PageRecipe.Yaml

/-- A place in a text, counted from zero. -/
structure Mark where
  index : Nat
  line : Nat
  column : Nat
  deriving DecidableEq, Repr, Inhabited

namespace Mark

/-- The start of a text. -/
def start : Mark := ⟨0, 0, 0⟩

/-- The mark stands at the start of the text. -/
def isStart (mark : Mark) : Bool := mark.line == 0 && mark.column == 0

/-- The place `n` characters further on the same line. -/
def right (mark : Mark) (n : Nat) : Mark := ⟨mark.index + n, mark.line, mark.column + n⟩

/-- The start of the line after a line break of `n` characters. -/
def below (mark : Mark) (n : Nat) : Mark := ⟨mark.index + n, mark.line + 1, 0⟩

/-- The same place, or the start of the next line if it is not at the start of a line. -/
def lineStart (mark : Mark) : Mark :=
  if mark.column = 0 then mark else ⟨mark.index, mark.line + 1, 0⟩

/-- A mark in words. Lines and columns are counted from one. -/
def display (mark : Mark) : String :=
  if mark.isStart then "position " ++ toString mark.index
  else "line " ++ toString (mark.line + 1) ++ " column " ++ toString (mark.column + 1)

end Mark

/-! ## Kinds of characters -/

/-- A character that ends a line. -/
def isBreak (c : Char) : Bool :=
  c == '\r' || c == '\n' || c == '\x85' || c == '\u2028' || c == '\u2029'

/-- A space or a tab. -/
def isBlank (c : Char) : Bool := c == ' ' || c == '\t'

/-- A character of names, anchors and tag handles. -/
def isNameChar (c : Char) : Bool := c.isAlphanum || c == '_' || c == '-'

/-- The text is at its end or at a line break. -/
def atBreak (s : List Char) : Bool := s.head?.all isBreak

/-- The text is at its end, at a line break or at a blank. -/
def atGap (s : List Char) : Bool := s.head?.all fun c => isBlank c || isBreak c

/-- What a line break stands for in the value of a scalar. -/
def lineFeed (c : Char) : Char := if c == '\u2028' || c == '\u2029' then c else '\n'

/-- A character that a YAML text may hold. -/
def isAllowed (c : Char) : Bool :=
  let n := c.toNat
  n == 9 || n == 10 || n == 13 || (0x20 ≤ n && n ≤ 0x7E) || n == 0x85 ||
    (0xA0 ≤ n && n ≤ 0xFFFD) || 0x10000 ≤ n

/-! ## Cursors -/

/-- The text ahead of a place. -/
structure Cursor where
  rest : List Char
  mark : Mark
  deriving Repr, Inhabited

namespace Cursor

/-- The cursor `n` characters further on the same line. -/
def advance (cursor : Cursor) (n : Nat) : Cursor :=
  ⟨cursor.rest.drop n, cursor.mark.right n⟩

/-- The cursor one character further on the same line. -/
def next (cursor : Cursor) : Cursor := cursor.advance 1

/-- The cursor behind the characters of one line that satisfy `p`. -/
def skipWhile (p : Char → Bool) (cursor : Cursor) : Cursor :=
  ⟨cursor.rest.dropWhile p, cursor.mark.right (cursor.rest.takeWhile p).length⟩

/-- The cursor in the next line, when it stands at a line break. -/
def nextLine (cursor : Cursor) : Cursor :=
  match cursor.rest with
  | '\r' :: '\n' :: rest => ⟨rest, cursor.mark.below 2⟩
  | c :: rest => if isBreak c then ⟨rest, cursor.mark.below 1⟩ else cursor
  | [] => cursor

/-- The line break at the cursor, as a scalar keeps it. -/
def breakText (cursor : Cursor) : List Char :=
  match cursor.rest with
  | c :: _ => if isBreak c then [lineFeed c] else []
  | [] => []

/-- The cursor at the end of its line. -/
def toLineEnd (cursor : Cursor) : Cursor := cursor.skipWhile fun c => !isBreak c

/-- The character at the cursor is `c`. -/
def isAt (cursor : Cursor) (c : Char) : Bool := cursor.rest.head? == some c

/-- The character at the cursor satisfies `p`. -/
def isAtSome (cursor : Cursor) (p : Char → Bool) : Bool := cursor.rest.head?.any p

/-- Three times the character `c` at the start of a line, with a gap behind. -/
def isAtMarker (cursor : Cursor) (c : Char) : Bool :=
  cursor.mark.column == 0 && [c, c, c].isPrefixOf cursor.rest && atGap (cursor.rest.drop 3)

/-- A marker that starts or ends a document. -/
def isAtDocumentMarker (cursor : Cursor) : Bool := cursor.isAtMarker '-' || cursor.isAtMarker '.'

end Cursor

end PageRecipe.Yaml
