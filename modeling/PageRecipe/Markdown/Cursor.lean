import PageRecipe.Markdown.Scan

/-!
# Cursors in a line

A cursor stands in one line of a Markdown text. Spaces are taken column by column, so a tab
counts as the spaces up to the next tab stop and may be taken in part ; what is left of it is
pending.
-/

namespace PageRecipe.Markdown

/-- A place in a line : the characters ahead, the column since the last tab, and the spaces
of a tab that are still to be taken. -/
structure Cursor where
  rest : List Char
  column : Nat
  pending : Nat
  deriving Repr

namespace Cursor

/-- The cursor at the start of a line. -/
def ofLine (line : List Char) : Cursor := ⟨line, 0, 0⟩

/-- Takes up to `n` spaces and says how many were taken. -/
def takeSpaces : Nat → Cursor → Nat × Cursor
  | 0, cursor => (0, cursor)
  | n + 1, ⟨rest, column, pending + 1⟩ =>
    let (taken, cursor) := takeSpaces n ⟨rest, column, pending⟩
    (taken + 1, cursor)
  | n + 1, ⟨' ' :: rest, column, 0⟩ =>
    let (taken, cursor) := takeSpaces n ⟨rest, column + 1, 0⟩
    (taken + 1, cursor)
  | n + 1, ⟨'\t' :: rest, column, 0⟩ =>
    let (taken, cursor) := takeSpaces n ⟨rest, 0, 3 - column % 4⟩
    (taken + 1, cursor)
  | _ + 1, cursor => (0, cursor)

/-- Takes `n` spaces, or as many as there are, and says whether all `n` were there. -/
def takeExactly (n : Nat) (cursor : Cursor) : Bool × Cursor :=
  let (taken, next) := cursor.takeSpaces n
  (taken == n, next)

/-- Takes all spaces and tabs. -/
def skipSpaces (cursor : Cursor) : Cursor :=
  let blank (c : Char) : Bool := c == ' ' || c == '\t'
  ⟨cursor.rest.dropWhile blank, cursor.column + (cursor.rest.takeWhile blank).length, 0⟩

/-- Nothing but the line end is ahead. -/
def atLineEnd (cursor : Cursor) : Bool := (lineEnd? cursor.rest).isSome

/-- Takes the character `c`. -/
def takeChar? (c : Char) (cursor : Cursor) : Option Cursor :=
  match cursor.rest with
  | d :: rest => if c == d then some ⟨rest, cursor.column + 1, cursor.pending⟩ else none
  | [] => none

/-- What is ahead, with the pending spaces in front. -/
def text (cursor : Cursor) : List Char := List.replicate cursor.pending ' ' ++ cursor.rest

end Cursor

end PageRecipe.Markdown
