import PageRecipe.Numeric.Literal
import PageRecipe.Yaml.Fault
import PageRecipe.Yaml.Gap

/-!
# Quoted scalars

In single quotes only the quote itself is escaped, by writing it twice. In double quotes a
backslash starts an escape, and at the end of a line it takes the line break away.
-/

namespace PageRecipe.Yaml.QuotedScalar

/-- What an escape of one letter stands for. -/
def letterEscape? : Char → Option Char
  | '0' => some '\x00'
  | 'a' => some '\x07'
  | 'b' => some '\x08'
  | 't' => some '\t'
  | '\t' => some '\t'
  | 'n' => some '\n'
  | 'v' => some '\x0b'
  | 'f' => some '\x0c'
  | 'r' => some '\r'
  | 'e' => some '\x1b'
  | ' ' => some ' '
  | '"' => some '"'
  | '/' => some '/'
  | '\\' => some '\\'
  | 'N' => some '\x85'
  | '_' => some '\xa0'
  | 'L' => some '\u2028'
  | 'P' => some '\u2029'
  | _ => none

/-- How many hexadecimal digits follow the letter of a code point escape. -/
def codeLength? : Char → Option Nat
  | 'x' => some 2
  | 'u' => some 4
  | 'U' => some 8
  | _ => none

/-- Reads the escape at a backslash. -/
def readEscape (start : Mark) (cursor : Cursor) : Except Fault (Char × Cursor) :=
  let fault (problem : Problem) (place : Cursor) : Fault :=
    .within .quotedScalarEscape start problem place.mark
  match cursor.next.rest with
  | [] => .error (fault .unknownEscape cursor)
  | letter :: rest =>
    let behind := cursor.advance 2
    match letterEscape? letter, codeLength? letter with
    | some c, _ => .ok (c, behind)
    | none, none => .error (fault .unknownEscape cursor)
    | none, some length =>
      let digits := rest.take length
      match natOfDigits? 16 digits with
      | none => .error (fault .badHexadecimal behind)
      | some n =>
        if digits.length < length then .error (fault .badHexadecimal behind)
        else if 0x10FFFF < n ∨ (0xD800 ≤ n ∧ n ≤ 0xDFFF) then .error (fault .badCodePoint behind)
        else .ok (Char.ofNat n, behind.advance length)

/-- Reads a word up to a gap or the closing quote, at most `fuel` characters. A line break
that a backslash takes away ends the word and starts a broken gap. -/
def readWord (isSingle : Bool) (start : Mark) :
    Nat → List Char → Cursor → Except Fault (List Char × Gap × Cursor)
  | 0, before, cursor => .ok (before, .empty, cursor)
  | fuel + 1, before, cursor =>
    match cursor.rest with
    | [] => .ok (before, .empty, cursor)
    | c :: rest =>
      if isBlank c || isBreak c then .ok (before, .empty, cursor)
      else if isSingle && c == '\'' && rest.head? == some '\'' then
        readWord isSingle start fuel ('\'' :: before) (cursor.advance 2)
      else if c == (if isSingle then '\'' else '"') then .ok (before, .empty, cursor)
      else if !isSingle && c == '\\' then
        if cursor.next.isAtSome isBreak then .ok (before, .broken, cursor.next.nextLine)
        else
          match readEscape start cursor with
          | .error fault => .error fault
          | .ok (escaped, next) => readWord isSingle start fuel (escaped :: before) next
      else readWord isSingle start fuel (c :: before) cursor.next

/-- Reads on behind the text `before`, which is in reverse, at most `fuel` words. -/
def readFrom (isSingle : Bool) (start : Mark) :
    Nat → List Char → Cursor → Except Fault (List Char × Cursor)
  | 0, _, cursor => .error (.within .quotedScalar start .unclosedScalar cursor.mark)
  | fuel + 1, before, cursor =>
    if cursor.isAtDocumentMarker then
      .error (.within .quotedScalar start .documentMarkerInScalar cursor.mark)
    else if cursor.rest.isEmpty then
      .error (.within .quotedScalar start .unclosedScalar cursor.mark)
    else
      match readWord isSingle start (cursor.rest.length + 1) before cursor with
      | .error fault => .error fault
      | .ok (before, gap, cursor) =>
        if cursor.isAt (if isSingle then '\'' else '"') then .ok (before.reverse, cursor.next)
        else
          let (gap, cursor) := gap.read 0 cursor
          readFrom isSingle start fuel (gap.text.reverse ++ before) cursor

/-- Reads the quoted scalar at the cursor. -/
def read (cursor : Cursor) : Except Fault (List Char × Cursor) :=
  readFrom (cursor.isAt '\'') cursor.mark (cursor.rest.length + 1) [] cursor.next

end PageRecipe.Yaml.QuotedScalar
