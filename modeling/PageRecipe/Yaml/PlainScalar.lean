import PageRecipe.Yaml.Fault
import PageRecipe.Yaml.Gap

/-!
# Plain scalars

A plain scalar has no quotes. It goes on until a character that means something else where it
stands : a comment, a colon in front of a gap, in a flow collection also a comma or a bracket,
or a line that is not indented enough.
-/

namespace PageRecipe.Yaml.PlainScalar

/-- A bracket or comma of flow collections. -/
def isFlowMark (c : Char) : Bool :=
  c == ',' || c == '[' || c == ']' || c == '{' || c == '\x7d'

/-- A plain scalar may start at the text. -/
def startsAt (inFlow : Bool) (s : List Char) : Bool :=
  match s with
  | [] => false
  | c :: rest =>
    !(isBlank c || isBreak c || "-?:,[]\x7b\x7d#&*!|>'\"%@\x60".toList.contains c) ||
      (c == '-' && !rest.head?.any isBlank) ||
      (!inFlow && (c == '?' || c == ':') && !atGap rest)

/-- A colon that is out of place in a flow collection. -/
def isStrayColon (inFlow : Bool) (s : List Char) : Bool :=
  match s with
  | ':' :: c :: _ => inFlow && (isFlowMark c || c == '?')
  | _ => false

/-- A word of a plain scalar ends at the text. -/
def isWordEnd (inFlow : Bool) (s : List Char) : Bool :=
  match s with
  | [] => true
  | c :: rest => isBlank c || isBreak c || (c == ':' && atGap rest) || (inFlow && isFlowMark c)

/-- How many characters the word at the text has, and whether a stray colon ends it. -/
def wordLength (inFlow : Bool) : List Char → Nat × Bool
  | [] => (0, false)
  | c :: rest =>
    if !(isBlank c || isBreak c) && isStrayColon inFlow (c :: rest) then (0, true)
    else if isWordEnd inFlow (c :: rest) then (0, false)
    else
      let (length, stray) := wordLength inFlow rest
      (length + 1, stray)

/-- A plain scalar that was read. -/
structure Reading where
  text : List Char
  /-- What was crossed behind its last word ends a line. -/
  endsLine : Bool
  cursor : Cursor

/-- Reads on behind the text `before` and the gap after it, at most `fuel` words. -/
def readFrom (inFlow : Bool) (indent : Nat) (start : Mark) :
    Nat → List Char → Gap → Cursor → Except Fault Reading
  | 0, before, gap, cursor => .ok ⟨before, gap.isBroken, cursor⟩
  | fuel + 1, before, gap, cursor =>
    if cursor.isAtDocumentMarker || cursor.isAt '#' then
      .ok ⟨before, gap.isBroken, cursor⟩
    else
      let (length, stray) := wordLength inFlow cursor.rest
      if stray then
        .error (.within .plainScalar start .colonInPlainScalar (cursor.advance length).mark)
      else
        let (before, gap) :=
          if length = 0 then (before, gap)
          else (before ++ gap.text ++ cursor.rest.take length, .empty)
        let cursor := cursor.advance length
        if !(cursor.isAtSome fun c => isBlank c || isBreak c) then
          .ok ⟨before, gap.isBroken, cursor⟩
        else
          let (gap, cursor) := gap.read indent cursor
          if cursor.isAt '\t' then
            .error (.within .plainScalar start .tabBreaksIndentation cursor.mark)
          else if !inFlow && decide (cursor.mark.column < indent) then
            .ok ⟨before, gap.isBroken, cursor⟩
          else readFrom inFlow indent start fuel before gap cursor

/-- Reads the plain scalar at the cursor. Its further lines start at the column `indent` or
behind it. -/
def read (inFlow : Bool) (indent : Nat) (cursor : Cursor) : Except Fault Reading :=
  readFrom inFlow indent cursor.mark (cursor.rest.length + 1) [] .empty cursor

end PageRecipe.Yaml.PlainScalar
