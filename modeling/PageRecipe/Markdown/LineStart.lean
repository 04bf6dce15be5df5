import PageRecipe.Markdown.Cursor
import PageRecipe.Markdown.Event
import PageRecipe.Markdown.Html

/-!
# What a line starts

Recognisers for the starts of blocks : thematic breaks, headings, fences, list markers,
definition markers, quotes and table heads. All look at one line from its first character
that is not indentation.
-/

namespace PageRecipe.Markdown

/-- A thematic break : at least three equal marks and nothing else but blanks. -/
def isRule (s : List Char) : Bool :=
  match s with
  | c :: _ =>
    let line := s.takeWhile fun d => !isLineEnd d
    (c == '*' || c == '-' || c == '_') && line.all (fun d => d == c || d == ' ' || d == '\t') &&
      decide (3 ≤ (line.filter (· == c)).length)
  | [] => false

/-- The level of a heading that starts with number signs, and what follows them. -/
def atxHeading? (s : List Char) : Option (Nat × List Char) :=
  let level := runLength '#' s
  let rest := s.drop level
  if 1 ≤ level && level ≤ 6 && rest.head?.all isAsciiBlank then some (level, rest) else none

/-- The level of a heading that the line underlines. -/
def underline? (s : List Char) : Option Nat :=
  match s with
  | '=' :: _ => if isBlankLine (s.drop (runLength '=' s)) then some 1 else none
  | '-' :: _ => if isBlankLine (s.drop (runLength '-' s)) then some 2 else none
  | _ => none

/-- The mark and the length of a code fence. A fence of backticks has none in its info text. -/
def fence? (s : List Char) : Option (Char × Nat) :=
  match s with
  | c :: _ =>
    let count := runLength c s
    if (c == '\x60' || c == '~') && 3 ≤ count then
      if c == '\x60' && (s.drop count).contains '\x60' then none else some (c, count)
    else none
  | [] => none

/-- A fence that closes one of `count` marks. -/
def closesFence (c : Char) (count : Nat) (s : List Char) : Bool :=
  let found := runLength c s
  s.isEmpty || (count ≤ found && (lineEnd? ((s.drop found).dropWhile (· == ' '))).isSome)

/-- Reads a list marker : its mark, the number in front of the mark, and what follows it. -/
def marker? (s : List Char) : Option (Char × Nat × List Char) :=
  match s with
  | [] => none
  | c :: rest =>
    if c == '-' || c == '+' || c == '*' then some (c, 0, rest)
    else
      let digits := s.takeWhile Char.isDigit
      let number := digits.foldl (fun n d => n * 10 + (d.toNat - '0'.toNat)) 0
      match s.drop digits.length with
      | d :: rest =>
        if 1 ≤ digits.length && digits.length ≤ 9 && (d == '.' || d == ')') then
          some (d, number, rest)
        else none
      | [] => none

/-- A list marker that starts an item : its mark, its number, the width of the indentation
that continues the item, and the cursor at its content. -/
def itemStart? (indent : Nat) (cursor : Cursor) : Option (Char × Nat × Nat × Cursor) :=
  match marker? cursor.rest with
  | none => none
  | some (c, number, rest) =>
    if isRule cursor.rest && (c == '-' || c == '+' || c == '*') then none
    else
      let width := cursor.rest.length - rest.length
      let behind : Cursor := ⟨rest, cursor.column + width, cursor.pending⟩
      let (spaced, next) := behind.takeExactly 1
      if !spaced && !behind.atLineEnd then none
      else
        let indent := indent + width + 1
        if isBlankLine next.rest then some (c, number, indent, next)
        else
          let (more, content) := next.takeSpaces 4
          if more < 4 then some (c, number, indent + more, content)
          else some (c, number, indent, next)

/-- A definition marker : the width of the indentation that continues the definition, and the
cursor at its content. -/
def definitionStart? (indent : Nat) (cursor : Cursor) : Option (Nat × Cursor) :=
  match cursor.takeChar? ':' with
  | none => none
  | some next =>
    let (more, content) := next.takeSpaces (3 - indent)
    some (indent + 1 + more, content)

/-- The kinds of alert by name. -/
def alertNames : List (String × Alert) :=
  [("note", .note), ("tip", .tip), ("important", .important), ("warning", .warning),
    ("caution", .caution)]

/-- Reads the mark of an alert, which stands alone on its line. -/
def alert? (s : List Char) : Option Alert :=
  match s with
  | '[' :: '!' :: rest =>
    (alertNames.find? fun (name, _) =>
      startsWithIgnoringCase name.toList rest &&
        match rest.drop name.length with
        | ']' :: rest => isBlankLine rest
        | _ => false).map (·.2)
  | _ => none

/-! ## Tables -/

/-- Counts the bars of a line that no backslash precedes, after the character `previous`. -/
def countBars (previous : Char) : List Char → Nat
  | [] => 0
  | c :: rest =>
    if isLineEnd c then 0
    else (if c == '|' && previous != '\\' then 1 else 0) + countBars c rest

/-- What follows the last bar of a line that no backslash precedes. -/
def afterLastBar (previous : Char) (found : List Char) : List Char → List Char
  | [] => found
  | c :: rest =>
    if isLineEnd c then found
    else afterLastBar c (if c == '|' && previous != '\\' then rest else found) rest

/-- The number of columns of a line with bars : a bar at either end adds none. -/
def columnCount (s : List Char) : Nat :=
  let bars := countBars ' ' s
  let inner := if (skipBlanks s).head? == some '|' then bars - 1 else bars
  if isBlankLine (afterLastBar ' ' s s) then inner else inner + 1

/-- The state of reading the line below a table head : the columns so far, whether a bar and a
hyphen were found, whether the column is still empty, and whether it holds a hyphen. -/
structure HeadScan where
  columns : Nat
  hasBar : Bool
  hasHyphen : Bool
  isEmptyColumn : Bool
  hasColumnHyphen : Bool

/-- Reads the line below a table head. -/
def HeadScan.run (scan : HeadScan) : List Char → Option HeadScan
  | [] => some scan
  | c :: rest =>
    if isLineEnd c then some scan
    else if c == ' ' then run scan rest
    else if c == ':' then run { scan with isEmptyColumn := false } rest
    else if c == '-' then
      run { scan with isEmptyColumn := false, hasHyphen := true, hasColumnHyphen := true } rest
    else if c == '|' then
      if !scan.hasColumnHyphen then none
      else
        run { scan with
          columns := scan.columns + 1, hasBar := true, isEmptyColumn := true,
          hasColumnHyphen := false } rest
    else none

/-- The number of columns that the line below a table head has. -/
def headColumns? (cursor : Cursor) : Option Nat :=
  let (indent, cursor) := cursor.takeSpaces 4
  match cursor.rest with
  | [] => none
  | c :: rest =>
    let start : HeadScan := ⟨0, c == '|', false, true, false⟩
    if indent = 4 then none
    else
      match start.run (if c == '|' then rest else c :: rest) with
      | none => none
      | some scan =>
        if scan.hasBar && scan.hasHyphen then
          some (if scan.isEmptyColumn then scan.columns else scan.columns + 1)
        else none

/-- The text of a cell up to its closing bar, and the rest of the line from the bar on. -/
def takeCell (previous : Char) : List Char → List Char × List Char
  | [] => ([], [])
  | c :: rest =>
    if isLineEnd c || (c == '|' && previous != '\\') then ([], c :: rest)
    else
      let (cell, rest) := takeCell c rest
      (c :: cell, rest)

/-- The cells of a table row. -/
def rowCells : Nat → List Char → List (List Char)
  | 0, _ => []
  | fuel + 1, s =>
    let s := skipBlanks (match s with
      | '|' :: rest => rest
      | s => s)
    if (lineEnd? s).isSome then []
    else
      let (cell, rest) := takeCell ' ' s
      cell :: rowCells fuel rest

/-- The cells of a row, filled up with empty ones or cut to the number of columns. -/
def fitRow (columns : Nat) (cells : List (List Char)) : List (List Char) :=
  (cells ++ List.replicate (columns - cells.length) []).take columns

/-! ## Heading attributes -/

/-- Splits an attribute block such as the last part of `Title {#id .class}` off a heading : the
length of what is in front of it, and the inside of the block. -/
def attributeBlock? (text : List Char) : Option (Nat × List Char) :=
  let blank (c : Char) : Bool := c == '\n' || c == '\r' || c == ' ' || c == '\t'
  let plain (c : Char) : Bool := !("\x7b\x7d<>\\\n\r".toList.contains c)
  match text.reverse.dropWhile blank with
  | '\x7d' :: before =>
    let inside := before.takeWhile plain
    match before.drop inside.length with
    | '\x7b' :: content => some (content.length, inside.reverse)
    | _ => none
  | _ => none

/-- The id and the classes that an attribute block gives. The last id counts. -/
def readAttributes (inside : List Char) : Option String × List String :=
  let words := inside.splitBy fun a b => isAsciiBlank a == isAsciiBlank b
  words.foldl (fun (id, classes) word =>
    match word with
    | '#' :: c :: rest => (some (String.ofList (c :: rest)), classes)
    | '.' :: c :: rest => (id, classes ++ [String.ofList (c :: rest)])
    | _ => (id, classes)) (none, [])

/-- How much of the text of a heading is left without closing number signs and the spaces in
front of them. -/
def headingEnd (text : List Char) : Nat :=
  let isTail (c : Char) : Bool := c == '\n' || c == '\r' || c == ' '
  let body := text.reverse.dropWhile isTail
  match body.dropWhile (· == '#') with
  | [] => 0
  | c :: rest => if c == ' ' then (rest.dropWhile (· == ' ')).length else body.length

end PageRecipe.Markdown
