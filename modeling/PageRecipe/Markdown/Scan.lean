/-!
# Scanning characters

Small recognisers on lists of characters that the block and the inline reading share. A
recogniser returns what is left of the text.
-/

namespace PageRecipe.Markdown

/-- A blank of ASCII that does not end a line. -/
def isLineBlank (c : Char) : Bool := c == ' ' || c == '\t' || c == '\x0b' || c == '\x0c'

/-- A blank of ASCII. -/
def isAsciiBlank (c : Char) : Bool := isLineBlank c || c == '\n' || c == '\r'

/-- A character that ends a line. -/
def isLineEnd (c : Char) : Bool := c == '\n' || c == '\r'

/-- The text without the blanks of its first line that it starts with. -/
def skipBlanks (s : List Char) : List Char := s.dropWhile isLineBlank

/-- The text after a line end. The end of the text ends a line as well. -/
def lineEnd? : List Char → Option (List Char)
  | [] => some []
  | '\r' :: '\n' :: rest => some rest
  | '\n' :: rest => some rest
  | '\r' :: rest => some rest
  | _ => none

/-- The text after the current line, when only blanks are left on it. -/
def blankLine? (s : List Char) : Option (List Char) := lineEnd? (skipBlanks s)

/-- Only blanks are left on the current line. -/
def isBlankLine (s : List Char) : Bool := (blankLine? s).isSome

/-- How many times in a row `c` stands at the start of the text. -/
def runLength (c : Char) (s : List Char) : Nat := (s.takeWhile (· == c)).length

/-- The text starts with `start`, up to the case of ASCII letters. -/
def startsWithIgnoringCase (start s : List Char) : Bool :=
  (start.map Char.toLower).isPrefixOf ((s.take start.length).map Char.toLower)

/-- The lines of a text, each with its line end, after the characters `line` in reverse. -/
def linesFrom (line : List Char) : List Char → List (List Char)
  | [] => if line.isEmpty then [] else [line.reverse]
  | '\r' :: '\n' :: rest => ('\n' :: '\r' :: line).reverse :: linesFrom [] rest
  | '\n' :: rest => ('\n' :: line).reverse :: linesFrom [] rest
  | '\r' :: rest => ('\r' :: line).reverse :: linesFrom [] rest
  | c :: rest => linesFrom (c :: line) rest

/-- The lines of a text, each with its line end. -/
def lines (s : List Char) : List (List Char) := linesFrom [] s

end PageRecipe.Markdown
