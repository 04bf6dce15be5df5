import PageRecipe.Numeric.Literal
import PageRecipe.Toml.Fault

/-!
# TOML strings

Strings come in four forms : in double quotes, where escapes are read, or in single quotes,
where they are not, and each of them on one line or on several. `Form.choose` picks the form in
which a text is written, and `write` writes it.
-/

namespace PageRecipe.Toml

/-! ## Characters -/

/-- A space or a tab. -/
def isBlank (c : Char) : Bool := c == ' ' || c == '\t'

/-- A control character other than the tab. -/
def isControl (c : Char) : Bool := c != '\t' && (c.toNat < 0x20 || c.toNat == 0x7F)

/-- A character that stands for itself in double quotes. -/
def isBasicChar (c : Char) : Bool := !isControl c && c != '"' && c != '\\'

/-- A character that may stand in single quotes. -/
def isLiteralChar (c : Char) : Bool := !isControl c && c != '\''

/-- The text behind a line break. -/
def newline? : List Char → Option (List Char)
  | '\n' :: rest => some rest
  | '\r' :: '\n' :: rest => some rest
  | _ => none

/-- The text behind some blanks. -/
def skipBlanks (s : List Char) : List Char := s.dropWhile isBlank

/-! ## Escapes -/

/-- What an escape of one letter stands for. -/
def letterEscape? : Char → Option Char
  | 'b' => some '\x08'
  | 'f' => some '\x0c'
  | 'n' => some '\n'
  | 'r' => some '\r'
  | 't' => some '\t'
  | '\\' => some '\\'
  | '"' => some '"'
  | _ => none

/-- What may follow a backslash. -/
def escapeNames : List String :=
  ["b", "f", "n", "r", "t", "u", "U", "\\", "\""].map fun name => "\x60" ++ name ++ "\x60"

/-- Reads the code point of an escape. -/
def readCode (length : Nat) (s : List Char) : Result Char :=
  let digits := (s.take length).takeWhile fun c => (digitValue? c).isSome
  if digits.length < length then .error (Fault.here s).final
  else
    match natOfDigits? 16 digits with
    | none => .error (Fault.here s).final
    | some n =>
      if n.isValidChar then .ok (Char.ofNat n, s.drop length)
      else .error (.because s "value is out of range")

/-- Reads an escape behind its backslash. -/
def readEscape : List Char → Result Char
  | [] => .error (.here [])
  | 'u' :: rest => explain (.inside "unicode 4-digit hex code") (readCode 4 rest)
  | 'U' :: rest => explain (.inside "unicode 8-digit hex code") (readCode 8 rest)
  | c :: rest =>
    match letterEscape? c with
    | some escaped => .ok (escaped, rest)
    | none =>
      .error (((Fault.here rest).inside "escape sequence").expecting escapeNames).final

/-- The text behind a line break that a backslash takes away, with the blanks and line breaks
after it. -/
def escapedBreak? (s : List Char) : Option (List Char) :=
  (newline? (skipBlanks s)).map fun rest =>
    rest.dropWhile fun c => isBlank c || c == '\n' || c == '\r'

/-! ## Reading -/

/-- Reads a text in double quotes on one line, up to its closing quote. -/
def readBasic : Nat → List Char → Result (List Char)
  | 0, s => .error (Fault.here s).final
  | _ + 1, '"' :: rest => .ok ([], rest)
  | fuel + 1, '\\' :: rest =>
    match readEscape rest with
    | .error fault => .error (if fault.isFinal then fault else (Fault.here ('\\' :: rest)).final)
    | .ok (c, rest) => (readBasic fuel rest).map fun (text, rest) => (c :: text, rest)
  | fuel + 1, c :: rest =>
    if isBasicChar c then (readBasic fuel rest).map fun (text, rest) => (c :: text, rest)
    else .error (Fault.here (c :: rest)).final
  | _ + 1, [] => .error (Fault.here []).final

/-- How many quotes there are at the start of a text. -/
def quoteCount (quote : Char) (s : List Char) : Nat := (s.takeWhile (· == quote)).length

/-- Quotes inside a text of several lines : what they stand for, and whether they close it.
Up to two quotes may stand in front of the closing ones. -/
def closingQuotes (quote : Char) (count : Nat) : List Char × Bool :=
  if count < 3 then (List.replicate count quote, false)
  else (List.replicate (min count 5 - 3) quote, true)

/-- A text of several lines goes on behind quotes that do not close it. -/
def goesOn (allowed : Char → Bool) (s : List Char) : Bool :=
  s.head?.any allowed || (newline? s).isSome

/-- Reads a text in double quotes on several lines, up to its closing quotes. -/
def readMultilineBasic : Nat → List Char → Result (List Char)
  | 0, s => .error (Fault.here s).final
  | _ + 1, [] => .error (Fault.here []).final
  | fuel + 1, c :: rest =>
    let s := c :: rest
    let continued (text : List Char) (rest : List Char) : Result (List Char) :=
      (readMultilineBasic fuel rest).map fun (more, rest) => (text ++ more, rest)
    if c == '"' then
      let count := quoteCount '"' s
      let (text, closes) := closingQuotes '"' count
      if closes then .ok (text, s.drop (text.length + 3))
      else if goesOn (fun c => isBasicChar c || c == '\\') (s.drop count) then
        continued text (s.drop count)
      else .error (Fault.here s).final
    else if c == '\\' then
      match escapedBreak? rest with
      | some rest => continued [] rest
      | none =>
        match readEscape rest with
        | .error fault => .error (if fault.isFinal then fault else (Fault.here s).final)
        | .ok (escaped, rest) => continued [escaped] rest
    else
      match newline? s with
      | some rest => continued ['\n'] rest
      | none => if isBasicChar c then continued [c] rest else .error (Fault.here s).final

/-- Reads a text in single quotes on several lines, up to its closing quotes. -/
def readMultilineLiteral : Nat → List Char → Result (List Char)
  | 0, s => .error (Fault.here s).final
  | _ + 1, [] => .error (Fault.here []).final
  | fuel + 1, c :: rest =>
    let s := c :: rest
    let continued (text : List Char) (rest : List Char) : Result (List Char) :=
      (readMultilineLiteral fuel rest).map fun (more, rest) => (text ++ more, rest)
    if c == '\'' then
      let count := quoteCount '\'' s
      let (text, closes) := closingQuotes '\'' count
      if closes then .ok (text, s.drop (text.length + 3))
      else if goesOn isLiteralChar (s.drop count) then continued text (s.drop count)
      else .error (Fault.here s).final
    else
      match newline? s with
      | some rest => continued ['\n'] rest
      | none => if isLiteralChar c then continued [c] rest else .error (Fault.here s).final

/-- Reads a text in single quotes on one line, up to its closing quote. -/
def readLiteral (s : List Char) : Result (List Char) :=
  match s.dropWhile isLiteralChar with
  | '\'' :: rest => .ok (s.takeWhile isLiteralChar, rest)
  | rest => .error (Fault.here rest).final

/-- Reads a string on one line. -/
def readLineString (s : List Char) : Result (List Char) :=
  match s with
  | '\'' :: rest => explain (.inside "literal string") (readLiteral rest)
  | '"' :: rest => explain (.inside "basic string") (readBasic (rest.length + 1) rest)
  | s => .error (.here s)

/-- The text behind the line break at its start, if there is one. -/
def skipNewline (s : List Char) : List Char := (newline? s).getD s

/-- Reads a string of any form. -/
def readString (s : List Char) : Result (List Char) :=
  match s with
  | '"' :: '"' :: '"' :: rest =>
    explain (.inside "multiline basic string")
      (readMultilineBasic (rest.length + 1) (skipNewline rest))
  | '\'' :: '\'' :: '\'' :: rest =>
    explain (.inside "multiline literal string")
      (readMultilineLiteral (rest.length + 1) (skipNewline rest))
  | s => readLineString s

/-! ## Writing -/

/-- A form of strings. -/
inductive Form where
  | basic
  | literal
  | multilineBasic
  | multilineLiteral
  deriving DecidableEq, Repr

namespace Form

/-- The form has several lines. -/
def isMultiline : Form → Bool
  | basic | literal => false
  | multilineBasic | multilineLiteral => true

/-- The quotes around a text. -/
def quotes : Form → List Char
  | basic => ['"']
  | literal => ['\'']
  | multilineBasic => ['"', '"', '"']
  | multilineLiteral => ['\'', '\'', '\'']

/-- The most characters `c` in a row. -/
def longestRun (c : Char) (current longest : Nat) : List Char → Nat
  | [] => max current longest
  | d :: rest =>
    if d == c then longestRun c (current + 1) longest rest
    else longestRun c 0 (max current longest) rest

/-- The form in which a text is written : in double quotes if nothing has to be escaped, else
in single quotes, then the same over several lines, and with escapes if all else fails. -/
def choose (s : List Char) : Form :=
  let hasControls := s.any fun c => c != '\n' && isControl c
  let hasBackslash := s.contains '\\'
  let hasBreaks := s.contains '\n'
  let doubles := longestRun '"' 0 0 s
  let singles := longestRun '\'' 0 0 s
  if !hasControls && !hasBackslash && doubles == 0 && !hasBreaks then basic
  else if !hasControls && singles == 0 && !hasBreaks then literal
  else if !hasControls && !hasBackslash && decide (doubles ≤ 2) then multilineBasic
  else if !hasControls && decide (singles ≤ 2) then multilineLiteral
  else if hasBreaks then multilineBasic
  else basic

end Form

/-- A number of four hexadecimal digits. -/
def hexCode (n : Nat) : List Char :=
  let digits := (Nat.toDigits 16 n).map Char.toUpper
  List.replicate (4 - digits.length) '0' ++ digits

/-- A character in double quotes, behind so many quotes in a row. In a text of several lines
two quotes in a row and line breaks stand for themselves. -/
def writeChar (isMultiline : Bool) (quotesBefore : Nat) (c : Char) : List Char :=
  if c = '"' then
    if isMultiline && decide (quotesBefore < 2) then ['"'] else ['\\', '"']
  else if c = '\n' then (if isMultiline then ['\n'] else ['\\', 'n'])
  else if c = '\x08' then ['\\', 'b']
  else if c = '\t' then ['\\', 't']
  else if c = '\x0c' then ['\\', 'f']
  else if c = '\r' then ['\\', 'r']
  else if c = '\\' then ['\\', '\\']
  else if isControl c then '\\' :: 'u' :: hexCode c.toNat
  else [c]

/-- The characters of a text in double quotes. An escaped quote starts the count of quotes
afresh. -/
def writeChars (isMultiline : Bool) : Nat → List Char → List Char
  | _, [] => []
  | quotesBefore, c :: rest =>
    let written := writeChar isMultiline quotesBefore c
    let count := if written = ['"'] then quotesBefore + 1 else 0
    written ++ writeChars isMultiline count rest

/-- A text as a string in a form. -/
def writeIn (form : Form) (s : List Char) : List Char :=
  let lead := if form.isMultiline && s.contains '\n' then ['\n'] else []
  let body :=
    match form with
    | .basic => writeChars false 0 s
    | .multilineBasic => writeChars true 0 s
    | .literal | .multilineLiteral => s
  form.quotes ++ lead ++ body ++ form.quotes

/-- A text as a string. -/
def write (s : List Char) : List Char := writeIn (.choose s) s

end PageRecipe.Toml
