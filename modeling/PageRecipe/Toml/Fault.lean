/-!
# Faults in a TOML text

A fault stands at a place of the text and says what was being read, what is expected there and
what else is wrong. A reader that has not made up its mind may try something else when it meets
a fault ; a final fault ends the reading. `display` shows a message under the line that it
refers to.
-/

namespace PageRecipe.Toml

/-- What is wrong at a place. -/
structure Fault where
  /-- The text ahead of the place. -/
  rest : List Char
  /-- What was being read. -/
  label : Option String
  expected : List String
  /-- What is wrong with what was read. -/
  cause : Option String
  /-- Nothing else can be tried. -/
  isFinal : Bool
  deriving Repr

namespace Fault

/-- A fault without explanation. -/
def here (rest : List Char) : Fault := ⟨rest, none, [], none, false⟩

/-- The fault of a thing that is wrong in itself. -/
def because (rest : List Char) (cause : String) : Fault := ⟨rest, none, [], some cause, true⟩

/-- The fault, which is now final. -/
def final (fault : Fault) : Fault := { fault with isFinal := true }

/-- The fault inside something of a name. The innermost name counts. -/
def inside (label : String) (fault : Fault) : Fault :=
  { fault with label := fault.label.or (some label) }

/-- The fault where one of the things is expected as well. -/
def expecting (things : List String) (fault : Fault) : Fault :=
  { fault with expected := fault.expected ++ things }

/-- A fault in words. -/
def message (fault : Fault) : String :=
  let label := fault.label.toList.map ("invalid " ++ ·)
  let expected :=
    if fault.expected.isEmpty then [] else ["expected " ++ ", ".intercalate fault.expected]
  "\n".intercalate (label ++ expected ++ fault.cause.toList)

end Fault

/-- What has been read, and the text ahead. -/
abbrev Result (α : Type) := Except Fault (α × List Char)

/-- Changes the fault of a reading that failed. -/
def explain {α : Type} (explanation : Fault → Fault) (result : Result α) : Result α :=
  result.mapError explanation

/-! ## Showing a fault -/

/-- A stretch of a text. A place is told by how many characters are ahead of it. -/
structure Span where
  start : Nat
  stop : Nat
  deriving DecidableEq, Repr

/-- The stretch from one place to another. -/
def Span.between (start stop : List Char) : Span := ⟨start.length, stop.length⟩

/-- The line at an index of a text, its number and the column, all counted from zero. Behind
the last character the column goes on in the last line. -/
def locate (source : List Char) (index : Nat) : Nat × Nat × List Char :=
  let safe := min index (source.length - 1)
  let before := source.take safe
  let line := before.count '\n'
  let column := (before.reverse.takeWhile (· != '\n')).length + (index - safe)
  let start := source.drop (safe - (before.reverse.takeWhile (· != '\n')).length)
  (line, column, start.takeWhile (· != '\n'))

/-- How many bytes characters take. -/
def byteCount (s : List Char) : Nat := (String.ofList s).utf8ByteSize

/-- A message under the line that it refers to, with marks under a stretch of it. -/
def display (source : List Char) (span : Span) (message : String) : String :=
  let start := source.length - span.start
  let (line, column, text) := locate source start
  let number := toString (line + 1)
  let width := byteCount ((source.drop start).take (span.start - span.stop))
  let marks := max 1 (min width (byteCount text - column))
  let gutter := "".pushn ' ' (number.length + 1) ++ "|"
  "TOML parse error at line " ++ number ++ ", column " ++ toString (column + 1) ++ "\n" ++
    gutter ++ "\n" ++
    number ++ " | " ++ String.ofList text ++ "\n" ++
    gutter ++ "".pushn ' ' (column + 1) ++ "".pushn '^' marks ++ "\n" ++
    message ++ "\n"

/-- The stretch of one character. -/
def charSpan (rest : List Char) : Span := ⟨rest.length, rest.length - 1⟩

end PageRecipe.Toml
