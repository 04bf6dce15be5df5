import PageRecipe.Toml.Number
import PageRecipe.Toml.Text

/-!
# TOML values and keys

A value is a scalar, an array or an inline table. Keys may be dotted, which makes tables inside
tables. `readValue` and `readKey` read them.
-/

namespace PageRecipe.Toml

/-- A key with its place. -/
structure Key where
  name : String
  span : Span
  deriving Repr

/-- How a table came about. -/
inductive Origin where
  /-- By a header of its own. -/
  | header
  /-- By the header of a table inside it. -/
  | inner
  /-- By a dotted key. -/
  | dotted
  deriving DecidableEq, Repr

/-- What stands under a key. -/
inductive Item where
  | scalar (span : Span) (value : Scalar)
  | array (span : Span) (items : List Item)
  | inlineTable (span : Option Span) (isDotted : Bool) (entries : List (Key × Item))
  | table (span : Option Span) (origin : Origin) (entries : List (Key × Item))
  /-- The tables of headers in double brackets. -/
  | tables (span : Option Span) (items : List Item)
  deriving Repr, Inhabited

/-- Entries of a table. -/
abbrev Entries := List (Key × Item)

/-- Why an entry cannot be made. -/
inductive Clash where
  /-- The key is taken, in a table of the path if that is known. -/
  | taken (key : String) (table : Option (List String))
  /-- What stands at the path is no table. -/
  | noTable (path : List String) (kind : String)
  deriving Repr

/-- A clash in words. -/
def Clash.message : Clash → String
  | taken key none => "duplicate key \x60" ++ key ++ "\x60"
  | taken key (some []) => "duplicate key \x60" ++ key ++ "\x60 in document root"
  | taken key (some path) =>
    "duplicate key \x60" ++ key ++ "\x60 in table \x60" ++ ".".intercalate path ++ "\x60"
  | noTable path kind =>
    "dotted key \x60" ++ ".".intercalate path ++
      "\x60 attempted to extend non-table type (" ++ kind ++ ")"

/-- The name of the kind of a scalar. -/
def Scalar.kind : Scalar → String
  | string _ => "string"
  | integer _ => "integer"
  | float _ => "float"
  | boolean _ => "boolean"
  | datetime => "datetime"

namespace Item

/-- The name of the kind of an item. -/
def kind : Item → String
  | scalar _ value => value.kind
  | array .. => "array"
  | inlineTable .. => "inline table"
  | table .. => "table"
  | tables .. => "array of tables"

/-- The place of an item, if it has one of its own. -/
def span? : Item → Option Span
  | scalar span _ => some span
  | array span _ => some span
  | inlineTable span _ _ => span
  | table span _ _ => span
  | tables span _ => span

end Item

/-- The item under a key. -/
def Entries.find? (entries : Entries) (name : String) : Option Item :=
  (List.find? (fun entry => entry.1.name == name) entries).map (·.2)

/-- The entries with another item under a key. -/
def Entries.put (key : Key) (item : Item) : Entries → Entries
  | [] => [(key, item)]
  | (other, old) :: rest =>
    if other.name = key.name then (other, item) :: rest
    else (other, old) :: Entries.put key item rest

/-! ## Blanks and comments -/

/-- A character that may stand in a comment. -/
def isCommentChar (c : Char) : Bool := !isControl c

/-- The text behind a comment, if there is one. -/
def skipComment (s : List Char) : List Char :=
  match s with
  | '#' :: rest => rest.dropWhile isCommentChar
  | s => s

/-- The text behind the end of a line, which the end of the text is as well. -/
def lineEnd? (s : List Char) : Option (List Char) := if s.isEmpty then some [] else newline? s

/-- The text in the next line, when nothing but a comment is left on this one. -/
def endLine (s : List Char) : Except Fault (List Char) :=
  let rest := skipComment (skipBlanks s)
  match lineEnd? rest with
  | some next => .ok next
  | none => .error ((Fault.here rest).expecting ["newline", "\x60#\x60"]).final

/-- The text behind blanks, comments and line breaks, at most `fuel` lines. -/
def skipLines : Nat → List Char → Except Fault (List Char)
  | 0, s => .ok s
  | fuel + 1, s =>
    let rest := skipBlanks s
    match rest with
    | '#' :: _ =>
      match newline? (skipComment rest) with
      | some next => skipLines fuel next
      | none => .error (.here (skipComment rest))
    | c :: _ =>
      if c == '\n' || c == '\r' then
        match newline? rest with
        | some next => skipLines fuel next
        | none => .error (.here rest)
      else .ok rest
    | [] => .ok []

/-- The text behind blanks, comments and line breaks. -/
def skipAll (s : List Char) : Except Fault (List Char) := skipLines (s.length + 1) s

/-! ## Keys -/

/-- A character of a key without quotes. -/
def isKeyChar (c : Char) : Bool := c.isAlphanum || c == '-' || c == '_'

/-- Reads a key that has no points. -/
def readSimpleKey (s : List Char) : Except Fault (Key × List Char) := do
  let (name, rest) ←
    if s.head?.any fun c => c == '"' || c == '\'' then readLineString s
    else if (s.takeWhile isKeyChar).isEmpty then .error (.here s)
    else .ok (s.takeWhile isKeyChar, s.dropWhile isKeyChar)
  return (⟨String.ofList name, .between s rest⟩, rest)

/-- Reads keys with points between them, at most `fuel`. -/
def readKeys : Nat → List Char → Except Fault (List Key × List Char)
  | 0, s => .error (.here s)
  | fuel + 1, s => do
    let (key, rest) ← readSimpleKey (skipBlanks s)
    let rest := skipBlanks rest
    match rest with
    | '.' :: behind =>
      match readKeys fuel behind with
      | .ok (keys, rest) => return (key :: keys, rest)
      | .error fault => if fault.isFinal then throw fault else return ([key], rest)
    | _ => return ([key], rest)

/-- How deeply tables and arrays may be nested. -/
def maxDepth : Nat := 80

/-- The words for too deep a nesting. -/
def tooDeep : String := "recursion limit exceeded"

/-- Reads a key. -/
def readKey (s : List Char) : Except Fault (List Key × List Char) := do
  let (keys, rest) ← explain (.inside "key") (readKeys (s.length + 1) s)
  if maxDepth ≤ keys.length then throw (.because s tooDeep)
  return (keys, rest)

/-- The text behind the sign between a key and its value. -/
def skipEquals (s : List Char) : Except Fault (List Char) :=
  match s with
  | '=' :: rest => .ok rest
  | s => .error ((Fault.here s).expecting ["\x60.\x60", "\x60=\x60"]).final

/-! ## Inline tables -/

/-- Puts an entry under a dotted key into the entries of an inline table. -/
def Entries.addInline (done : List String) (item : Item) (last : Key) :
    List Key → Entries → Except Clash Entries
  | [], entries =>
    match entries.find? last.name with
    | some _ => .error (.taken last.name none)
    | none => .ok (entries ++ [(last, item)])
  | key :: path, entries =>
    match entries.find? key.name with
    | none => do
      let inner ← Entries.addInline (done ++ [key.name]) item last path []
      return entries.put key (.inlineTable none true inner)
    | some (.inlineTable span true inner) => do
      let inner ← Entries.addInline (done ++ [key.name]) item last path inner
      return entries.put key (.inlineTable span true inner)
    | some (.inlineTable ..) => .error (.taken key.name none)
    | some other => .error (.noTable (done ++ [key.name]) other.kind)

/-- The entries that pairs of keys and values make. -/
def Entries.ofPairs : Entries → List (List Key × Item) → Except Clash Entries
  | entries, [] => .ok entries
  | entries, (keys, item) :: rest =>
    match keys.getLast? with
    | none => Entries.ofPairs entries rest
    | some last => do Entries.ofPairs (← entries.addInline [] item last keys.dropLast) rest

/-! ## Values -/

/-- The fault where a value is expected and nothing like one stands. -/
def noValue (s : List Char) : Fault :=
  ((Fault.here s).inside "string").expecting ["\x60\"\x60", "\x60'\x60"]

/-- Reads a word that stands for a value. -/
def readWord (word : String) (value : Scalar) (s : List Char) : Result Scalar :=
  if word.toList.isPrefixOf s then .ok (value, s.drop word.length)
  else
    let isFinal := match value with
      | .boolean _ => true
      | _ => false
    .error { noValue s with isFinal := isFinal }

/-- Reads a value that has no parts. -/
def readScalar (s : List Char) : Result Scalar :=
  match s with
  | [] => .error (.here [])
  | c :: _ =>
    if c == '"' || c == '\'' then
      (readString s).map fun (text, rest) => (.string (String.ofList text), rest)
    else if c == '+' || c == '-' || c.isDigit then Number.read s
    else if c == '_' then explain (.expecting ["leading digit"]) (Number.readInteger s)
    else if c == '.' then explain (.expecting ["leading digit"]) (Number.readFloat s)
    else if c == 't' then readWord "true" (.boolean true) s
    else if c == 'f' then readWord "false" (.boolean false) s
    else if c == 'i' then readWord "inf" (.float (.infinity false)) s
    else if c == 'n' then readWord "nan" (.float .nan) s
    else .error (noValue s)

/-- Reads the items of an array, at most `fuel`, with `read` for each value. -/
def readItems (read : List Char → Result Item) : Nat → List Char → Result (List Item)
  | 0, s => .ok ([], s)
  | fuel + 1, s =>
    let item : Except Fault (Item × List Char) := do
      let (item, rest) ← read (← skipAll s)
      return (item, ← skipAll rest)
    match item with
    | .error fault => if fault.isFinal then .error fault else .ok ([], s)
    | .ok (item, ',' :: rest) =>
      match readItems read fuel rest with
      | .error fault => .error fault
      | .ok ([], _) => .ok ([item], ',' :: rest)
      | .ok (items, rest) => .ok (item :: items, rest)
    | .ok (item, rest) => .ok ([item], rest)

/-- Reads the rest of an array behind its bracket. -/
def readArray (read : List Char → Result Item) (s : List Char) :
    Except Fault (List Item × List Char) := do
  let (items, rest) ← readItems read (s.length + 1) s
  let rest :=
    match items, rest with
    | _ :: _, ',' :: rest => rest
    | _, rest => rest
  match ← (skipAll rest).mapError Fault.final with
  | ']' :: rest => return (items, rest)
  | rest => throw (((Fault.here rest).inside "array").expecting ["\x60]\x60"]).final

/-- Reads the pairs of an inline table, at most `fuel`, with `read` for each value. -/
def readPairs (read : List Char → Result Item) :
    Nat → List Char → Except Fault (List (List Key × Item) × List Char)
  | 0, s => .ok ([], s)
  | fuel + 1, s =>
    match readKey s with
    | .error fault => if fault.isFinal then .error fault else .ok ([], s)
    | .ok (keys, rest) => do
      let rest ← skipEquals rest
      let (item, rest) ← explain Fault.final (read (skipBlanks rest))
      match skipBlanks rest with
      | ',' :: rest =>
        let (pairs, behind) ← readPairs read fuel rest
        if pairs.isEmpty then return ([(keys, item)], ',' :: rest)
        else return ((keys, item) :: pairs, behind)
      | rest => return ([(keys, item)], rest)

/-- Reads the rest of an inline table behind its brace. -/
def readInlineTable (read : List Char → Result Item) (s : List Char) :
    Except Fault (Entries × List Char) := do
  let (pairs, rest) ← readPairs read (s.length + 1) s
  let entries ← (Entries.ofPairs [] pairs).mapError fun clash => .because s clash.message
  match skipBlanks rest with
  | '\x7d' :: rest => return (entries, rest)
  | rest => throw (((Fault.here rest).inside "inline table").expecting ["\x60\x7d\x60"]).final

/-- Reads a value, with arrays and inline tables nested at most so deeply. -/
def readValue : Nat → List Char → Result Item
  | 0, s =>
    if s.head?.any fun c => c == '[' || c == '{' then .error (.because s tooDeep)
    else (readScalar s).map fun (value, rest) => (.scalar (.between s rest) value, rest)
  | depth + 1, s =>
    match s with
    | '[' :: rest =>
      (readArray (readValue depth) rest).map fun (items, rest) =>
        (.array (.between s rest) items, rest)
    | '{' :: rest =>
      (readInlineTable (readValue depth) rest).map fun (entries, rest) =>
        (.inlineTable (some (.between s rest)) false entries, rest)
    | s => (readScalar s).map fun (value, rest) => (.scalar (.between s rest) value, rest)

end PageRecipe.Toml
