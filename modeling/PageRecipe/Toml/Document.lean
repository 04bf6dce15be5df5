import PageRecipe.Toml.Item

/-!
# TOML documents

A document is a table : entries of its own, and the tables that headers open. A table is put
into the document when the next header, or the end, closes it. `Document.read` reads the
entries of a text.
-/

namespace PageRecipe.Toml

/-! ## Tables inside tables -/

/-- A table with its entries and how it came about. -/
structure Table where
  span : Option Span
  origin : Origin
  entries : Entries

namespace Table

/-- The table as an item. -/
def toItem (table : Table) : Item := .table table.span table.origin table.entries

/-- The table without entries. -/
def empty (origin : Origin) : Table := ⟨none, origin, []⟩

/-- The item under a key. -/
def find? (table : Table) (key : Key) : Option Item := table.entries.find? key.name

/-- The table with another item under a key. -/
def put (table : Table) (key : Key) (item : Item) : Table :=
  { table with entries := table.entries.put key item }

/-- The table without the item under a key. -/
def remove (table : Table) (key : Key) : Table :=
  { table with entries := table.entries.filter (·.1.name != key.name) }

/-- Edits the table under a path of keys, of which `done` are behind. On the way missing
tables are made, and of several tables of one key the last one counts. Dotted keys do not lead
into tables that have a header. -/
def editAt {α : Type} (isDotted : Bool) (done : List String)
    (edit : Table → Except Clash (α × Table)) :
    List Key → Table → Except Clash (α × Table)
  | [], table => edit table
  | key :: path, table =>
    let inside (inner : Table) : Except Clash (α × Table) :=
      editAt isDotted (done ++ [key.name]) edit path inner
    match table.find? key with
    | none => do
      let (answer, inner) ← inside (.empty (if isDotted then .dotted else .inner))
      return (answer, table.put key inner.toItem)
    | some (.table span origin entries) => do
      if isDotted && origin == .header then throw (.taken key.name none)
      let (answer, inner) ← inside ⟨span, origin, entries⟩
      return (answer, table.put key inner.toItem)
    | some (.tables span items) =>
      match items.getLast? with
      | some (.table innerSpan origin entries) => do
        let (answer, inner) ← inside ⟨innerSpan, origin, entries⟩
        return (answer, table.put key (.tables span (items.dropLast ++ [inner.toItem])))
      | _ => .error (.noTable (done ++ [key.name]) "array of tables")
    | some other => .error (.noTable (done ++ [key.name]) other.kind)

/-- Adds an entry under a key in front of which a path of dotted keys stands. The table itself
has the path `place`. -/
def add (place : List String) (path : List Key) (last : Key) (item : Item) (table : Table) :
    Except Clash Table :=
  let edit (inner : Table) : Except Clash (Unit × Table) :=
    if (inner.origin == .dotted) == path.isEmpty then .error (.taken last.name none)
    else
      match inner.find? last with
      | some _ => .error (.taken last.name (some place))
      | none => .ok ((), inner.put last item)
  (editAt true [] edit path table).map (·.2)

end Table

/-! ## The state of the reading -/

/-- What has been read : the document so far, and the table that is open. -/
structure Document where
  root : Table
  /-- The table that is open. -/
  current : Table
  /-- The keys of the header that opened it. -/
  path : List Key
  /-- It is one of several tables of its key. -/
  isRepeated : Bool

namespace Document

/-- The document without entries. -/
def empty : Document :=
  { root := .empty .header, current := .empty .header, path := [], isRepeated := false }

/-- The names of keys. -/
def names (path : List Key) : List String := path.map (·.name)

/-- The clash of the last key of a path with an entry. -/
def lastTaken (path : List Key) (key : Key) : Clash := .taken key.name (some (names path.dropLast))

/-- The stretch from the first to the last of some tables. -/
def spanOf (items : List Item) : Option Span :=
  match items.head?.bind Item.span?, items.getLast?.bind Item.span? with
  | some first, some last => some ⟨first.start, last.stop⟩
  | _, _ => none

/-- Adds a value under the last of some keys. -/
def addEntry (document : Document) (keys : List Key) (item : Item) : Except Clash Document := do
  match keys.getLast? with
  | none => return document
  | some last =>
    let current ← document.current.add (names document.path) keys.dropLast last item
    let span := match current.span, item.span? with
      | some span, some inner => some ⟨span.start, inner.stop⟩
      | span, _ => span
    return { document with current := { current with span := span } }

/-- The root with the table that was open. -/
def close (document : Document) : Except Clash Table :=
  match document.path.getLast? with
  | none => .ok document.current
  | some key =>
    let table := document.current.toItem
    let edit (parent : Table) : Except Clash (Unit × Table) :=
      match parent.find? key, document.isRepeated with
      | none, true => .ok ((), parent.put key (.tables document.current.span [table]))
      | none, false => .ok ((), parent.put key table)
      | some (.tables _ items), true =>
        let items := items ++ [table]
        .ok ((), parent.put key (.tables (spanOf items) items))
      | _, _ => .error (lastTaken document.path key)
    (document.root.editAt false [] edit document.path.dropLast).map (·.2)

/-- Opens the table of a header. Entries that tables inside it have made are kept. -/
def openTable (document : Document) (path : List Key) (span : Span) :
    Except Clash Document := do
  let root ← document.close
  match path.getLast? with
  | none => return document
  | some key =>
    let edit (parent : Table) : Except Clash (Entries × Table) :=
      match parent.find? key with
      | none => .ok ([], parent)
      | some (.table _ .inner entries) => .ok (entries, parent.remove key)
      | some _ => .error (lastTaken path key)
    let (entries, root) ← root.editAt false [] edit path.dropLast
    return { root, current := ⟨some span, .header, entries⟩, path, isRepeated := false }

/-- Opens one more table of a header in double brackets. -/
def openRepeated (document : Document) (path : List Key) (span : Span) :
    Except Clash Document := do
  let root ← document.close
  match path.getLast? with
  | none => return document
  | some key =>
    let edit (parent : Table) : Except Clash (Unit × Table) :=
      match parent.find? key with
      | none => .ok ((), parent.put key (.tables none []))
      | some (.tables ..) => .ok ((), parent)
      | some _ => .error (lastTaken path key)
    let (_, root) ← root.editAt false [] edit path.dropLast
    return { root, current := ⟨some span, .header, []⟩, path, isRepeated := true }

/-! ## Reading -/

/-- The fault of a clash at a place. -/
def clashAt (rest : List Char) {α : Type} (result : Except Clash α) : Except Fault α :=
  result.mapError fun clash => .because rest clash.message

/-- Reads a line with a key and a value. -/
def readEntry (document : Document) (s : List Char) : Except Fault (Document × List Char) := do
  let (keys, rest) ← explain Fault.final (readKey s)
  let rest ← skipEquals rest
  let (item, rest) ← explain Fault.final (readValue (maxDepth - 1) (skipBlanks rest))
  let rest ← endLine rest
  return (← clashAt s (document.addEntry keys item), rest)

/-- Reads a header up to its closing brackets. -/
def readHeaderKeys (closing : List Char) (s : List Char) :
    Except Fault (List Key × List Char) := do
  let (keys, rest) ← readKey s
  if closing.isPrefixOf rest then return (keys, rest.drop closing.length)
  else
    throw ((Fault.here rest).expecting ["\x60.\x60", "\x60" ++ String.ofList closing ++ "\x60"])

/-- Reads a line with a header, whose brackets tell what it opens. -/
def readHeaderLine (document : Document) (s : List Char) :
    Except Fault (Document × List Char) :=
  match s with
  | '[' :: '[' :: inside => do
    let (keys, rest) ← readHeaderKeys [']', ']'] inside
    let next ← endLine rest
    return (← clashAt s (document.openRepeated keys (.between s rest)), next)
  | '[' :: c :: inside => do
    let (keys, rest) ← readHeaderKeys [']'] (c :: inside)
    let next ← endLine rest
    return (← clashAt s (document.openTable keys (.between s rest)), next)
  | s => .error (.here s)

/-- Reads a line with a header. -/
def readHeader (document : Document) (s : List Char) : Except Fault (Document × List Char) :=
  explain (fun fault => (fault.inside "table header").final) (readHeaderLine document s)

/-- Reads the lines of a document, at most `fuel`. -/
def readLines : Nat → Document → List Char → Except Fault Document
  | 0, document, _ => .ok document
  | fuel + 1, document, s => do
    let s := skipBlanks s
    match s with
    | [] => return document
    | c :: _ =>
      if c == '#' then
        let rest := skipComment s
        match lineEnd? rest with
        | some next => readLines fuel document next
        | none => throw (.here rest)
      else if c == '\n' || c == '\r' then
        match newline? s with
        | some next => readLines fuel document next
        | none => throw (.here s)
      else if c == '[' then
        let (document, rest) ← document.readHeader s
        readLines fuel document rest
      else
        let (document, rest) ← document.readEntry s
        readLines fuel document rest

/-- The text without the byte order mark that it may start with. -/
def withoutMark : List Char → List Char
  | '\uFEFF' :: rest => rest
  | s => s

/-- The entries of a text. -/
def read (s : List Char) : Except Fault Entries := do
  let document ← readLines (s.length + 1) .empty (withoutMark s)
  return (← clashAt [] document.close).entries

end Document

end PageRecipe.Toml
