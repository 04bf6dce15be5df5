/-!
# File paths

A path is a text, and its parts are what stands between the slashes (`FilePath.parts`). Parts
that are empty do not count, and neither does a point that is not at the start of a relative
path. Paths are ordered by their parts (`FilePath.le`) and related to each other by them
(`FilePath.relativeTo?`), but they are joined and shown as texts.
-/

namespace PageRecipe

/-- A file path as it is written. -/
structure FilePath where
  text : String
  deriving DecidableEq, Repr, Inhabited

/-- A part of a path. -/
inductive PathPart where
  /-- The root of the file system. -/
  | root
  /-- The directory in which the path starts. -/
  | current
  /-- The directory above. -/
  | parent
  | name (text : String)
  deriving DecidableEq, Repr

/-! ## Parts -/

/-- What stands between the slashes of a text. -/
def segments : List Char → List (List Char)
  | [] => [[]]
  | c :: rest =>
    if c = '/' then [] :: segments rest
    else
      match segments rest with
      | [] => [[c]]
      | segment :: others => (c :: segment) :: others

namespace PathPart

/-- The part that a segment is, if it counts. -/
def ofSegment? (segment : List Char) : Option PathPart :=
  if segment = [] ∨ segment = ['.'] then none
  else if segment = ['.', '.'] then some parent
  else some (name (String.ofList segment))

/-- How a part is written. -/
def text : PathPart → String
  | root => "/"
  | current => "."
  | parent => ".."
  | name text => text

/-- The standing of a part in the order of paths. -/
def rank : PathPart → Nat
  | root => 0
  | current => 1
  | parent => 2
  | name _ => 3

/-- A part comes before another one : names after all others, and among themselves by their
characters. -/
def before (a b : PathPart) : Bool :=
  match a, b with
  | name s, name t => decide (s < t)
  | a, b => decide (a.rank < b.rank)

end PathPart

namespace FilePath

/-- The path starts at the root of the file system. -/
def isAbsolute (path : FilePath) : Bool := path.text.toList.head? == some '/'

/-- The parts of a path. -/
def parts (path : FilePath) : List PathPart :=
  let segments := segments path.text.toList
  let counted := segments.filterMap PathPart.ofSegment?
  if path.isAbsolute then .root :: counted
  else if segments.head? = some ['.'] then .current :: counted
  else counted

/-- The last part of a path, if it is a name. -/
def name? (path : FilePath) : Option String :=
  match path.parts.getLast? with
  | some (.name text) => some text
  | _ => none

/-- The last part of the path is the name. -/
def isNamed (path : FilePath) (name : String) : Bool := path.name? == some name

/-! ## Order -/

/-- Parts that come before others or are equal to them, from the first difference on. -/
def partsLe : List PathPart → List PathPart → Bool
  | [], _ => true
  | _ :: _, [] => false
  | a :: as, b :: bs => a.before b || (a == b && partsLe as bs)

/-- A path comes before another one or has the same parts. -/
def le (a b : FilePath) : Bool := partsLe a.parts b.parts

/-! ## Joining -/

/-- The path `below`, taken from the directory `path`. An absolute path stays as it is. -/
def join (path below : FilePath) : FilePath :=
  if below.isAbsolute then below
  else
    let last := path.text.toList.getLast?
    let slash := if last.isNone || last == some '/' then "" else "/"
    ⟨path.text ++ slash ++ below.text⟩

/-- The path that parts write. -/
def ofParts (parts : List PathPart) : FilePath :=
  parts.foldl (fun path part => path.join ⟨part.text⟩) ⟨""⟩

/-! ## Relative paths -/

/-- The parts that lead from the parts `root` to the parts `path`, behind `before`. -/
def partsFrom (before : List PathPart) :
    List PathPart → List PathPart → Option (List PathPart)
  | [], [] => some before
  | path, [] => some (before ++ path)
  | [], _ :: root => partsFrom (before ++ [.parent]) [] root
  | a :: path, b :: root =>
    if before.isEmpty && a == b then partsFrom before path root
    else if b = .current then partsFrom (before ++ [a]) path root
    else if b = .parent then none
    else some (before ++ .parent :: root.map (fun _ => .parent) ++ a :: path)

/-- The path that leads from `root` to `path`, if their parts tell it. -/
def relativeTo? (path root : FilePath) : Option FilePath :=
  if path.isAbsolute = root.isAbsolute then (partsFrom [] path.parts root.parts).map ofParts
  else if path.isAbsolute then some path
  else none

/-- A path as it is shown to someone who is in `root` : an absolute path below it is shortened. -/
def shownFrom (path root : FilePath) : FilePath :=
  if !path.isAbsolute then path
  else
    match path.relativeTo? root with
    | some relative => if relative.parts.head? = some .parent then path else relative
    | none => path

end FilePath

end PageRecipe
