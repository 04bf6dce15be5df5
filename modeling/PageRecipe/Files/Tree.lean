import PageRecipe.Files.System

/-!
# Trees of files

A file system as a value : directories with named entries, files with bytes, and links to other
paths. `FileTree.system` answers the questions of a `FileSystem` from a tree, for someone who is
in one of its directories. Looking something up follows links, walking through directories does
not.
-/

namespace PageRecipe

/-- What is in a place of a file system. -/
inductive FileTree where
  | file (bytes : ByteArray)
  | directory (entries : List (String × FileTree))
  /-- Stands for what is at another path. -/
  | link (target : FilePath)
  deriving Inhabited

namespace FileTree

/-- The directory without entries. -/
def empty : FileTree := .directory []

/-- The entry of a directory under a name. -/
def entry? (tree : FileTree) (name : String) : Option FileTree :=
  match tree with
  | .directory entries => entries.lookup name
  | _ => none

/-- The tree under a list of names. -/
def at? : FileTree → List String → Option FileTree
  | tree, [] => some tree
  | tree, name :: names => (tree.entry? name).bind fun entry => entry.at? names

/-- The tree is a directory. -/
def isDirectory : FileTree → Bool
  | .directory _ => true
  | _ => false

/-! ## Looking up -/

/-- How many links a path may lead through. -/
def maxLinks : Nat := 40

/-- The place to which segments of a path lead from the place `here`, whose names are in
reverse. -/
def resolve (root : FileTree) (links : Nat) (here : List String) (path : List (List Char)) :
    Except ReadError (List String) :=
  match path with
  | [] => .ok here
  | segment :: rest =>
    match root.at? here.reverse with
    | none => .error .notFound
    | some tree =>
      if !tree.isDirectory then .error .notDirectory
      else if segment = [] ∨ segment = ['.'] then resolve root links here rest
      else if segment = ['.', '.'] then resolve root links here.tail rest
      else
        let name := String.ofList segment
        match tree.entry? name with
        | none => .error .notFound
        | some (.link target) =>
          match links with
          | 0 => .error .tooManyLinks
          | links + 1 =>
            let start := if target.isAbsolute then [] else here
            resolve root links start (segments target.text.toList ++ rest)
        | some _ => resolve root links (name :: here) rest
termination_by (links, path.length)

/-- The names of the place to which a path leads from a directory. -/
def locate (root : FileTree) (here : List String) (path : FilePath) :
    Except ReadError (List String) :=
  if path.text.isEmpty then .error .notFound
  else
    let start := if path.isAbsolute then [] else here.reverse
    (resolve root maxLinks start (segments path.text.toList)).map List.reverse

/-- What is at a path. -/
def find (root : FileTree) (here : List String) (path : FilePath) :
    Except ReadError FileTree := do
  match root.at? (← root.locate here path) with
  | some tree => return tree
  | none => throw .notFound

/-- The text of the file at a path. -/
def readText (root : FileTree) (here : List String) (path : FilePath) :
    Except ReadError String := do
  match ← root.find here path with
  | .file bytes => (String.fromUTF8? bytes).elim (.error .notText) .ok
  | .directory _ => throw .isDirectory
  | .link _ => throw .notFound

/-! ## Walking -/

mutual

/-- The files of a tree that is at a path. -/
def filesAt (path : FilePath) : FileTree → List FilePath
  | .file _ => [path]
  | .directory entries => filesOfEntries path entries
  | .link _ => []

/-- The files of the entries of a directory that is at a path. -/
def filesOfEntries (path : FilePath) : List (String × FileTree) → List FilePath
  | [] => []
  | (name, tree) :: rest => filesAt (path.join ⟨name⟩) tree ++ filesOfEntries path rest

end

/-- The tree as a file system for someone in the directory `here`. -/
def system (root : FileTree) (here : List String) : FileSystem Id where
  read path := root.readText here path
  isPresent path := (root.find here path).toOption.isSome
  isFile path :=
    match root.find here path with
    | .ok (.file _) => true
    | _ => false
  isDirectory path :=
    match root.find here path with
    | .ok tree => tree.isDirectory
    | .error _ => false
  filesBelow path :=
    match root.find here path with
    | .ok tree => filesAt path tree
    | .error _ => []

/-! ## Changes -/

/-- The entries with another entry under a name. -/
def putEntry (name : String) (tree : FileTree) :
    List (String × FileTree) → List (String × FileTree)
  | [] => [(name, tree)]
  | (other, old) :: rest =>
    if other = name then (name, tree) :: rest else (other, old) :: putEntry name tree rest

/-- Puts a tree under a list of names, with the directories that lead there. -/
def put (tree : FileTree) : List String → FileTree → FileTree
  | [], new => new
  | name :: names, new =>
    let inner := put ((tree.entry? name).getD empty) names new
    match tree with
    | .directory entries => .directory (putEntry name inner entries)
    | _ => .directory [(name, inner)]

/-- Makes sure that there is a directory under a list of names. -/
def makeDirectory (tree : FileTree) (names : List String) : FileTree :=
  match tree.at? names with
  | some (.directory _) => tree
  | _ => tree.put names empty

/-- Takes away what is under a list of names. -/
def remove : FileTree → List String → FileTree
  | .directory entries, [name] => .directory (entries.filter (·.1 != name))
  | .directory entries, name :: names =>
    match entries.lookup name with
    | some inner => .directory (putEntry name (inner.remove names) entries)
    | none => .directory entries
  | tree, _ => tree

end FileTree

end PageRecipe
