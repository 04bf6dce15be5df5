import PageRecipe.Command.Running

/-!
# The program

Runs a command line on the files and the environment of the process.
-/

namespace PageRecipe.Process

/-- A path as the entry of a directory. -/
def entry (path : FilePath) : IO.FS.DirEntry := ⟨path.text, ""⟩

/-- Why a file cannot be read. -/
def readError : IO.Error → ReadError
  | .noFileOrDirectory .. => .notFound
  | .inappropriateType _ code details | .illegalOperation code details
  | .permissionDenied _ code details | .invalidArgument _ code details
  | .resourceExhausted _ code details | .noSuchThing _ code details
  | .otherError code details | .unsatisfiedConstraints code details =>
    if code = 20 then .notDirectory
    else if code = 21 then .isDirectory
    else if code = 40 then .tooManyLinks
    else .other (details ++ " (os error " ++ toString code ++ ")")
  | error => .other (toString error)

/-- The kind of what is at a path, behind links. -/
def kind? (path : FilePath) : IO (Option IO.FS.FileType) := do
  match ← (entry path).root.metadata.toBaseIO with
  | .ok metadata => return some metadata.type
  | .error _ => return none

/-- The text of a file. -/
def readText (path : FilePath) : IO (Except ReadError String) := do
  match ← (IO.FS.readBinFile path.text).toBaseIO with
  | .ok bytes => return (String.fromUTF8? bytes).elim (.error .notText) .ok
  | .error error => return .error (readError error)

/-- The files below a directory. What cannot be looked into is left out. -/
partial def filesBelow (directory : FilePath) : IO (List FilePath) := do
  match ← (entry directory).root.readDir.toBaseIO with
  | .error _ => return []
  | .ok entries =>
    let mut files := []
    for inner in entries do
      let path := directory.join ⟨inner.fileName⟩
      match ← (entry path).root.symlinkMetadata.toBaseIO with
      | .ok metadata =>
        match metadata.type with
        | .file => files := path :: files
        | .dir => files := (← filesBelow path) ++ files
        | _ => pure ()
      | .error _ => pure ()
    return files

/-- The file system of the process. -/
def files : FileSystem IO where
  read := readText
  isPresent path := return (← kind? path).isSome
  isFile path := return (← kind? path).any fun kind => kind matches .file
  isDirectory path := return (← kind? path).any fun kind => kind matches .dir
  filesBelow := filesBelow

/-- The variable that a text with an equals sign sets. -/
def variableOf? (text : String) : Option (String × String) :=
  let name := text.toList.takeWhile (· != '=')
  if name.length < text.length then
    some (String.ofList name, String.ofList (text.toList.drop (name.length + 1)))
  else none

/-- The environment of the process. -/
def environment : IO Environment := do
  match ← readText ⟨"/proc/self/environ"⟩ with
  | .ok text => return ⟨(text.splitOn "\x00").filterMap variableOf?⟩
  | .error _ => return ⟨[]⟩

/-- The current directory. -/
def here : IO (Except String FilePath) := do
  match ← IO.currentDir.toBaseIO with
  | .ok path => return .ok ⟨path.toString⟩
  | .error error => return .error (readError error).message

/-- Runs a command line and shows how it ended. -/
def run (words : List String) : IO UInt32 := do
  let output ← IO.getStdout
  let workplace : Workplace IO :=
    { files := files
      environment := ← environment
      here := ← here
      isTerminal := ← output.isTty }
  let transcript ← workplace.run words
  IO.print transcript.output
  IO.eprint transcript.errors
  return transcript.status.code.toUInt32

end PageRecipe.Process

/-- Runs the command line of the process. -/
def main (words : List String) : IO UInt32 := PageRecipe.Process.run words
