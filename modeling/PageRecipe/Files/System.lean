import PageRecipe.Files.Path

/-!
# File systems

What the library asks of a file system. The questions may have effects, so a file system is
given in a monad : a tree of files answers without any, a program asks the real one.
-/

namespace PageRecipe

/-- Why a file cannot be read. -/
inductive ReadError where
  | notFound
  | isDirectory
  /-- A part of the path that should be a directory is none. -/
  | notDirectory
  | tooManyLinks
  /-- The file is no UTF-8 text. -/
  | notText
  /-- Any other reason, in words. -/
  | other (message : String)
  deriving DecidableEq, Repr

/-- A reason in words. -/
def ReadError.message : ReadError → String
  | notFound => "No such file or directory (os error 2)"
  | isDirectory => "Is a directory (os error 21)"
  | notDirectory => "Not a directory (os error 20)"
  | tooManyLinks => "Too many levels of symbolic links (os error 40)"
  | notText => "stream did not contain valid UTF-8"
  | other message => message

/-- What can be asked of a file system. -/
structure FileSystem (m : Type → Type) where
  /-- The text of a file. -/
  read : FilePath → m (Except ReadError String)
  /-- There is something at the path. -/
  isPresent : FilePath → m Bool
  isFile : FilePath → m Bool
  isDirectory : FilePath → m Bool
  /-- The files below a directory, through directories only, in any order. Every path starts
  with the directory. -/
  filesBelow : FilePath → m (List FilePath)

end PageRecipe
