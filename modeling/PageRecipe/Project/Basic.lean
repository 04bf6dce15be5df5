import PageRecipe.Files.System
import PageRecipe.Page.Basic
import PageRecipe.Project.ProjectError
import PageRecipe.Recipe.Decoding
import PageRecipe.Settings.Basic

/-!
# Projects

A project is a directory with pages and recipes, and settings that say where they are. Pages
are the files of one name below the content directory (`Project.pages`), and a recipe is a file
of the recipes directory (`Project.loadRecipe`).
-/

namespace PageRecipe

/-- A directory with pages and recipes. -/
structure Project (m : Type → Type) where
  files : FileSystem m
  settings : Settings
  root : FilePath

namespace Project

variable {m : Type → Type} [Monad m]

/-- The directory of the pages. -/
def contentDirectory (project : Project m) : FilePath :=
  project.root.join ⟨project.settings.contentDirectory⟩

/-- The directory of the recipes. -/
def recipesDirectory (project : Project m) : FilePath :=
  project.root.join ⟨project.settings.recipesDirectory⟩

/-- The file of a recipe. -/
def recipeFile (project : Project m) (name : String) : FilePath :=
  project.recipesDirectory.join ⟨name ++ ".yaml"⟩

/-- The file of the content that a recipe relates to. -/
def relatedFile (project : Project m) (recipe : Recipe) : FilePath :=
  project.root.join ⟨recipe.relatedContent⟩

/-- The pages of the project, in the order of paths. -/
def pages (project : Project m) : ExceptT ProjectError m (List FilePath) := do
  let directory := project.contentDirectory
  if ← project.files.isDirectory directory then
    let paths ← project.files.filesBelow directory
    return (paths.filter fun path => path.isNamed project.settings.pageFileName).mergeSort
      FilePath.le
  else throw (.contentNotFound directory)

/-- The text of a file. -/
def read (project : Project m) (action : String) (path : FilePath) :
    ExceptT ProjectError m String := do
  match ← project.files.read path with
  | .ok text => return text
  | .error error => throw (.operation action path error.message)

/-- The recipe of a name. -/
def loadRecipe (project : Project m) (name : String) : ExceptT ProjectError m Recipe := do
  let path := project.recipeFile name
  if ← project.files.isFile path then
    match Recipe.ofText (← project.read "read recipe" path) with
    | .ok recipe => return recipe
    | .error error => throw (.operation "parse recipe" path error.message)
  else throw (.recipeNotFound path)

/-- The text of a page. -/
def readPage (project : Project m) (path : FilePath) : ExceptT ProjectError m String :=
  project.read "read document" path

/-- The page in a file. Front matter that cannot be read is an error here. -/
def loadPage (project : Project m) (path : FilePath) : ExceptT ProjectError m Page := do
  match Page.ofText (← project.readPage path) with
  | (page, none) => return page
  | (_, some error) => throw (.operation "parse front matter" path error.message)

end Project

end PageRecipe
