import PageRecipe.Files.System
import PageRecipe.Settings.Document
import PageRecipe.Settings.Overrides

/-!
# Loading settings

Settings come from a file of the user, a file of the project and the environment, in ascending
order of precedence (`Settings.ofLayers`). Files that are missing say nothing. Variables in
paths are expanded when all layers have had their say.
-/

namespace PageRecipe

/-- Why settings cannot be loaded. -/
inductive SettingsError where
  | unreadable (path : FilePath) (error : ReadError)
  /-- The file is no document of settings, and why. -/
  | malformed (path : FilePath) (reason : String)
  deriving DecidableEq, Repr

/-- An error in words. -/
def SettingsError.message : SettingsError → String
  | unreadable path error => "read " ++ path.text ++ ": " ++ error.message
  | malformed path reason => "parse " ++ path.text ++ ": " ++ reason

/-- The file with the settings of the user. -/
def Environment.settingsFile? (environment : Environment) : Option FilePath :=
  environment.configHome?.map fun home =>
    (home.join ⟨"recipe-lint"⟩).join ⟨"recipe-lint.toml"⟩

/-- The file with the settings of a project. -/
def FilePath.settingsFile (root : FilePath) : FilePath := root.join ⟨".recipe-lint.toml"⟩

namespace Settings

/-- The settings that the layers of the user, of the project and of the environment make. -/
def ofLayers (environment : Environment) (user project : Layer) : Settings :=
  let layered := (standard.replacedBy user).amendedBy project
  (layered.replacedBy (.ofEnvironment environment)).expandPaths environment

end Settings

variable {m : Type → Type} [Monad m]

/-- The layer that a file writes. A file that is missing says nothing. -/
def Layer.ofFile (files : FileSystem m) (path : FilePath) : ExceptT SettingsError m Layer := do
  if ← files.isPresent path then
    match ← files.read path with
    | .error error => throw (.unreadable path error)
    | .ok text =>
      match Layer.ofText text with
      | .error reason => throw (.malformed path reason)
      | .ok layer => return layer
  else return .empty

/-- The layer that a file writes, if there is a path at all. -/
def Layer.ofFile? (files : FileSystem m) (path : Option FilePath) :
    ExceptT SettingsError m Layer :=
  match path with
  | some path => Layer.ofFile files path
  | none => return .empty

/-- The settings for a project, or without one for its user. -/
def Settings.load (files : FileSystem m) (environment : Environment)
    (root : Option FilePath) : ExceptT SettingsError m Settings := do
  let user ← Layer.ofFile? files environment.settingsFile?
  let project ← Layer.ofFile? files (root.map FilePath.settingsFile)
  return .ofLayers environment user project

end PageRecipe
