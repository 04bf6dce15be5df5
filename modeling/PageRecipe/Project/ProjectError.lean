import PageRecipe.Files.Path
import PageRecipe.Recipe.RecipeError

/-!
# What can go wrong in a project

Every error has a message, and some have a cause that is shown below it.
-/

namespace PageRecipe

/-- Why something cannot be done in a project. -/
inductive ProjectError where
  /-- A recipe has a mistake. -/
  | mistake (error : RecipeError)
  | recipeNotFound (path : FilePath)
  | contentNotFound (path : FilePath)
  /-- The settings cannot be loaded, in words. -/
  | settings (message : String)
  /-- An action on a file failed. -/
  | operation (action : String) (path : FilePath) (cause : String)
  deriving DecidableEq, Repr

namespace ProjectError

/-- What an action is done on. -/
def context (action : String) (path : FilePath) : String := action ++ ": " ++ path.text

/-- An error in words. -/
def message : ProjectError → String
  | mistake error => error.message
  | recipeNotFound path => "recipe not found: " ++ path.text
  | contentNotFound path => "content directory not found: " ++ path.text
  | settings message => "config error: " ++ message
  | operation action path _ => "operation failed: " ++ context action path

/-- The causes of an error. -/
def causes : ProjectError → List String
  | mistake error => [error.message]
  | operation _ _ cause => [cause]
  | recipeNotFound _ | contentNotFound _ | settings _ => []

end ProjectError

end PageRecipe
