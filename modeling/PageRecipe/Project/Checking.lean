import PageRecipe.Check.Interpreter
import PageRecipe.Project.Basic

/-!
# Checking the pages of a project

A page is checked against the recipe that its front matter names. That front matter or a recipe
cannot be read is a finding of the page ; only a page that cannot be read itself is an error
(`Project.checkPage`).
-/

namespace PageRecipe

/-- The findings of a page. -/
structure PageReport where
  path : FilePath
  findings : List Finding
  deriving DecidableEq, Repr

namespace PageReport

/-- The page has findings. -/
def hasFindings (report : PageReport) : Bool := !report.findings.isEmpty

/-- Some finding is a violation. -/
def hasFailures (report : PageReport) : Bool := report.findings.any (·.severity == .fail)

end PageReport

namespace Project

/-- Reports that front matter has an error, if it has one. -/
def reportFrontMatter (page : Page) (error : Option Yaml.Error) (report : Report) : Report :=
  match error with
  | none => report
  | some error =>
    report.fail (Interpreter.anchor page) ("Invalid front matter: " ++ error.message)
      "invalid-front-matter"

variable {m : Type → Type} [Monad m]

/-- The interpreter that goes by the settings of the project. -/
def interpreter (project : Project m) (registry : Registry) : Interpreter :=
  ⟨registry, ⟨project.settings.classifier, project.settings.exampleMacro⟩⟩

/-- Reports that the content which a recipe relates to is missing, if it is. -/
def checkRelated (project : Project m) (page : Page) (recipe : Recipe) (report : Report) :
    m Report := do
  let isPresent ← project.files.isPresent (project.relatedFile recipe)
  return report.failIf (!isPresent) (Interpreter.anchor page)
    ("Related content not found: " ++ recipe.relatedContent) "related-content-missing"

/-- Checks a page against the recipe that it names. An error about the recipe is reported, any
other error ends the check. -/
def checkRecipe (project : Project m) (registry : Registry) (page : Page) (report : Report) :
    ExceptT ProjectError m Report :=
  match page.recipeName? with
  | none =>
    return report.fail (Interpreter.anchor page) "Document does not name a recipe" "missing-recipe"
  | some name => do
    match ← ExceptT.lift (project.loadRecipe name).run with
    | .ok recipe =>
      let report ← project.checkRelated page recipe report
      return (project.interpreter registry).check page recipe report
    | .error (.recipeNotFound path) =>
      return report.fail (Interpreter.anchor page) ("Recipe not found: " ++ path.text)
        "recipe-not-found"
    | .error (.operation action path cause) =>
      return report.fail (Interpreter.anchor page)
        ("Invalid recipe: " ++ ProjectError.context action path ++ ": " ++ cause) "invalid-recipe"
    | .error error => throw error

/-- Checks the page in a file. -/
def checkPage (project : Project m) (registry : Registry) (path : FilePath) :
    ExceptT ProjectError m PageReport := do
  let (page, error) := Page.ofText (← project.readPage path)
  let report ← project.checkRecipe registry page (reportFrontMatter page error .empty)
  return ⟨path, report.findings⟩

/-- Checks the pages in files. -/
def checkPages (project : Project m) (registry : Registry) (paths : List FilePath) :
    ExceptT ProjectError m (List PageReport) :=
  paths.mapM (project.checkPage registry)

end Project

end PageRecipe
