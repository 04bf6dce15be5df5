import PageRecipe.Command.Arguments
import PageRecipe.Command.Display
import PageRecipe.Command.Usage
import PageRecipe.Prose.Outline
import PageRecipe.Recipe.Outline
import PageRecipe.Settings.Loading

/-!
# Running commands

A command asks the file system and the environment (`Workplace`) and ends with what it shows
and an exit status (`Workplace.run`). Checking ends well unless some page has a violation
(`checkStatus`).
-/

namespace PageRecipe

/-- Where a command runs. -/
structure Workplace (m : Type → Type) where
  files : FileSystem m
  environment : Environment
  /-- The current directory, or why it is not known. -/
  here : Except String FilePath
  /-- The output goes to a terminal. -/
  isTerminal : Bool

/-- How a command ended : what it wrote for its user, about its failure, and its exit status. -/
structure Transcript where
  output : String
  errors : String
  status : ExitStatus
  deriving DecidableEq, Repr

/-- The exit status of a check. -/
def checkStatus (reports : List PageReport) : ExitStatus :=
  if reports.any PageReport.hasFailures then .findings else .ok

namespace Workplace

variable {m : Type → Type} [Monad m]

/-- How things are shown. -/
def display (workplace : Workplace m) : Display :=
  ⟨workplace.environment.wantsColour workplace.isTerminal⟩

/-- The root of the project : the directory that was given, else the current one. -/
def projectRoot (workplace : Workplace m) (invocation : Invocation) : Except Failure FilePath :=
  match invocation.projectDirectory, workplace.here with
  | some directory, _ => .ok directory
  | none, .ok directory => .ok directory
  | none, .error cause => .error (.inputOutput "determine current directory" cause)

/-- The settings of a project. -/
def loadSettings (workplace : Workplace m) (root : FilePath) : ExceptT Failure m Settings :=
  ExceptT.adapt (fun error => .project (.settings error.message))
    (Settings.load workplace.files workplace.environment (some root))

/-- The project that a command is about. -/
def loadProject (workplace : Workplace m) (invocation : Invocation) :
    ExceptT Failure m (Project m) := do
  let root ← workplace.projectRoot invocation
  let settings ← workplace.loadSettings root
  return ⟨workplace.files, settings, root⟩

/-- The pages to check : those that were given, which have to be files, else all. -/
def pagesToCheck (project : Project m) (paths : List FilePath) :
    ExceptT Failure m (List FilePath) := do
  if paths.isEmpty then
    ExceptT.adapt Failure.project project.pages
  else
    for path in paths do
      if !(← project.files.isFile path) then
        throw (.arguments ("not a document: " ++ path.text))
    return paths

/-- Reports as they are shown. -/
def showReports (workplace : Workplace m) (root : FilePath) (format : OutputFormat)
    (reports : List PageReport) : String :=
  match format with
  | .text => workplace.display.reports root reports
  | .json => Display.line (JsonValue.list (reports.map PageReport.toJson)).render

/-- Checks pages. -/
def check (workplace : Workplace m) (project : Project m) (paths : List FilePath)
    (format : OutputFormat) : ExceptT Failure m (String × ExitStatus) := do
  let pages ← pagesToCheck project paths
  let reports ← ExceptT.adapt Failure.project (project.checkPages .builtin pages)
  return (workplace.showReports project.root format reports, checkStatus reports)

/-- Shows a recipe. -/
def showRecipe (project : Project m) (name : String) : ExceptT Failure m String := do
  let recipe ← ExceptT.adapt Failure.project (project.loadRecipe name)
  return Display.line (recipe.outline name).render

/-- Shows the keys of the front matter of a page, its recipe and its prose. -/
def showPage (workplace : Workplace m) (project : Project m) (path : FilePath) :
    ExceptT Failure m String := do
  let page ← ExceptT.adapt Failure.project (project.loadPage path)
  let display := workplace.display
  let keys := display.labelled "front matter" (", ".intercalate (Dictionary.labels page.metadata))
  let recipe := page.recipeName?.elim "" (display.labelled "recipe")
  return keys ++ recipe ++ Display.line page.prose.outline.render

/-- Shows the places of settings, and whether something is there. -/
def showPlaces (workplace : Workplace m) (root : FilePath) : m String := do
  let display := workplace.display
  let places := workplace.environment.settingsFile?.toList ++ [root.settingsFile]
  let lines ← places.mapM fun place => do
    if ← workplace.files.isPresent place then return display.present place.text
    else return display.absent place.text
  return display.heading "Config files (lowest to highest precedence)" ++ String.join lines

/-- Does what was asked for. -/
def perform (workplace : Workplace m) (invocation : Invocation) :
    ExceptT Failure m (String × ExitStatus) :=
  match invocation.command with
  | .check paths format => do
    workplace.check (← workplace.loadProject invocation) paths format
  | .recipe name => do
    return (← showRecipe (← workplace.loadProject invocation) name, .ok)
  | .inspect path => do
    return (← workplace.showPage (← workplace.loadProject invocation) path, .ok)
  | .showSettings => do
    let settings ← workplace.loadSettings (← workplace.projectRoot invocation)
    return (Display.line settings.toText, .ok)
  | .locateSettings => do
    let places ← workplace.showPlaces (← workplace.projectRoot invocation)
    return (places, .ok)
  | .complete shell => return (shell.script, .ok)

/-- How an invocation ends. -/
def transcriptOf (workplace : Workplace m) : Except Failure (String × ExitStatus) → Transcript
  | .ok (output, status) => ⟨output, "", status⟩
  | .error failure => ⟨"", workplace.display.failure failure, failure.exitStatus⟩

/-- How a command line ends that asks for no work. -/
def refusal : UsageError → Transcript
  | .help => ⟨usageText, "", .ok⟩
  | .version => ⟨versionLine, "", .ok⟩
  | .nothingGiven => ⟨"", usageText, .badCommandLine⟩
  | error => ⟨"", "error: " ++ error.message ++ "\n\n" ++ usageText, .badCommandLine⟩

/-- Runs a command line. -/
def run (workplace : Workplace m) (words : List String) : m Transcript :=
  match Invocation.ofWords words with
  | .ok invocation => workplace.transcriptOf <$> (workplace.perform invocation).run
  | .error error => return refusal error

end Workplace

end PageRecipe
