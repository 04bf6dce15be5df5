import PageRecipe.Check.Registry
import PageRecipe.Page.Basic
import PageRecipe.Recipe.Basic
import PageRecipe.Recipe.Reference

/-!
# Checking a page against a recipe

The ingredients of a recipe are checked one after the other, and groups of one label are looked
through. Leaves of the front matter have to be present, leaves of the prose are given to their
handlers, each with a report of its own. A mistake in the recipe is reported, and the rest of
the recipe is still checked.
-/

namespace PageRecipe

/-- What ingredients are checked with. -/
structure Interpreter where
  registry : Registry
  context : Context

namespace Interpreter

/-- The selector of the root of a page, at which mistakes are reported. -/
def anchor (page : Page) : String := page.prose.display

/-- Reports a mistake in a recipe. -/
def reportMistake (page : Page) (error : RecipeError) (report : Report) : Report :=
  report.fail (anchor page) error.message error.code

/-- Checks a leaf of the front matter : it has to be present and not null. -/
def checkMetadata (page : Page) (reference : Reference) (report : Report) : Report :=
  let isPresent := (page.metadata.get? reference.name).any fun value => !value.isNull
  report.failIf (!isPresent && !reference.isOptional) (anchor page)
    ("Missing mandatory ingredient: " ++ reference.name) "missing-meta-ingredient"

/-- Checks a leaf of the prose with its handler. If the leaf is optional, that something was not
found does not count. -/
def checkProse (interpreter : Interpreter) (page : Page) (reference : Reference)
    (report : Report) : Report :=
  match interpreter.registry.resolve? reference.name with
  | none => reportMistake page (.unknownProse reference.name) report
  | some handler =>
    let scratch := (handler interpreter.context (.root page.prose 0) .empty).2
    report.extend <| scratch.findings.filter fun finding =>
      !(reference.isOptional && finding.severity == .expected)

/-- Checks a leaf. -/
def checkLeaf (interpreter : Interpreter) (page : Page) (spec : String) (report : Report) :
    Report :=
  match Reference.parse spec with
  | .error error => reportMistake page error report
  | .ok reference =>
    match reference.family with
    | .metadata => checkMetadata page reference report
    | .prose => interpreter.checkProse page reference report

mutual

/-- Checks an ingredient. -/
def checkOne (interpreter : Interpreter) (page : Page) : Ingredient → Report → Report
  | .leaf spec, report => interpreter.checkLeaf page spec report
  | .group [(_, body)], report => interpreter.checkAll page body report
  | .group entries, report =>
    reportMistake page (.malformedGroup entries.length (entries.map (·.1))) report
  | .invalid value, report => reportMistake page (.invalidEntry value.display) report

/-- Checks ingredients, one after the other. -/
def checkAll (interpreter : Interpreter) (page : Page) : List Ingredient → Report → Report
  | [], report => report
  | ingredient :: rest, report =>
    interpreter.checkAll page rest (interpreter.checkOne page ingredient report)

end

/-- Checks a page against a recipe. -/
def check (interpreter : Interpreter) (page : Page) (recipe : Recipe) (report : Report) :
    Report :=
  interpreter.checkAll page recipe.body report

end Interpreter

end PageRecipe
