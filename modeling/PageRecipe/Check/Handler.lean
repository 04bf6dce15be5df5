import PageRecipe.Check.Classifier
import PageRecipe.Check.Report
import PageRecipe.Prose.Run

/-!
# Handlers

A handler checks the structure of one prose ingredient : it walks the tree, adds its findings
to the report and says how it ended.
-/

namespace PageRecipe

/-- What a handler may consult besides the tree. -/
structure Context where
  classifier : Classifier
  /-- The macro that embeds an interactive example. -/
  exampleMacro : String
  deriving DecidableEq, Repr

/-- How a handler ended. -/
inductive Outcome where
  /-- The ingredient was found and is valid, anchored at a node. -/
  | valid (anchor : Located)
  /-- The ingredient is absent or not valid, and findings say why. -/
  | invalid
  /-- The handler only reports, and is done. -/
  | checked
  deriving Repr

/-- The ingredient is absent or not valid. -/
def Outcome.isInvalid : Outcome → Bool
  | invalid => true
  | _ => false

/-- A structural check of one prose ingredient. -/
abbrev Handler := Context → Located → Report → Outcome × Report

end PageRecipe
