import PageRecipe.Text.Quoted

/-!
# Mistakes in recipes

What can be wrong with an entry of a recipe, apart from what a page lacks. Every mistake has a
message and a code under which it is reported.
-/

namespace PageRecipe

/-- A mistake in a recipe. -/
inductive RecipeError where
  /-- The family in front of the first point is not known. -/
  | unknownFamily (ingredient family : String)
  | missingName (ingredient : String)
  /-- A group that has not exactly one label. -/
  | malformedGroup (keys : Nat) (labels : List String)
  /-- An entry that is neither a text nor a group, written out. -/
  | invalidEntry (entry : String)
  /-- No check is known for a prose ingredient. -/
  | unknownProse (name : String)
  deriving DecidableEq, Repr

namespace RecipeError

/-- Texts in quotes between square brackets. -/
def quotedList (texts : List String) : String :=
  "[" ++ ", ".intercalate (texts.map Text.quoted) ++ "]"

/-- A mistake in words. -/
def message : RecipeError → String
  | unknownFamily ingredient family =>
    "unrecognized ingredient type \x60" ++ family ++ "\x60 in \x60" ++ ingredient ++ "\x60"
  | missingName ingredient => "ingredient has no name: \x60" ++ ingredient ++ "\x60"
  | malformedGroup keys labels =>
    "ingredient groups must have exactly one key, found " ++ toString keys ++ ": " ++
      quotedList labels
  | invalidEntry entry => "recipe entry is neither an ingredient nor a group: " ++ entry
  | unknownProse name => "no handler for prose ingredient \x60" ++ name ++ "\x60"

/-- The code under which a mistake is reported. -/
def code : RecipeError → String
  | unknownFamily .. | missingName _ => "unknown-ingredient-type"
  | malformedGroup .. | invalidEntry _ => "malformed-ingredient-group"
  | unknownProse _ => "unknown-prose-ingredient"

end RecipeError

end PageRecipe
