import PageRecipe.Dictionary
import PageRecipe.Yaml.Value

/-!
# Recipes

A recipe declares what a kind of page must carry. Its body is a list of ingredients : leaves,
which refer to a part of the page, and groups, which only organise. A group has one label ;
groups with another number of labels and entries of any other shape are kept as they were
written (`Ingredient.ofValue?`), so that they can be reported.
-/

namespace PageRecipe

/-- An entry of the body of a recipe. -/
inductive Ingredient where
  | leaf (spec : String)
  /-- A group with its labels in order. -/
  | group (entries : List (String × List Ingredient))
  /-- An entry that is neither a text nor a group. -/
  | invalid (value : Yaml.Value)
  deriving Repr, Inhabited

/-- What a kind of page must carry. -/
structure Recipe where
  /-- The path of the related content, from the root of the project. -/
  relatedContent : String
  body : List Ingredient
  deriving Repr

namespace Ingredient

open Yaml (Value)

/-- An entry that is kept as it was written. A mapping that repeats a key cannot be kept. -/
def kept? (value : Value) : Option Ingredient :=
  if value.hasDistinctKeys then some (.invalid value) else none

mutual

/-- The ingredient that a value writes. -/
def ofValue? : Value → Option Ingredient
  | .string spec => some (.leaf spec)
  | .mapping entries =>
    match entriesOfValues? [] entries with
    | some labelled => some (.group labelled)
    | none => kept? (.mapping entries)
  | value => kept? value

/-- The ingredients that values write, if each of them writes one. -/
def ofValues? : List Value → Option (List Ingredient)
  | [] => some []
  | value :: rest => do
    let ingredient ← ofValue? value
    let ingredients ← ofValues? rest
    return ingredient :: ingredients

/-- The entries of a group, if all keys are texts and all values sequences of ingredients. Of
several entries with one label the last one counts. -/
def entriesOfValues? (before : Dictionary (List Ingredient)) :
    List (Value × Value) → Option (Dictionary (List Ingredient))
  | [] => some before
  | (.string label, .sequence items) :: rest => do
    let body ← ofValues? items
    entriesOfValues? (before.insert label body) rest
  | _ => none

end

end Ingredient

end PageRecipe
