import PageRecipe.Recipe.Basic
import PageRecipe.Yaml.Decoding

/-!
# Reading recipes

A recipe is written as a YAML mapping with the field `related_content` and, if its body is not
empty, the field `body`. Other fields are not looked at (`Recipe.ofNode`, `Recipe.ofText`).
-/

namespace PageRecipe

/-- The ingredient that a node writes. -/
def Ingredient.ofNode (body path : Yaml.Path) (mark : Yaml.Mark) (node : Yaml.Node) :
    Except Yaml.Error Ingredient := do
  let value ← Yaml.Value.ofNode .buffered path node
  match Ingredient.ofValue? value with
  | some ingredient => return ingredient
  | none => throw (.complaint .notAnIngredient body mark)

/-- The ingredients that the items of a sequence write. -/
def Ingredient.ofItems (body : Yaml.Path) (mark : Yaml.Mark) :
    Nat → List Yaml.Node → Except Yaml.Error (List Ingredient)
  | _, [] => .ok []
  | index, item :: rest => do
    let ingredient ← Ingredient.ofNode body (.item index :: body) mark item
    let ingredients ← Ingredient.ofItems body mark (index + 1) rest
    return ingredient :: ingredients

/-- The ingredients that a node writes. Nothing at all is a body without ingredients. -/
def Ingredient.ofBody (path : Yaml.Path) (node : Yaml.Node) : Except Yaml.Error (List Ingredient) :=
  match node with
  | .sequence mark _ items => Ingredient.ofItems path mark 0 items
  | node => if node.isVoid then .ok [] else .error (node.unexpected path "a sequence")

namespace Recipe

/-- The names of the fields. -/
def relatedContentField : String := "related_content"

/-- The names of the fields. -/
def bodyField : String := "body"

/-- A field that is looked at. -/
def isField (name : String) : Bool := name == relatedContentField || name == bodyField

/-- The fields that were read so far. -/
structure Fields where
  relatedContent : Option String
  body : Option (List Ingredient)

/-- Reads one field of a recipe that starts at a place. -/
def Fields.add (fields : Fields) (mark : Yaml.Mark) (step : Yaml.Step) (key value : Yaml.Node) :
    Except Yaml.Error Fields := do
  let name ← key.expectText [] "field identifier"
  let repeated : Yaml.Error := .complaint (.repeatedField name) [] mark
  if name = relatedContentField then
    if fields.relatedContent.isSome then throw repeated
    let text ← value.expectText [step] "path string"
    return { fields with relatedContent := some text }
  else if name = bodyField then
    if fields.body.isSome then throw repeated
    let body ← Ingredient.ofBody [step] value
    return { fields with body := some body }
  else
    match value with
    | .failed error => throw error
    | _ => return fields

/-- Reads the fields of a recipe. -/
def Fields.addAll (mark : Yaml.Mark) :
    Fields → List (Yaml.Step × Yaml.Node × Yaml.Node) → Except Yaml.Error Fields
  | fields, [] => .ok fields
  | fields, (step, key, value) :: rest => do
    Fields.addAll mark (← fields.add mark step key value) rest

/-- The recipe of the fields that were read. -/
def ofFields (mark : Yaml.Mark) (fields : Fields) : Except Yaml.Error Recipe :=
  match fields.relatedContent with
  | some text => .ok ⟨text, fields.body.getD []⟩
  | none => .error (.complaint (.missingField relatedContentField) [] mark)

/-- The recipe that the root of a document writes. -/
def ofNode (node : Yaml.Node) : Except Yaml.Error Recipe :=
  match node with
  | .mapping mark _ entries => (Fields.addAll mark ⟨none, none⟩ entries).bind (ofFields mark)
  | node =>
    if node.isVoid then ofFields node.mark ⟨none, none⟩
    else .error (node.unexpected [] "struct Recipe")

/-- The recipe that a text writes. -/
def ofText (s : String) : Except Yaml.Error Recipe := Yaml.decode isField ofNode s

end Recipe

end PageRecipe
