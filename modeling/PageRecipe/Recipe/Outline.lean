import PageRecipe.Recipe.Basic
import PageRecipe.Text.Outline

/-!
# Recipes as outlines

The outline of a recipe shows its leaves and the labels of its groups. In the place of an
entry that is malformed it says so, and shows nothing of what is inside.
-/

namespace PageRecipe

mutual

/-- The outline of an ingredient. -/
def Ingredient.outline : Ingredient → Outline
  | .leaf spec => .mk spec []
  | .group [(label, body)] => .mk label (Ingredient.outlines body)
  | .group entries =>
    .mk ("<malformed group: " ++ ", ".intercalate (entries.map (·.1)) ++ ">") []
  | .invalid value => .mk ("<invalid entry: " ++ value.display ++ ">") []

/-- The outlines of ingredients. -/
def Ingredient.outlines : List Ingredient → List Outline
  | [] => []
  | ingredient :: rest => Ingredient.outline ingredient :: Ingredient.outlines rest

end

/-- The outline of a recipe under its name. -/
def Recipe.outline (name : String) (recipe : Recipe) : Outline :=
  .mk (name ++ " (" ++ recipe.relatedContent ++ ")") (Ingredient.outlines recipe.body)

end PageRecipe
