import PageRecipe.Recipe.RecipeError

/-!
# References to parts of a page

A leaf of a recipe refers to a part of a page : `meta.title` to an entry of its front matter,
`prose.constructor` to a piece of its prose. A question mark behind the name makes the part
optional. `Reference.parse` reads the notation and `Reference.display` writes it.
-/

namespace PageRecipe

/-- Where a part of a page lives. -/
inductive Family where
  /-- The front matter. -/
  | metadata
  /-- The prose. -/
  | prose
  deriving DecidableEq, Repr

namespace Family

/-- The name of a family in the notation. -/
def display : Family → String
  | metadata => "meta"
  | prose => "prose"

/-- The family of a name. -/
def ofName? (name : List Char) : Option Family :=
  if name = "meta".toList then some metadata
  else if name = "prose".toList then some prose
  else none

end Family

/-- A reference to a part of a page. -/
structure Reference where
  family : Family
  name : String
  isOptional : Bool
  deriving DecidableEq, Repr

namespace Reference

/-- A reference in the notation. -/
def display (reference : Reference) : String :=
  reference.family.display ++ "." ++ reference.name ++ (if reference.isOptional then "?" else "")

/-- A text without the question mark at its end, and whether there was one. -/
def splitMark (s : List Char) : List Char × Bool :=
  if s.getLast? = some '?' then (s.dropLast, true) else (s, false)

/-- Reads a reference. The first point separates the family from the name. -/
def parse (spec : String) : Except RecipeError Reference :=
  let family := spec.toList.takeWhile (· != '.')
  match Family.ofName? family with
  | none => .error (.unknownFamily spec (String.ofList family))
  | some known =>
    let (name, isOptional) := splitMark (spec.toList.drop (family.length + 1))
    if name.isEmpty then .error (.missingName spec)
    else .ok ⟨known, String.ofList name, isOptional⟩

end Reference

end PageRecipe
