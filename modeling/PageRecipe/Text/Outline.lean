/-!
# Outlines

Labels in a tree, written out with one line for each label. Lines show by bars and corners
where a label hangs. A label is written as it is, line breaks included.
-/

namespace PageRecipe

/-- A label with the outlines below it. -/
inductive Outline where
  | mk (label : String) (children : List Outline)
  deriving Repr, Inhabited

namespace Outline

/-- The label at the top. -/
def label : Outline → String
  | mk label _ => label

/-- The outlines below the top. -/
def children : Outline → List Outline
  | mk _ children => children

/-- What stands in front of a label, and in front of all that is below it, as the last one of
its siblings or not. -/
def branch (isLast : Bool) : String × String :=
  if isLast then ("└── ", "    ") else ("├── ", "│   ")

mutual

/-- The labels below the top, each in a line behind what `stem` says. -/
def renderBelow (stem : String) : Outline → String
  | mk _ children => renderAll stem children

/-- Siblings, each with what is below it. -/
def renderAll (stem : String) : List Outline → String
  | [] => ""
  | outline :: rest =>
    let marks := branch rest.isEmpty
    stem ++ marks.1 ++ outline.label ++ "\n" ++ renderBelow (stem ++ marks.2) outline ++
      renderAll stem rest

end

/-- An outline as a text. -/
def render (outline : Outline) : String := outline.label ++ "\n" ++ renderBelow "" outline

end Outline

end PageRecipe
