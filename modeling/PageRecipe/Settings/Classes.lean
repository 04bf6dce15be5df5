/-!
# Sets of classes

The classes that mark admonitions are a set, written as a list in ascending order. A list of
amendments adds classes to it, and takes those away that it names behind an exclamation mark.
The amendments apply one after the other, so that the last one about a class counts
(`Classes.merge`).
-/

namespace PageRecipe.Classes

/-- Adds a class to a list in ascending order. -/
def insert (name : String) : List String → List String
  | [] => [name]
  | other :: rest =>
    if name < other then name :: other :: rest
    else if name = other then other :: rest
    else other :: insert name rest

/-- The set of the classes of a list. -/
def ofList (names : List String) : List String :=
  names.foldl (fun classes name => insert name classes) []

/-- The class that an amendment takes away. -/
def removed? (amendment : String) : Option String :=
  match amendment.toList with
  | '!' :: name => some (String.ofList name)
  | _ => none

/-- Applies an amendment. -/
def amend (classes : List String) (amendment : String) : List String :=
  match removed? amendment with
  | some name => classes.filter (· != name)
  | none => insert amendment classes

/-- Applies amendments to the set of the classes of a list. -/
def merge (base amendments : List String) : List String :=
  amendments.foldl amend (ofList base)

theorem mem_insert {x name : String} {classes : List String} :
    x ∈ insert name classes ↔ x = name ∨ x ∈ classes := by
  induction classes with
  | nil => simp [insert]
  | cons other rest ih =>
    simp only [insert]
    split
    · simp
    · split
      · next h => subst h; simp
      · simp only [List.mem_cons, ih]
        exact or_left_comm

theorem mem_amend {x amendment : String} {classes : List String} :
    x ∈ amend classes amendment ↔
      match removed? amendment with
      | some name => x ∈ classes ∧ x ≠ name
      | none => x = amendment ∨ x ∈ classes := by
  simp only [amend]
  split <;> simp [mem_insert]

end PageRecipe.Classes
