import PageRecipe.Check.Constructor
import PageRecipe.Check.InteractiveExample
import PageRecipe.Dictionary

/-!
# The handler registry

Handlers are registered under the names of prose ingredients. A name is looked up bare
(`constructor`) or with the qualifier `data.` in front of it.
-/

namespace PageRecipe

/-- Handlers by name, in ascending order of names. -/
structure Registry where
  entries : Dictionary Handler

namespace Registry

/-- The registry without handlers. -/
def empty : Registry := ⟨[]⟩

/-- Registers a handler under a name. -/
def register (registry : Registry) (name : String) (handler : Handler) : Registry :=
  ⟨Dictionary.insert name handler registry.entries⟩

/-- What a name may be qualified with. -/
def qualifier : String := "data."

/-- The name without its qualifier. -/
def bareName (name : String) : String :=
  if qualifier.toList.isPrefixOf name.toList then
    String.ofList (name.toList.drop qualifier.length)
  else name

/-- The handler under a bare or qualified name. -/
def resolve? (registry : Registry) (name : String) : Option Handler :=
  registry.entries.get? (bareName name)

/-- The registered names, in ascending order. -/
def names (registry : Registry) : List String := registry.entries.labels

/-- The handlers of the library. -/
def builtinHandlers : List (String × Handler) :=
  [("constructor", Constructor.check), ("interactive_example", InteractiveExample.check)]

/-- The registry with the handlers of the library. -/
def builtin : Registry :=
  builtinHandlers.foldl (fun registry entry => registry.register entry.1 entry.2) empty

end Registry

end PageRecipe
