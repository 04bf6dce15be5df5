import PageRecipe.Numeric.Literal
import PageRecipe.Settings.Basic

/-!
# Settings in the environment

A variable whose name is the key of a setting behind `RECIPE_LINT__`, in any case, overrides
the setting. Values that look like truth values or numbers are brought into a standard form
(`VariableValue.ofText`), and the classes of admonitions are separated by commas.
-/

namespace PageRecipe

/-- The value of a variable, by what it looks like. -/
inductive VariableValue where
  | boolean (value : Bool)
  | integer (value : Int)
  | float (value : Binary64)
  | text (text : String)

namespace VariableValue

/-- A text in lower case, where only the letters of ASCII count. -/
def lower (text : String) : String := String.ofList (text.toList.map Char.toLower)

/-- The integer that a text spells, if 64 bits hold it. -/
def int64? (s : List Char) : Option Int :=
  (intOfText? s).filter (isSigned 64)

/-- What a text looks like : a truth value in any case, else an integer, else a number, else
nothing but a text. -/
def ofText (value : String) : VariableValue :=
  if lower value = "true" then boolean true
  else if lower value = "false" then boolean false
  else
    match int64? value.toList, Binary64.ofText? value.toList with
    | some n, _ => integer n
    | none, some x => float x
    | none, none => text value

/-- The standard form of a value. -/
def display : VariableValue → String
  | boolean b => if b then "true" else "false"
  | integer n => toString n
  | float x => x.toPositional
  | text s => s

end VariableValue

/-- The pieces of a text between commas. -/
def splitCommas : List Char → List (List Char)
  | [] => [[]]
  | c :: rest =>
    if c = ',' then [] :: splitCommas rest
    else
      match splitCommas rest with
      | [] => [[c]]
      | piece :: others => (c :: piece) :: others

theorem splitCommas_ne_nil (s : List Char) : splitCommas s ≠ [] := by
  cases s with
  | nil => simp [splitCommas]
  | cons c rest =>
    simp only [splitCommas]
    split
    · simp
    · split <;> simp

namespace Layer

/-- What the names of variables start with that override settings, in lower case. -/
def variableStart : String := "recipe_lint__"

/-- The key that the name of a variable stands for. -/
def keyOfVariable? (name : String) : Option String :=
  let lowered := VariableValue.lower name
  if variableStart.toList.isPrefixOf lowered.toList then
    some (String.ofList (lowered.toList.drop variableStart.length))
  else none

/-- The classes that a value lists. A truth value or a number is no list. -/
def classesOfValue? : VariableValue → Option (List String)
  | .text text => some ((splitCommas text.toList).map String.ofList)
  | _ => none

/-- The layer with what a variable says. -/
def addVariable (layer : Layer) (name value : String) : Layer :=
  match keyOfVariable? name with
  | none => layer
  | some key =>
    match TextSetting.ofKey? key with
    | some setting => layer.putText setting (some (VariableValue.ofText value).display)
    | none =>
      if key = classesKey then layer.putClasses (classesOfValue? (.ofText value)) else layer

/-- The layer of the environment. Of two variables for the same setting the later one counts. -/
def ofEnvironment (environment : Environment) : Layer :=
  environment.entries.foldl (fun layer entry => layer.addVariable entry.1 entry.2) empty

end Layer

end PageRecipe
