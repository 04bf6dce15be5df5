import PageRecipe.Settings.Environment

/-!
# Styles

Parts of the output may be coloured, if the environment asks for it or the output goes to a
terminal (`Environment.wantsColour`). Where painted text ends a style itself, the style around
it starts again.
-/

namespace PageRecipe

/-- A style, by the numbers that switch it on. -/
structure Style where
  numbers : String
  deriving DecidableEq, Repr

namespace Style

/-- The style of marks of violations. -/
def red : Style := ⟨"31"⟩

/-- The style of marks of success and of labels. -/
def green : Style := ⟨"32"⟩

/-- The style of what is less than a violation. -/
def yellow : Style := ⟨"33"⟩

/-- The style of what stands back. -/
def dimmed : Style := ⟨"2"⟩

/-- The style of errors. -/
def boldRed : Style := ⟨"1;31"⟩

/-- The style of headings. -/
def boldCyan : Style := ⟨"1;36"⟩

/-- What switches a style on. -/
def start (style : Style) : List Char := '\x1b' :: '[' :: style.numbers.toList ++ ['m']

/-- What switches all styles off. -/
def reset : List Char := ['\x1b', '[', '0', 'm']

/-- The text in which the style starts again where another one ends. -/
def resume (style : Style) : List Char → List Char
  | '\x1b' :: '[' :: '0' :: 'm' :: rest => reset ++ style.start ++ resume style rest
  | c :: rest => c :: resume style rest
  | [] => []

/-- The text in a style. -/
def paint (style : Style) (text : String) : String :=
  String.ofList (style.start ++ style.resume text.toList ++ reset)

end Style

/-- Output is coloured : if the variable that forces colours is not `0`, else not if the one
that forbids them is there, else on a terminal. -/
def Environment.wantsColour (environment : Environment) (isTerminal : Bool) : Bool :=
  let isOn (name : String) : Option Bool := (environment.get? name).map (· != "0")
  if isOn "CLICOLOR_FORCE" == some true then true
  else if (environment.get? "NO_COLOR").isSome then false
  else (isOn "CLICOLOR").getD true && isTerminal

end PageRecipe
