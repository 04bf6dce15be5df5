import PageRecipe.Files.Path

/-!
# Command lines

A command line is a list of words : options, names of commands and operands. Options are a
dash with letters, or two dashes with a name, and some take a value. Two dashes alone end the
options. `Invocation.ofWords` reads a command line, and its failures are the ways in which one
can be wrong, or can ask for help instead of work.
-/

namespace PageRecipe

/-- How findings are shown. -/
inductive OutputFormat where
  | text
  | json
  deriving DecidableEq, Repr

/-- A command interpreter for which words can be completed. -/
inductive Shell where
  | bash
  | elvish
  | fish
  | powershell
  | zsh
  deriving DecidableEq, Repr

/-- The work that a command line asks for. -/
inductive Command where
  | check (paths : List FilePath) (format : OutputFormat)
  | recipe (name : String)
  | inspect (path : FilePath)
  | showSettings
  | locateSettings
  | complete (shell : Shell)
  deriving DecidableEq, Repr

/-- What a command line says. -/
structure Invocation where
  verbosity : Nat
  projectDirectory : Option FilePath
  command : Command
  deriving DecidableEq, Repr

/-- Why a command line asks for no work. -/
inductive UsageError where
  /-- Help was asked for. -/
  | help
  /-- The version was asked for. -/
  | version
  /-- Nothing was asked for, so that help is shown. -/
  | nothingGiven
  | unknownArgument
  | unknownCommand
  | invalidValue
  | missingArgument
  | missingCommand
  /-- An option was given twice. -/
  | repeatedOption
  /-- A value was given to an option that takes none. -/
  | needlessValue
  deriving DecidableEq, Repr

/-! ## Commands and their words -/

/-- A place in the tree of commands. -/
inductive CommandLevel where
  | program
  | check
  | recipe
  | inspect
  | settings
  | showSettings
  | locateSettings
  | complete
  deriving DecidableEq, Repr

/-- How many operands a command takes. -/
inductive Arity where
  | none
  | one
  | many
  deriving DecidableEq, Repr

/-- An option. -/
inductive CommandOption where
  | verbose
  | projectDirectory
  | format
  | help
  | version
  deriving DecidableEq, Repr

/-- What a value is for. -/
inductive Slot where
  | projectDirectory
  | format
  | operand
  deriving DecidableEq, Repr

/-- The names of the formats. -/
def OutputFormat.ofName? : String → Option OutputFormat
  | "text" => some .text
  | "json" => some .json
  | _ => none

/-- The names of the command interpreters. -/
def Shell.ofName? : String → Option Shell
  | "bash" => some .bash
  | "elvish" => some .elvish
  | "fish" => some .fish
  | "powershell" => some .powershell
  | "zsh" => some .zsh
  | _ => none

namespace CommandLevel

/-- The command of a name below a place. -/
def below? : CommandLevel → String → Option CommandLevel
  | program, "check" => some check
  | program, "recipe" => some recipe
  | program, "inspect" => some inspect
  | program, "config" => some settings
  | program, "completion" => some complete
  | settings, "show" => some showSettings
  | settings, "path" => some locateSettings
  | _, _ => none

/-- There are commands below the place. -/
def isParent : CommandLevel → Bool
  | program | settings => true
  | _ => false

/-- How many operands a command takes. -/
def arity : CommandLevel → Arity
  | check => .many
  | recipe | inspect | complete => .one
  | program | settings | showSettings | locateSettings => .none

/-- A command can have an operand. An empty path is none. -/
def accepts : CommandLevel → String → Bool
  | check, word | inspect, word => !word.isEmpty
  | complete, word => (Shell.ofName? word).isSome
  | _, _ => true

/-- The option of a letter. -/
def optionOfLetter? : CommandLevel → Char → Option CommandOption
  | _, 'v' => some .verbose
  | _, 'C' => some .projectDirectory
  | _, 'h' => some .help
  | _, 'V' => some .version
  | check, 'f' => some .format
  | _, _ => none

/-- The option of a name. -/
def optionOfName? : CommandLevel → String → Option CommandOption
  | _, "verbose" => some .verbose
  | _, "project-dir" => some .projectDirectory
  | _, "help" => some .help
  | _, "version" => some .version
  | check, "format" => some .format
  | _, _ => none

end CommandLevel

/-- What the value of an option is for, if it takes one. -/
def CommandOption.slot? : CommandOption → Option Slot
  | projectDirectory => some .projectDirectory
  | format => some .format
  | verbose | help | version => none

/-! ## What is given at one place -/

/-- What the words for one place in the tree have said so far. -/
structure Given where
  verbosity : Nat
  projectDirectory : Option String
  format : Option OutputFormat
  operands : List String
  /-- Values that were read and not looked at yet. -/
  pending : Option (Slot × List String)
  /-- The last word was an option whose value comes next. -/
  awaitsValue : Bool
  /-- Two dashes have ended the options. -/
  onlyOperands : Bool
  deriving DecidableEq, Repr

namespace Given

/-- Nothing is given. -/
def nothing : Given :=
  { verbosity := 0, projectDirectory := none, format := none, operands := [], pending := none
    awaitsValue := false, onlyOperands := false }

/-- How often the option for verbosity counts at most. -/
def maxVerbosity : Nat := 255

/-- Looks at values. -/
def take (level : CommandLevel) (given : Given) (slot : Slot) (values : List String) :
    Except UsageError Given :=
  match slot, values with
  | .operand, words =>
    if words.all level.accepts then .ok { given with operands := given.operands ++ words }
    else .error .invalidValue
  | .projectDirectory, [word] =>
    if given.projectDirectory.isSome then .error .repeatedOption
    else if word.isEmpty then .error .invalidValue
    else .ok { given with projectDirectory := some word }
  | .format, [word] =>
    if given.format.isSome then .error .repeatedOption
    else
      match OutputFormat.ofName? word with
      | some format => .ok { given with format := some format }
      | none => .error .invalidValue
  | _, _ => .error .invalidValue

/-- Looks at the values that are pending. -/
def settle (level : CommandLevel) (given : Given) : Except UsageError Given :=
  match given.pending with
  | none => .ok given
  | some (slot, values) => Given.take level { given with pending := none } slot values

/-- An option that takes no value. -/
def addSwitch (level : CommandLevel) (given : Given) (option : CommandOption) :
    Except UsageError Given := do
  let given ← given.settle level
  match option with
  | .help => throw .help
  | .version => throw .version
  | _ =>
    let verbosity := min (given.verbosity + 1) maxVerbosity
    return { given with verbosity := verbosity, awaitsValue := false }

/-- An option that takes a value, which may be part of the same word. -/
def addOption (level : CommandLevel) (given : Given) (slot : Slot) (attached : Option String) :
    Except UsageError Given := do
  let given ← given.settle level
  match attached with
  | some value => Given.take level { given with awaitsValue := false } slot [value]
  | none => return { given with pending := some (slot, []), awaitsValue := true }

/-- A word of two dashes and a name, which may have a value behind an equals sign. -/
def addNamed (level : CommandLevel) (given : Given) (word : List Char) :
    Except UsageError Given :=
  let name := String.ofList (word.takeWhile (· != '='))
  let attached :=
    if word.contains '=' then some (String.ofList (word.dropWhile (· != '=')).tail) else none
  match level.optionOfName? name with
  | none => .error .unknownArgument
  | some option =>
    match option.slot?, attached with
    | some slot, attached => given.addOption level slot attached
    | none, some _ => .error .needlessValue
    | none, none => given.addSwitch level option

/-- A word of one dash and letters. What follows a letter whose option takes a value is that
value, with or without an equals sign in front of it. -/
def addLetters (level : CommandLevel) (given : Given) : List Char → Except UsageError Given
  | [] => .ok given
  | letter :: rest =>
    match level.optionOfLetter? letter with
    | none => .error .unknownArgument
    | some option =>
      match option.slot? with
      | none => (given.addSwitch level option).bind fun given => given.addLetters level rest
      | some slot =>
        match rest with
        | [] => given.addOption level slot none
        | '=' :: value => given.addOption level slot (some (String.ofList value))
        | value => given.addOption level slot (some (String.ofList value))

/-- The value of the option in front of it. -/
def addValue (given : Given) (word : String) : Given :=
  match given.pending with
  | some (slot, values) =>
    { given with pending := some (slot, values ++ [word]), awaitsValue := false }
  | none => given

/-- How many operands there are. -/
def operandCount (given : Given) : Nat :=
  match given.pending with
  | some (.operand, values) => given.operands.length + values.length
  | _ => given.operands.length

/-- The failure of a word that is no operand where it stands. -/
def strayWord (level : CommandLevel) (given : Given) (word : String) : UsageError :=
  if given.onlyOperands && ((level.below? word).isSome || word = "help" && level.isParent) then
    .unknownArgument
  else if level.isParent then .unknownCommand
  else .unknownArgument

/-- An operand. -/
def addOperand (level : CommandLevel) (given : Given) (word : String) :
    Except UsageError Given :=
  let fresh : Except UsageError Given := do
    let given ← given.settle level
    return { given with pending := some (.operand, [word]), awaitsValue := false }
  match level.arity with
  | .none => .error (given.strayWord level word)
  | .one => if given.operandCount = 0 then fresh else .error (given.strayWord level word)
  | .many =>
    match given.pending with
    | some (.operand, values) =>
      .ok { given with pending := some (.operand, values ++ [word]), awaitsValue := false }
    | _ => fresh

/-- A word that is no command. -/
def addWord (level : CommandLevel) (given : Given) (word : String) : Except UsageError Given :=
  if given.onlyOperands then given.addOperand level word
  else
    match word.toList with
    | ['-', '-'] => .ok { given with onlyOperands := true }
    | '-' :: '-' :: name => given.addNamed level name
    | '-' :: letter :: letters => given.addLetters level (letter :: letters)
    | _ => if given.awaitsValue then .ok (given.addValue word) else given.addOperand level word

/-- Something was said at all. -/
def saysSomething (given : Given) : Bool :=
  given.verbosity != 0 || given.projectDirectory.isSome

/-- What the options say, with the command that they are given to. What was said further inside
counts. -/
def invoke (given : Given) (command : Command) : Invocation :=
  { verbosity := given.verbosity
    projectDirectory := given.projectDirectory.map (⟨·⟩)
    command := command }

/-- What is asked for when no more words follow. -/
def finish (level : CommandLevel) (given : Given) : Except UsageError Invocation := do
  let given ← given.settle level
  match level, given.operands with
  | .program, _ | .settings, _ =>
    throw (if given.saysSomething then .missingCommand else .nothingGiven)
  | .check, words => return given.invoke (.check (words.map (⟨·⟩)) (given.format.getD .text))
  | .recipe, word :: _ => return given.invoke (.recipe word)
  | .inspect, word :: _ => return given.invoke (.inspect ⟨word⟩)
  | .complete, word :: _ =>
    match Shell.ofName? word with
    | some shell => return given.invoke (.complete shell)
    | none => throw .invalidValue
  | .showSettings, _ => return given.invoke .showSettings
  | .locateSettings, _ => return given.invoke .locateSettings
  | _, [] => throw .missingArgument

/-- The options of a place, where those that were given further inside count. -/
def around (given : Given) (inner : Invocation) : Invocation :=
  { inner with
    verbosity := if inner.verbosity = 0 then given.verbosity else inner.verbosity
    projectDirectory := inner.projectDirectory.or (given.projectDirectory.map (⟨·⟩)) }

end Given

/-! ## Whole command lines -/

namespace CommandLevel

/-- What a request for help with a command of some names ends with. Help can be asked for about
the command for help as well. -/
def helpAbout : CommandLevel → List String → UsageError
  | _, [] => .help
  | level, word :: rest =>
    match level.below? word with
    | some inner => inner.helpAbout rest
    | none => if word = "help" && level.isParent && rest.isEmpty then .help else .unknownCommand

/-- Reads the words for a place, from what was given there so far. -/
def read (level : CommandLevel) (given : Given) : List String → Except UsageError Invocation
  | [] => given.finish level
  | word :: rest =>
    if given.onlyOperands || given.awaitsValue then
      (given.addWord level word).bind fun given => level.read given rest
    else if level.isParent && word = "help" then .error (level.helpAbout rest)
    else
      match level.below? word with
      | some inner => do
        let invocation ← inner.read .nothing rest
        return (← given.settle level).around invocation
      | none => (given.addWord level word).bind fun given => level.read given rest

end CommandLevel

/-- What the words of a command line say. -/
def Invocation.ofWords (words : List String) : Except UsageError Invocation :=
  CommandLevel.program.read .nothing words

end PageRecipe
