import PageRecipe.Files.Path
import PageRecipe.Text.Alphanumeric

/-!
# The environment

Named values that a program is started with. Texts may refer to them : `expand` puts the values
of `$NAME` and of a name in braces and the home directory of `~` in their places. If a variable is
not set and has no fallback, the text stays as it is.
-/

namespace PageRecipe

/-- The variables of a process. -/
structure Environment where
  entries : List (String × String)
  deriving Repr

namespace Environment

/-- The value of a variable. -/
def get? (environment : Environment) (name : String) : Option String :=
  environment.entries.lookup name

/-- The home directory. -/
def home? (environment : Environment) : Option String :=
  (environment.get? "HOME").filter fun home => !home.isEmpty

/-! ## Variables in texts -/

/-- A character of the name of a variable. -/
def isNameChar (c : Char) : Bool := Text.isAlphanumeric c || c == '_'

/-- A name and the fallback behind `:-`, if there is one. -/
def splitFallback : List Char → List Char × Option (List Char)
  | ':' :: '-' :: fallback => ([], some fallback)
  | c :: rest =>
    let (name, fallback) := splitFallback rest
    (c :: name, fallback)
  | [] => ([], none)

/-- The name and the fallback between braces. Without a name in front of it there is no
fallback. -/
def bracedName (inner : List Char) : List Char × Option (List Char) :=
  let (name, fallback) := splitFallback inner
  if name.isEmpty then (inner, none) else (name, fallback)

/-- What a dollar sign stands for, and the text behind what it refers to. -/
def expandDollar (environment : Environment) (s : List Char) :
    Option (List Char × List Char) :=
  let value? (name : List Char) : Option (List Char) :=
    (environment.get? (String.ofList name)).map String.toList
  match s with
  | '{' :: inside =>
    if inside.contains '\x7d' then
      let behind := (inside.dropWhile (· != '\x7d')).tail
      let (name, fallback) := bracedName (inside.takeWhile (· != '\x7d'))
      ((value? name).or fallback).map fun value => (value, behind)
    else some (['$', '{'], inside)
  | '$' :: rest => some (['$'], rest)
  | c :: rest =>
    if isNameChar c then
      (value? (c :: rest.takeWhile isNameChar)).map fun value =>
        (value, rest.dropWhile isNameChar)
    else some (['$'], c :: rest)
  | [] => some (['$'], [])

/-- The text with the values of its variables, at most `fuel` characters of it. -/
def expandVariables (environment : Environment) : Nat → List Char → Option (List Char)
  | 0, s => some s
  | _ + 1, [] => some []
  | fuel + 1, '$' :: rest =>
    match expandDollar environment rest with
    | none => none
    | some (value, rest) => (expandVariables environment fuel rest).map (value ++ ·)
  | fuel + 1, c :: rest => (expandVariables environment fuel rest).map (c :: ·)

/-- The text with the home directory in the place of a tilde that stands for it. -/
def expandTilde (environment : Environment) (s : List Char) : List Char :=
  match s, environment.home? with
  | '~' :: rest, some home =>
    if rest.isEmpty || rest.head? == some '/' then home.toList ++ rest else s
  | _, _ => s

/-- The text with its variables and its tilde expanded. A tilde that comes out of a variable
is not expanded. -/
def expand (environment : Environment) (text : String) : String :=
  let s := text.toList
  match expandVariables environment (s.length + 1) s with
  | none => text
  | some expanded =>
    if s.head? != some '~' && expanded.head? == some '~' then
      String.ofList expanded
    else String.ofList (expandTilde environment expanded)

/-! ## Places -/

/-- The directory that holds the settings of the user's programs. -/
def configHome? (environment : Environment) : Option FilePath :=
  environment.home?.map fun home =>
    match environment.get? "XDG_CONFIG_HOME" with
    | some directory =>
      if FilePath.isAbsolute ⟨directory⟩ then ⟨directory⟩ else FilePath.join ⟨home⟩ ⟨".config"⟩
    | none => FilePath.join ⟨home⟩ ⟨".config"⟩

end Environment

end PageRecipe
