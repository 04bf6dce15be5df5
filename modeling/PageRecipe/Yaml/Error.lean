import PageRecipe.Yaml.Fault
import PageRecipe.Yaml.Scalar

/-!
# Why a YAML document is refused

A document may be refused because its text cannot be read, because it exceeds a limit, or
because a node is not what is wanted in its place. `Error.message` words it, with the path to
the node and its place in the text.
-/

namespace PageRecipe.Yaml

/-- A step on the way from the root to a node. -/
inductive Step where
  | key (name : String)
  | item (index : Nat)
  /-- The value under a key that is no scalar. -/
  | unknown
  deriving DecidableEq, Repr

/-- The way to a node, the last step first. -/
abbrev Path := List Step

mutual

/-- A path in words. -/
def Path.display : Path → String
  | [] => "."
  | .key name :: path => Path.stem path ++ name
  | .item index :: path => Path.display path ++ "[" ++ toString index ++ "]"
  | .unknown :: path => Path.stem path ++ "?"

/-- What stands in front of a key below a path. -/
def Path.stem : Path → String
  | [] => ""
  | step :: path => Path.display (step :: path) ++ "."

end

/-- What stands in a place. -/
inductive Found where
  | scalar (value : Scalar)
  | sequence
  | mapping
  deriving Repr

/-- What was found, in words. -/
def Found.text : Found → String
  | .scalar .null => "unit value"
  | .scalar (.bool b) => "boolean \x60" ++ Value.boolText b ++ "\x60"
  | .scalar (.int n) => "integer \x60" ++ toString n ++ "\x60"
  | .scalar (.wide n) =>
    "integer \x60" ++ toString n ++ "\x60 as " ++ (if n < 0 then "i128" else "u128")
  | .scalar (.float x) =>
    let text := x.toPositional
    let point := if x.isSpecial || text.toList.contains '.' then "" else ".0"
    "floating point \x60" ++ text ++ point ++ "\x60"
  | .scalar (.string s) => "string " ++ Text.quoted s
  | .sequence => "sequence"
  | .mapping => "map"

/-- What is wrong with a node. -/
inductive Complaint where
  /-- Something else is wanted here. -/
  | unexpected (found : Found) (wanted : String)
  /-- The text is not spelled like what its tag says. -/
  | misspelled (text wanted : String)
  | missingField (name : String)
  | repeatedField (name : String)
  | repeatedKey (key : Value)
  /-- A value with a tag of its own where none is allowed. -/
  | taggedEntry
  /-- A value that is no ingredient in any way. -/
  | notAnIngredient
  | emptyTag
  deriving Repr

/-- A key that occurs again, in words. -/
def repeatedKeyText : Value → String
  | .null => "with null key"
  | .bool b => "with key \x60" ++ Value.boolText b ++ "\x60"
  | .int n => "with key " ++ toString n
  | .float x => "with key " ++ floatText x
  | .string s => "with key " ++ Text.quoted s
  | _ => "in YAML map"

/-- A complaint in words. -/
def Complaint.text : Complaint → String
  | unexpected found wanted => "invalid type: " ++ found.text ++ ", expected " ++ wanted
  | misspelled text wanted =>
    "invalid value: string " ++ Text.quoted text ++ ", expected " ++ wanted
  | missingField name => "missing field \x60" ++ name ++ "\x60"
  | repeatedField name => "duplicate field \x60" ++ name ++ "\x60"
  | repeatedKey key => "duplicate entry " ++ repeatedKeyText key
  | taggedEntry => "untagged and internally tagged enums do not support enum input"
  | notAnIngredient => "data did not match any variant of untagged enum Ingredient"
  | emptyTag => "empty YAML tag is not allowed"

/-- Why a document is refused. -/
inductive Error where
  | unreadable (fault : Fault)
  /-- The text holds a control character, behind so many bytes. -/
  | controlCharacter (offset : Nat)
  | unknownAnchor (mark : Mark)
  /-- Collections are nested too deeply. -/
  | tooDeep (mark : Mark)
  /-- Aliases are followed too often. -/
  | tooManyAliases
  | manyDocuments
  | complaint (complaint : Complaint) (path : Path) (mark : Mark)
  deriving Repr, Inhabited

/-- An error in words. -/
def Error.message : Error → String
  | unreadable fault => fault.message
  | controlCharacter offset =>
    "control characters are not allowed" ++
      (if offset = 0 then "" else " at position " ++ toString offset)
  | unknownAnchor mark => "unknown anchor" ++ Fault.atPlace mark
  | tooDeep mark => "recursion limit exceeded" ++ Fault.atPlace mark
  | tooManyAliases => "repetition limit exceeded"
  | manyDocuments =>
    "deserializing from YAML containing more than one document is not supported"
  | complaint c path mark =>
    let place := path.display
    (if place = "." then "" else place ++ ": ") ++ c.text ++ Fault.atPlace mark

end PageRecipe.Yaml
