import PageRecipe.Prose.Node
import PageRecipe.Text.WordChar

/-!
# Macros and callouts

Some nodes mean more than their markup says. A text that holds exactly `{{Name}}` or
`{{Name(arguments)}}` invokes a macro (`macroName?`), and an element is a callout when it
carries one of the configured classes or is a paragraph that opens with a bold `Note:` or
`Warning:` (`Classifier.isAdmonition`).
-/

namespace PageRecipe

namespace Macro

/-- A letter that a macro name may start with. -/
def isNameStart (c : Char) : Bool := c.isAlpha || c == '_'

/-- A character that a macro name may go on with. -/
def isNameRest (c : Char) : Bool := Text.isWordChar c || c == '-'

/-- Blanks followed by two closing braces, and nothing else. -/
def isClosing (s : List Char) : Bool := Text.trimStart s == ['\x7d', '\x7d']

/-- Arguments in round brackets followed by the closing. The last closing bracket of the
text ends them, so they may hold brackets themselves. -/
def isArguments : List Char → Bool
  | '(' :: rest =>
    match rest.reverse with
    | '\x7d' :: '\x7d' :: before =>
      match before.dropWhile Text.isBlank with
      | ')' :: _ => true
      | _ => false
    | _ => false
  | _ => false

/-- What may stand after a macro name : blanks, optional arguments, and the closing. -/
def isTail (s : List Char) : Bool := isClosing s || isArguments (Text.trimStart s)

/-- The name that the text between the blanks invokes. -/
def name? : List Char → Option (List Char)
  | '\x7b' :: '\x7b' :: inner =>
    match Text.trimStart inner with
    | c :: rest =>
      if isNameStart c && isTail (rest.dropWhile isNameRest) then
        some (c :: rest.takeWhile isNameRest)
      else none
    | [] => none
  | _ => none

end Macro

/-- The macro that a node invokes. -/
def Node.macroName? : Node → Option String
  | .element .. => none
  | .text value => (Macro.name? (Text.trim value.toList)).map String.ofList

/-- The texts are equal up to the case of ASCII letters. -/
def equalIgnoringCase (a b : String) : Bool :=
  a.toList.map Char.toLower == b.toList.map Char.toLower

/-- The node invokes the macro with this name. -/
def Node.isMacro (node : Node) (name : String) : Bool :=
  match node.macroName? with
  | some found => equalIgnoringCase found name
  | none => false

/-- How callouts are recognised : by their classes. -/
structure Classifier where
  admonitionClasses : List String
  deriving DecidableEq, Repr

namespace Classifier

/-- The classes that mark a callout unless configured otherwise. -/
def defaultClasses : List String := ["note", "warning", "notecard"]

/-- The labels that open a callout written inline. -/
def labels : List String := ["Note:", "Warning:"]

/-- The node is a bold text that opens with a callout label. -/
def isLabel (node : Node) : Bool :=
  node.isTag "strong" &&
    labels.any fun label => label.toList.isPrefixOf (Text.trimStart node.textContent.toList)

/-- The node is a callout. -/
def isAdmonition (classifier : Classifier) (node : Node) : Bool :=
  node.isElement &&
    (classifier.admonitionClasses.any node.hasClass ||
      node.isTag "p" && node.children.head?.any isLabel)

end Classifier

end PageRecipe
