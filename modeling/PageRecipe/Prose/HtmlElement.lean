import PageRecipe.Prose.Node

/-!
# Raw HTML as an element

A raw HTML block that is one element, `<tag id="..." class="...">text</tag>` with no markup
in its text, becomes that element. `HtmlElement.nodeOf` keeps every other block as it is
written, with its ends trimmed.
-/

namespace PageRecipe.HtmlElement

/-- A block cut into the tag, its attributes, the text, and the closing tag. -/
structure Parts where
  tag : List Char
  attributes : List Char
  inner : List Char
  closing : List Char
  deriving DecidableEq, Repr

/-- A tag name : a letter of ASCII followed by letters and digits. -/
def isTagName : List Char → Bool
  | c :: rest => c.isAlpha && rest.all Char.isAlphanum
  | [] => false

/-- Splits the closing tag off the end of a text : what is in front of it, and its name. -/
def splitClosing? (s : List Char) : Option (List Char × List Char) :=
  match s.reverse with
  | '>' :: before =>
    let before := before.dropWhile Text.isBlank
    let name := (before.takeWhile Char.isAlphanum).reverse
    match before.drop name.length with
    | '/' :: '<' :: inner => if isTagName name then some (inner.reverse, name) else none
    | _ => none
  | _ => none

/-- Cuts a block into its parts. The first `>` ends the opening tag. -/
def parts? (s : List Char) : Option Parts :=
  match s with
  | '<' :: rest =>
    let tag := rest.takeWhile Char.isAlphanum
    let behind := rest.drop tag.length
    let attributes := behind.takeWhile (· != '>')
    match behind.drop attributes.length with
    | '>' :: body =>
      if isTagName tag then
        (splitClosing? body).map fun (inner, closing) => ⟨tag, attributes, inner, closing⟩
      else none
    | _ => none
  | _ => none

/-- The attributes that matter. -/
inductive Attribute where
  | id (value : List Char)
  | class (value : List Char)
  deriving DecidableEq, Repr

/-- Reads the value of an attribute behind its name : an equals sign and a text in double
quotes, with blanks around the sign. Returns the value and the rest. -/
def attributeValue? (s : List Char) : Option (List Char × List Char) :=
  match Text.trimStart s with
  | '=' :: rest =>
    match Text.trimStart rest with
    | '"' :: rest =>
      let value := rest.takeWhile (· != '"')
      match rest.drop value.length with
      | '"' :: rest => some (value, rest)
      | _ => none
    | _ => none
  | _ => none

/-- Reads an attribute that matters at the start of the text. -/
def attribute? : List Char → Option (Attribute × List Char)
  | 'i' :: 'd' :: rest => (attributeValue? rest).map fun (value, rest) => (.id value, rest)
  | 'c' :: 'l' :: 'a' :: 's' :: 's' :: rest =>
    (attributeValue? rest).map fun (value, rest) => (.class value, rest)
  | _ => none

/-- The attributes that matter, from the left, each at the start of the text or behind a
blank. -/
def attributesFrom (isStart : Bool) : Nat → List Char → List Attribute
  | 0, _ => []
  | fuel + 1, s =>
    let atStart := if isStart then attribute? s else none
    let behindBlank := match s with
      | c :: rest => if Text.isBlank c then attribute? rest else none
      | [] => none
    match atStart.or behindBlank with
    | some (found, rest) => found :: attributesFrom false fuel rest
    | none =>
      match s with
      | _ :: rest => attributesFrom false fuel rest
      | [] => []

/-- The attributes that matter in the attributes of a tag. -/
def attributes (s : List Char) : List Attribute := attributesFrom true (s.length + 1) s

/-- Sets an attribute on a node : the last id counts, and classes add up. -/
def setAttribute (node : Node) : Attribute → Node
  | .id value => node.withId (String.ofList value)
  | .class value => (Text.words value).foldl (fun n cls => n.withClass (String.ofList cls)) node

/-- Texts that are equal up to the case of ASCII letters. -/
def equalIgnoringCase (a b : List Char) : Bool := a.map Char.toLower == b.map Char.toLower

/-- The element that a block spells, if it is one element with plain text. -/
def element? (s : List Char) : Option Node :=
  match parts? s with
  | none => none
  | some parts =>
    let inner := Text.trim parts.inner
    if !equalIgnoringCase parts.tag parts.closing || inner.contains '<' then none
    else
      let bare := Node.bare (String.ofList (parts.tag.map Char.toLower))
      let node := (attributes parts.attributes).foldl setAttribute bare
      some (if inner.isEmpty then node else node.withChildren [.text (String.ofList inner)])

/-- The node of a raw HTML block. -/
def nodeOf (html : String) : Node :=
  let trimmed := Text.trim html.toList
  (element? trimmed).getD (.text (String.ofList trimmed))

end PageRecipe.HtmlElement
