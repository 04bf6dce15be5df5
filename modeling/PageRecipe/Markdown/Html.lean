import PageRecipe.Markdown.Scan

/-!
# Raw HTML

What counts as raw HTML in Markdown : a single tag, comment, instruction, declaration or
character data section within a line of text (`inlineHtml?`), and the starts of whole blocks
(`blockStart?`) with the condition that ends them.
-/

namespace PageRecipe.Markdown

/-! ## Tags -/

/-- Skips blanks and line ends ; without `newlines`, `none` at a line end. -/
def tagSpace? (newlines : Bool) (s : List Char) : Option (List Char) :=
  if newlines then
    let rest := s.dropWhile isAsciiBlank
    if rest.isEmpty then none else some rest
  else
    let rest := skipBlanks s
    if (lineEnd? rest).isSome then none else some rest

/-- The rest of the text after a quoted attribute value, behind the opening quote. -/
def quotedValue? (newlines : Bool) (quote : Char) : List Char → Option (List Char)
  | [] => none
  | c :: rest =>
    if c == quote then some rest
    else if !newlines && isLineEnd c then none
    else quotedValue? newlines quote rest

/-- A character of an attribute value without quotes. -/
def isBareValueChar (c : Char) : Bool := !(c.toNat ≤ 0x20 || "\"'=<>\x60".toList.contains c)

/-- The rest of the text after an attribute value. -/
def attributeValue? (newlines : Bool) : List Char → Option (List Char)
  | '"' :: rest => quotedValue? newlines '"' rest
  | '\'' :: rest => quotedValue? newlines '\'' rest
  | s => if (s.takeWhile isBareValueChar).isEmpty then none else some (s.dropWhile isBareValueChar)

/-- A character that an attribute name starts with. -/
def isAttributeStart (c : Char) : Bool := c.isAlpha || c == '_' || c == ':'

/-- A character that an attribute name goes on with. -/
def isAttributeRest (c : Char) : Bool :=
  c.isAlphanum || c == '_' || c == ':' || c == '.' || c == '-'

/-- The rest of the text after an attribute with its value, if it has one. -/
def attribute? (newlines : Bool) : List Char → Option (List Char)
  | [] => none
  | c :: rest =>
    if !isAttributeStart c then none
    else
      let afterName := rest.dropWhile isAttributeRest
      match tagSpace? newlines afterName with
      | none => none
      | some ('=' :: rest) => (tagSpace? newlines rest).bind (attributeValue? newlines)
      | some _ => some afterName

/-- The rest of the text after attributes and the end of an opening tag. -/
def openingTagEnd? (newlines : Bool) : Nat → List Char → Option (List Char)
  | 0, _ => none
  | fuel + 1, s =>
    match tagSpace? newlines s with
    | none => none
    | some ('/' :: '>' :: rest) => some rest
    | some ('/' :: _) => none
    | some ('>' :: rest) => some rest
    | some rest =>
      if rest.length = s.length then none
      else (attribute? newlines rest).bind (openingTagEnd? newlines fuel)

/-- The rest of the text after a tag, behind its opening angle bracket. -/
def tag? (newlines : Bool) (s : List Char) : Option (List Char) :=
  let isNameRest (c : Char) : Bool := c.isAlphanum || c == '-'
  match s with
  | '/' :: c :: rest =>
    if !c.isAlpha then none
    else
      match skipBlanks (rest.dropWhile isNameRest) with
      | '>' :: rest => some rest
      | _ => none
  | c :: rest =>
    if !c.isAlpha then none
    else openingTagEnd? newlines (rest.length + 1) (rest.dropWhile isNameRest)
  | [] => none

/-! ## HTML within a line of text -/

/-- The rest of the text after the first occurrence of `mark`. -/
def afterMark? (mark : List Char) : List Char → Option (List Char)
  | [] => none
  | c :: rest =>
    if mark.isPrefixOf (c :: rest) then some ((c :: rest).drop mark.length)
    else afterMark? mark rest

/-- The rest of the text after raw HTML, behind its opening angle bracket. -/
def inlineHtml? : List Char → Option (List Char)
  | '!' :: '-' :: '-' :: '>' :: rest => some rest
  | '!' :: '-' :: '-' :: '-' :: '>' :: rest => some rest
  | '!' :: '-' :: '-' :: rest => afterMark? ['-', '-', '>'] rest
  | '!' :: '[' :: 'C' :: 'D' :: 'A' :: 'T' :: 'A' :: '[' :: rest => afterMark? [']', ']', '>'] rest
  | '!' :: c :: rest => if c.isAlpha then afterMark? ['>'] rest else none
  | '?' :: rest => afterMark? ['?', '>'] rest
  | s => tag? true s

/-! ## HTML blocks -/

/-- The condition that ends an HTML block. -/
inductive HtmlEnd where
  /-- The first line that holds the mark. -/
  | mark (value : List Char)
  /-- The next blank line. -/
  | blankLine
  deriving DecidableEq, Repr

/-- The tags whose content is kept up to their closing tag. -/
def verbatimTags : List String := ["pre", "style", "script", "textarea"]

/-- The tags that start a block wherever they stand at the start of a line. -/
def blockTags : List String :=
  ["address", "article", "aside", "base", "basefont", "blockquote", "body", "caption", "center",
    "col", "colgroup", "dd", "details", "dialog", "dir", "div", "dl", "dt", "fieldset",
    "figcaption", "figure", "footer", "form", "frame", "frameset", "h1", "h2", "h3", "h4", "h5",
    "h6", "head", "header", "hr", "html", "iframe", "legend", "li", "link", "main", "menu",
    "menuitem", "nav", "noframes", "ol", "optgroup", "option", "p", "param", "search", "section",
    "summary", "table", "tbody", "td", "tfoot", "th", "thead", "title", "tr", "track", "ul"]

/-- The end mark of a verbatim tag that the text starts with. -/
def verbatimEnd? (s : List Char) : Option (List Char) :=
  (verbatimTags.find? fun tag =>
    startsWithIgnoringCase tag.toList s &&
      match s.drop tag.length with
      | [] => true
      | c :: _ => isAsciiBlank c || c == '>').map fun tag => ("</" ++ tag ++ ">").toList

/-- The end mark of a block that runs up to a mark, behind its opening angle bracket. -/
def markedEnd? (s : List Char) : Option (List Char) :=
  match verbatimEnd? s with
  | some mark => some mark
  | none =>
    match s with
    | '!' :: '-' :: '-' :: _ => some "-->".toList
    | '?' :: _ => some "?>".toList
    | '!' :: '[' :: 'C' :: 'D' :: 'A' :: 'T' :: 'A' :: '[' :: _ => some "]]>".toList
    | '!' :: c :: _ => if c.isAlpha then some ['>'] else none
    | _ => none

/-- The text starts with a block tag, behind its opening angle bracket. -/
def startsBlockTag (s : List Char) : Bool :=
  let s := match s with
    | '/' :: rest => rest
    | _ => s
  let name := s.takeWhile Char.isAlphanum
  blockTags.contains (String.ofList (name.map Char.toLower)) &&
    match s.drop name.length with
    | [] => true
    | '/' :: '>' :: _ => true
    | c :: _ => c == ' ' || c == '\t' || c == '\r' || c == '\n' || c == '>'

/-- The text is a tag alone on its line, behind its opening angle bracket. -/
def isLoneTag (s : List Char) : Bool := (tag? false s).any isBlankLine

/-- An HTML block that may interrupt a paragraph starts here. -/
def interruptsWithHtml : List Char → Bool
  | '<' :: rest => (markedEnd? rest).isSome || startsBlockTag rest
  | _ => false

/-- An HTML block starts here, with this end. -/
def blockStart? : List Char → Option HtmlEnd
  | '<' :: rest =>
    match markedEnd? rest with
    | some mark => some (.mark mark)
    | none => if startsBlockTag rest || isLoneTag rest then some .blankLine else none
  | _ => none

end PageRecipe.Markdown
