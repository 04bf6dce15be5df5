import PageRecipe.Markdown.Scan
import PageRecipe.Text.CaseFold
import PageRecipe.Text.Blank
import PageRecipe.Text.Punctuation

/-!
# Links

The written forms of links : the label in square brackets, the destination, the title, the
definition of a label, and addresses in angle brackets. Only what they enclose matters here,
for a page is checked for the presence of links and not for where they lead.
-/

namespace PageRecipe.Markdown

open PageRecipe.Text (isAsciiPunctuation)

/-! ## Labels -/

/-- The longest label, in characters. -/
def maxLabel : Nat := 1000

/-- Reads the inside of a label up to its closing bracket, which is not taken. A backslash
takes the next character with it, and an opening bracket is not allowed. -/
def labelText? : Nat → List Char → Option (List Char × List Char)
  | 0, _ => none
  | _ + 1, [] => none
  | _ + 1, '[' :: _ => none
  | _ + 1, ']' :: rest => some ([], ']' :: rest)
  | fuel + 1, '\\' :: c :: rest =>
    match labelText? (fuel - 1) rest with
    | some (label, rest) => some ('\\' :: c :: label, rest)
    | none => none
  | fuel + 1, c :: rest =>
    match labelText? fuel rest with
    | some (label, rest) => some (c :: label, rest)
    | none => none

/-- The form in which labels are compared : blanks collapsed, ends trimmed, case folded. -/
def normalLabel (label : List Char) : List Char :=
  Text.fold (List.intercalate [' '] (Text.words label))

/-- Reads a label with its brackets : its normal form and the rest of the text. A label holds
more than blanks. -/
def label? : List Char → Option (List Char × List Char)
  | '[' :: inner =>
    match labelText? maxLabel inner with
    | some (label, _ :: rest) =>
      if label.all isAsciiBlank then none else some (normalLabel label, rest)
    | _ => none
  | _ => none

/-! ## Destinations and titles -/

/-- The rest of the text after a destination in angle brackets, behind the opening one. -/
def pointedDestination? : List Char → Option (List Char)
  | [] => none
  | '>' :: rest => some rest
  | '\\' :: c :: rest =>
    if isAsciiPunctuation c then pointedDestination? rest
    else if isLineEnd c || c == '<' then none
    else pointedDestination? rest
  | c :: rest => if isLineEnd c || c == '<' then none else pointedDestination? rest

/-- The deepest nesting of round brackets in a destination. -/
def maxNesting : Nat := 32

/-- The rest of the text after a bare destination, inside `depth` open brackets. -/
def bareDestination? (depth : Nat) : List Char → Option (List Char)
  | [] => if depth = 0 then some [] else none
  | '\\' :: c :: rest =>
    if isAsciiPunctuation c then bareDestination? depth rest
    else if c.toNat ≤ 0x20 then if depth = 0 then some (c :: rest) else none
    else bareDestination? depth rest
  | '(' :: rest => if maxNesting < depth then none else bareDestination? (depth + 1) rest
  | ')' :: rest =>
    match depth with
    | 0 => some (')' :: rest)
    | depth + 1 => bareDestination? depth rest
  | c :: rest =>
    if c.toNat ≤ 0x20 then if depth = 0 then some (c :: rest) else none
    else bareDestination? depth rest

/-- The rest of the text after a destination. -/
def destination? : List Char → Option (List Char)
  | '<' :: rest => pointedDestination? rest
  | s => bareDestination? 0 s

/-- The rest of the text after the closing mark of a title. -/
def titleEnd? (opening closing : Char) : List Char → Option (List Char)
  | [] => none
  | '\\' :: c :: rest =>
    if isAsciiPunctuation c then titleEnd? opening closing rest
    else if c = closing then some rest
    else if c = opening then none
    else titleEnd? opening closing rest
  | c :: rest =>
    if c = closing then some rest
    else if c = opening then none
    else titleEnd? opening closing rest

/-- The rest of the text after a title. -/
def title? : List Char → Option (List Char)
  | '"' :: rest => titleEnd? '"' '"' rest
  | '\'' :: rest => titleEnd? '\'' '\'' rest
  | '(' :: rest => titleEnd? '(' ')' rest
  | _ => none

/-- Skips blanks with at most one line end among them. -/
def skipSeparator (s : List Char) : List Char :=
  let s := skipBlanks s
  skipBlanks ((lineEnd? s).getD s)

/-- Reads the destination and the title of a link in round brackets : the rest of the text. -/
def inlineTarget? : List Char → Option (List Char)
  | '(' :: rest =>
    match destination? (skipSeparator rest) with
    | none => none
    | some rest =>
      let rest := skipSeparator rest
      let rest := match title? rest with
        | some after => skipSeparator after
        | none => rest
      match rest with
      | ')' :: rest => some rest
      | _ => none
  | _ => none

/-! ## Definitions -/

/-- Skips blanks and line ends : `none` after a second line end, else whether there was one. -/
def definitionSpace? (s : List Char) : Option (Bool × List Char) :=
  let s := skipBlanks s
  match lineEnd? s with
  | none => some (false, s)
  | some rest =>
    let rest := skipBlanks rest
    if (lineEnd? rest).isSome then none else some (true, rest)

/-- Reads the definition of a label at the start of the text : the label in its normal form,
and the rest of the text from the end of the definition's last line on. A title that does not
end its line is no part of the definition if it has a line of its own. -/
def definition? (s : List Char) : Option (List Char × List Char) :=
  match label? s with
  | some (label, ':' :: rest) =>
    match definitionSpace? rest with
    | none => none
    | some (_, target) =>
      match destination? target with
      | none => none
      | some rest =>
        if rest.length = target.length then none
        else
          match definitionSpace? rest with
          | none => some (label, (blankLine? rest).getD [])
          | some (newline, next) =>
            if !newline && next.length == rest.length then none
            else
              match (title? next).bind blankLine? with
              | some after => some (label, after)
              | none => if newline then (blankLine? rest).map fun after => (label, after) else none
  | _ => none

/-! ## Addresses -/

/-- Reads an address with a scheme, such as `https://a.b`, and the closing angle bracket :
the address and the rest of the text. -/
def uri? (s : List Char) : Option (List Char × List Char) :=
  let isSchemeChar (c : Char) : Bool := c.isAlphanum || c == '.' || c == '-' || c == '+'
  let isAddressChar (c : Char) : Bool := !(c.toNat ≤ 0x20 || c == '<' || c == '>')
  let scheme := s.takeWhile isSchemeChar
  match s, s.drop scheme.length with
  | first :: _, ':' :: rest =>
    let address := rest.takeWhile isAddressChar
    match rest.drop address.length with
    | '>' :: after =>
      if first.isAlpha && 2 ≤ scheme.length && scheme.length ≤ 32 then
        some (scheme ++ ':' :: address, after)
      else none
    | _ => none
  | _, _ => none

/-- A character of the part of a mail address before the at sign. -/
def isMailChar (c : Char) : Bool :=
  c.isAlphanum || ".!#$%&'*+/=?^_\x60\x7b|\x7d~-".toList.contains c

/-- A label of a domain name : letters, digits and inner hyphens, at most 63 of them. -/
def isDomainLabel (s : List Char) : Bool :=
  match s.head?, s.getLast? with
  | some first, some last => first != '-' && last != '-' && s.length ≤ 63
  | _, _ => false

/-- Splits a domain name into its labels. -/
def domainLabels (s : List Char) : List (List Char) :=
  s.foldr (fun c labels =>
    if c == '.' then [] :: labels
    else match labels with
      | [] => [[c]]
      | label :: rest => (c :: label) :: rest) [[]]

/-- Reads a mail address and the closing angle bracket : the address and the rest of the text. -/
def mailAddress? (s : List Char) : Option (List Char × List Char) :=
  let isDomainChar (c : Char) : Bool := c.isAlphanum || c == '-' || c == '.'
  let user := s.takeWhile isMailChar
  match user, s.drop user.length with
  | _ :: _, '@' :: rest =>
    let domain := rest.takeWhile isDomainChar
    match rest.drop domain.length with
    | '>' :: after =>
      if (domainLabels domain).all isDomainLabel then some (user ++ '@' :: domain, after) else none
    | _ => none
  | _, _ => none

/-- Reads an address after an opening angle bracket. -/
def autolink? (s : List Char) : Option (List Char × List Char) := (uri? s).or (mailAddress? s)

end PageRecipe.Markdown
