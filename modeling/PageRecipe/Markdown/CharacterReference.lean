import PageRecipe.Markdown.EntityTable
import PageRecipe.Markdown.Scan

/-!
# Character references

A reference such as `&amp;`, `&#38;` or `&#x26;` stands for a character, or for two. A number
that is no character stands for the replacement character.
-/

namespace PageRecipe.Markdown

/-- The value of a hexadecimal digit. -/
def hexValue (c : Char) : Nat :=
  if c.isDigit then c.toNat - '0'.toNat else c.toLower.toNat - 'a'.toNat + 10

/-- A hexadecimal digit. -/
def isHexDigit (c : Char) : Bool := c.isDigit || ('a' ≤ c.toLower && c.toLower ≤ 'f')

/-- The value of digits in a base. -/
def digitsValue (base : Nat) (s : List Char) : Nat :=
  s.foldl (fun value c => value * base + hexValue c) 0

/-- The character with a code point, the replacement character if there is none or it is zero. -/
def charOfCode (n : Nat) : Char := if n.isValidChar ∧ n ≠ 0 then Char.ofNat n else '\uFFFD'

/-- Reads digits, at most `limit` of them, and a semicolon. -/
def numericReference? (isDigit : Char → Bool) (base limit : Nat) (s : List Char) :
    Option (List Char × List Char) :=
  let digits := (s.take limit).takeWhile isDigit
  match digits, s.drop digits.length with
  | _ :: _, ';' :: rest => some ([charOfCode (digitsValue base digits)], rest)
  | _, _ => none

/-- The entries of the table of names. -/
def entityEntries : List (String × List Char) :=
  (entityTable.flatMap (·.splitOn " ")).filterMap fun entry =>
    match entry.splitOn "=" with
    | [name, codes] =>
      some (name, (codes.splitOn "+").map fun code => charOfCode (digitsValue 16 code.toList))
    | _ => none

/-- What a name stands for. -/
def namedCharacters? (name : List Char) : Option (List Char) :=
  entityEntries.lookup (String.ofList name)

/-- Reads the reference after an ampersand : what it stands for, and the rest of the text. -/
def characterReference? (s : List Char) : Option (List Char × List Char) :=
  match s with
  | '#' :: 'x' :: rest => numericReference? isHexDigit 16 6 rest
  | '#' :: 'X' :: rest => numericReference? isHexDigit 16 6 rest
  | '#' :: rest => numericReference? Char.isDigit 10 7 rest
  | _ =>
    let name := s.takeWhile Char.isAlphanum
    match s.drop name.length with
    | ';' :: rest => (namedCharacters? name).map fun chars => (chars, rest)
    | _ => none

end PageRecipe.Markdown
