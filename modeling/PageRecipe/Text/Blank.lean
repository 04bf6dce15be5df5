/-!
# Blank characters

The characters with the Unicode property `White_Space`, and the operations that go by them:
cutting blanks off the ends of a text (`trim`) and splitting it into its words (`words`).
Everything is defined on lists of characters.
-/

namespace PageRecipe.Text

/-- A character with the Unicode property `White_Space`. -/
def isBlank (c : Char) : Bool :=
  let n := c.toNat
  (9 ≤ n && n ≤ 13) || n == 0x20 || n == 0x85 || n == 0xA0 || n == 0x1680 ||
    (0x2000 ≤ n && n ≤ 0x200A) || n == 0x2028 || n == 0x2029 || n == 0x202F ||
    n == 0x205F || n == 0x3000

/-- The text without the blanks it starts with. -/
def trimStart (s : List Char) : List Char := s.dropWhile isBlank

/-- The text without the blanks it ends with. -/
def trimEnd (s : List Char) : List Char := (s.reverse.dropWhile isBlank).reverse

/-- The text without the blanks at either end. -/
def trim (s : List Char) : List Char := trimEnd (trimStart s)

/-- One step of splitting into words : a blank ends the word in front of it. -/
def wordStep (c : Char) (split : List Char × List (List Char)) : List Char × List (List Char) :=
  if isBlank c then
    ([], if split.1.isEmpty then split.2 else split.1 :: split.2)
  else (c :: split.1, split.2)

/-- The maximal runs of characters that are not blank, in order. -/
def words (s : List Char) : List (List Char) :=
  let split := s.foldr wordStep ([], [])
  if split.1.isEmpty then split.2 else split.1 :: split.2

/-- The text with its ends trimmed, as a string. -/
def trimmed (s : String) : String := String.ofList (trim s.toList)

/-- A text of blanks only, the empty text too. -/
def allBlank (s : String) : Bool := s.toList.all isBlank

end PageRecipe.Text
