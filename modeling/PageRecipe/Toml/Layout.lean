import PageRecipe.Toml.Text

/-!
# Writing TOML entries

An entry is written on a line of its own. A list of texts goes on one line if it has at most
one item ; else every item has its line.
-/

namespace PageRecipe.Toml

/-- What stands in front of an item on its own line. -/
def indent : List Char := "    ".toList

/-- A list of texts. -/
def writeTexts : List (List Char) → List Char
  | [] => ['[', ']']
  | [s] => '[' :: write s ++ [']']
  | items => '[' :: '\n' :: items.flatMap (fun s => indent ++ write s ++ [',', '\n']) ++ [']']

/-- An entry of a key that needs no quotes, with its value written out. -/
def writeEntry (key : String) (value : List Char) : List Char :=
  key.toList ++ " = ".toList ++ value ++ ['\n']

end PageRecipe.Toml
