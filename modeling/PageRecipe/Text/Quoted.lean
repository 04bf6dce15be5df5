import PageRecipe.Text.Printable

/-!
# Quoted texts

A text in double quotes on one line : quotes, backslashes, tabs and line ends are escaped by
a letter, and every other character that is not printable by its code point in hexadecimal.
-/

namespace PageRecipe.Text

/-- A character as it stands inside quotes. -/
def escapeChar (c : Char) : List Char :=
  if c = '\x00' then ['\\', '0']
  else if c = '\t' then ['\\', 't']
  else if c = '\r' then ['\\', 'r']
  else if c = '\n' then ['\\', 'n']
  else if c = '"' then ['\\', '"']
  else if c = '\\' then ['\\', '\\']
  else if isPrintable c then [c]
  else ['\\', 'u', '\x7b'] ++ Nat.toDigits 16 c.toNat ++ ['\x7d']

/-- The text in quotes. -/
def quoted (s : String) : String :=
  String.ofList ('"' :: s.toList.flatMap escapeChar ++ ['"'])

end PageRecipe.Text
