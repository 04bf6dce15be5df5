import PageRecipe.Numeric.Binary64

/-!
# Numerals

Reading numbers from their written form : digits in a base (`natOfDigits?`) and decimal
numbers with a point and an exponent (`Binary64.ofText?`).
-/

namespace PageRecipe

/-- The value of a digit or letter as a digit. -/
def digitValue? (c : Char) : Option Nat :=
  if c.isDigit then some (c.toNat - '0'.toNat)
  else if 'a' ≤ c ∧ c ≤ 'f' then some (c.toNat - 'a'.toNat + 10)
  else if 'A' ≤ c ∧ c ≤ 'F' then some (c.toNat - 'A'.toNat + 10)
  else none

/-- The value of a digit in a base. -/
def digitIn? (base : Nat) (c : Char) : Option Nat := (digitValue? c).filter (· < base)

/-- The number that digits in a base spell. There has to be a digit. -/
def natOfDigits? (base : Nat) (digits : List Char) : Option Nat :=
  if digits.isEmpty then none
  else digits.foldlM (fun n c => (digitIn? base c).map (base * n + ·)) 0

/-- A sign in front of a text, and the text behind it. -/
def splitSign : List Char → Option Char × List Char
  | '+' :: rest => (some '+', rest)
  | '-' :: rest => (some '-', rest)
  | s => (none, s)

/-- The integer that a text with an optional sign spells in base ten. -/
def intOfText? (s : List Char) : Option Int :=
  match splitSign s with
  | (some '-', rest) => (natOfDigits? 10 rest).map fun n => -(n : Int)
  | (_, rest) => (natOfDigits? 10 rest).map fun n => (n : Int)

namespace Binary64

/-- The exponent that a text spells : nothing, or a letter `e` and an integer. -/
def exponentOf? : List Char → Option Int
  | [] => some 0
  | c :: rest => if c == 'e' || c == 'E' then intOfText? rest else none

/-- The number that an unsigned decimal spells : digits with a point among them or not, and
an exponent. -/
def ofDigits? (negative : Bool) (s : List Char) : Option Binary64 := do
  let whole := s.takeWhile Char.isDigit
  let rest := s.dropWhile Char.isDigit
  let (fraction, rest) :=
    match rest with
    | '.' :: rest => (rest.takeWhile Char.isDigit, rest.dropWhile Char.isDigit)
    | rest => ([], rest)
  let digits ← natOfDigits? 10 (whole ++ fraction)
  let exponent ← exponentOf? rest
  return ofDecimal negative digits (exponent - fraction.length)

/-- The number that a text spells. Infinity and the number that is none have names, in any
case. -/
def ofText? (s : List Char) : Option Binary64 :=
  let (sign, rest) := splitSign s
  let negative := sign == some '-'
  let name := String.ofList (rest.map Char.toLower)
  if name = "inf" ∨ name = "infinity" then some (infinity negative)
  else if name = "nan" then some (ofParts negative (infinityBits + twoTo 51))
  else ofDigits? negative rest

/-- Equality of numbers. Both zeros are equal, and here a number that is none equals itself. -/
def sameNumber (x y : Binary64) : Bool :=
  x == y || (x.isNaN && y.isNaN) ||
    (!x.isSpecial && !y.isSpecial && x.significand == 0 && y.significand == 0)

end Binary64

end PageRecipe
