import PageRecipe.Yaml.Value

/-!
# The values of scalars

A plain scalar stands for null, a truth value or a number if it is spelled like one, and for
its text otherwise (`Scalar.ofPlain`). Integers may have a sign and may be written in base
two, eight or sixteen ; digits with a zero in front are a text.
-/

namespace PageRecipe.Yaml

/-- What a scalar stands for. -/
inductive Scalar where
  | null
  | bool (value : Bool)
  | int (value : Int)
  /-- An integer that has no place in 64 bits. -/
  | wide (value : Int)
  | float (value : Binary64)
  | string (value : String)
  deriving Repr

namespace Scalar

/-- The spellings of null. -/
def isNull (s : String) : Bool := ["", "~", "null", "Null", "NULL"].contains s

/-- The truth value that is spelled. -/
def bool? (s : String) : Option Bool :=
  if ["true", "True", "TRUE"].contains s then some true
  else if ["false", "False", "FALSE"].contains s then some false
  else none

/-- Digits with a zero in front, which are no number. -/
def isZeroPadded (s : List Char) : Bool :=
  match (splitSign s).2 with
  | '0' :: c :: rest => (c :: rest).all Char.isDigit
  | _ => false

/-- The natural number that is spelled without a sign. -/
def magnitude? : List Char → Option Nat
  | '0' :: 'x' :: rest => natOfDigits? 16 rest
  | '0' :: 'o' :: rest => natOfDigits? 8 rest
  | '0' :: 'b' :: rest => natOfDigits? 2 rest
  | s => if isZeroPadded s then none else natOfDigits? 10 s

/-- An integer as a scalar, if 128 bits hold it. -/
def ofInt? (n : Int) : Option Scalar :=
  if -(twoTo 63 : Int) ≤ n ∧ n < (twoTo 64 : Int) then some (.int n)
  else if -(twoTo 127 : Int) ≤ n ∧ n < (twoTo 128 : Int) then some (.wide n)
  else none

/-- The integer that is spelled. -/
def int? (s : List Char) : Option Scalar :=
  match splitSign s with
  | (some '-', rest) => (magnitude? rest).bind fun n => ofInt? (-(n : Int))
  | (_, rest) => (magnitude? rest).bind fun n => ofInt? n

/-- The floating-point number that is spelled. -/
def float? (s : List Char) : Option Binary64 :=
  let text := String.ofList s
  let unsigned := if s.head? = some '+' then s.tail else s
  if [".inf", ".Inf", ".INF"].contains (String.ofList unsigned) then some (.infinity false)
  else if ["-.inf", "-.Inf", "-.INF"].contains text then some (.infinity true)
  else if [".nan", ".NaN", ".NAN"].contains text then some .nan
  else if s.head? = some '+' ∧ (splitSign unsigned).1.isSome then none
  else (Binary64.ofText? unsigned).filter fun x => !x.isSpecial

/-- What a plain scalar stands for. -/
def ofPlain (s : String) : Scalar :=
  if isNull s then .null
  else
    match bool? s, int? s.toList, isZeroPadded s.toList, float? s.toList with
    | some b, _, _, _ => .bool b
    | none, some n, _, _ => n
    | none, none, false, some x => .float x
    | none, none, _, _ => .string s

/-- What a scalar in the style stands for. -/
def ofText (isPlain : Bool) (s : String) : Scalar := if isPlain then ofPlain s else .string s

end Scalar

end PageRecipe.Yaml
