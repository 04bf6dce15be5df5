import PageRecipe.Numeric.Literal
import PageRecipe.Toml.Fault

/-!
# TOML numbers and dates

Numbers may have underscores between their digits, and integers may be written in base two,
eight or sixteen. Of dates and times only the spelling is checked.
-/

namespace PageRecipe.Toml

/-- A value that has no parts. -/
inductive Scalar where
  | string (text : String)
  | integer (value : Int)
  | float (value : Binary64)
  | boolean (value : Bool)
  | datetime
  deriving Repr

namespace Number

/-- Goes on with what was read. -/
def andThen {α β : Type} (result : Result α) (next : α → List Char → Result β) : Result β :=
  result.bind fun (value, rest) => next value rest

/-- The first reading that does not fail, unless a failure before it was final. -/
def orElse {α : Type} (first second : Result α) : Result α :=
  match first with
  | .error fault => if fault.isFinal then .error fault else second
  | ok => ok

/-- The digits in a base at the start of a text, after the first one. An underscore has to
stand in front of a digit. -/
def readMoreDigits (base : Nat) : List Char → Result (List Char)
  | '_' :: c :: rest =>
    if (digitIn? base c).isSome then
      (readMoreDigits base rest).map fun (digits, rest) => (c :: digits, rest)
    else .error ((Fault.here (c :: rest)).expecting ["digit"]).final
  | '_' :: [] => .error ((Fault.here []).expecting ["digit"]).final
  | c :: rest =>
    if (digitIn? base c).isSome then
      (readMoreDigits base rest).map fun (digits, rest) => (c :: digits, rest)
    else .ok ([], c :: rest)
  | [] => .ok ([], [])

/-- The digits in a base at the start of a text, at least one. -/
def readDigits (base : Nat) : List Char → Result (List Char)
  | [] => .error (.here [])
  | c :: rest =>
    if (digitIn? base c).isSome then
      (readMoreDigits base rest).map fun (digits, rest) => (c :: digits, rest)
    else .error (.here (c :: rest))

/-- A sign, if there is one. -/
def readSign (s : List Char) : Bool × List Char :=
  let (sign, rest) := splitSign s
  (sign == some '-', rest)

/-! ## Integers -/

/-- The sign and the digits of a decimal integer. A zero in front stands alone. -/
def readDecimal (s : List Char) : Result (Bool × List Char) :=
  let (negative, rest) := readSign s
  let digits : Result (List Char) :=
    match rest with
    | '0' :: rest => .ok (['0'], rest)
    | rest => readDigits 10 rest
  explain (.inside "integer") (digits.map fun (digits, rest) => ((negative, digits), rest))

/-- The number of digits, if 64 bits hold it. -/
def integerOf (start : List Char) (negative : Bool) (base : Nat) (digits : List Char) :
    Except Fault Scalar :=
  let magnitude : Int := (natOfDigits? base digits).getD 0
  let n := if negative then -magnitude else magnitude
  if (twoTo 63 : Int) ≤ n then .error (.because start "number too large to fit in target type")
  else if n < -(twoTo 63 : Int) then
    .error (.because start "number too small to fit in target type")
  else .ok (.integer n)

/-- Reads an integer with a base in front of it. -/
def readBased (start : List Char) (base : Nat) (label : String) (s : List Char) :
    Result Scalar :=
  match explain (fun fault => (fault.inside label).final) (readDigits base s) with
  | .error fault => .error fault
  | .ok (digits, rest) => (integerOf start false base digits).map fun n => (n, rest)

/-- Reads an integer. -/
def readInteger (s : List Char) : Result Scalar :=
  match s with
  | '0' :: 'x' :: rest => readBased s 16 "hexadecimal integer" rest
  | '0' :: 'o' :: rest => readBased s 8 "octal integer" rest
  | '0' :: 'b' :: rest => readBased s 2 "binary integer" rest
  | s =>
    andThen (readDecimal s) fun (negative, digits) rest =>
      (integerOf s negative 10 digits).map fun n => (n, rest)

/-! ## Floating-point numbers -/

/-- Reads an exponent : the letter, a sign and digits. -/
def readExponent : List Char → Result Int
  | c :: rest =>
    if c == 'e' || c == 'E' then
      let (negative, rest) := readSign rest
      (explain Fault.final (readDigits 10 rest)).map fun (digits, rest) =>
        let n : Int := (natOfDigits? 10 digits).getD 0
        (if negative then -n else n, rest)
    else .error (.here (c :: rest))
  | [] => .error (.here [])

/-- Reads the digits behind a point. -/
def readFraction : List Char → Result (List Char)
  | '.' :: rest =>
    explain (fun fault => (fault.expecting ["digit"]).final) (readDigits 10 rest)
  | s => .error (.here s)

/-- Reads a fraction and an exponent, of which one may be missing. -/
def readScale (s : List Char) : Result (List Char × Int) :=
  orElse ((readExponent s).map fun (exponent, rest) => (([], exponent), rest)) <|
    andThen (readFraction s) fun fraction rest =>
      orElse ((readExponent rest).map fun (exponent, rest) => ((fraction, exponent), rest))
        (.ok ((fraction, 0), rest))

/-- Reads a number with a point or an exponent. -/
def readFinite (s : List Char) : Result Scalar :=
  andThen (readDecimal s) fun (negative, digits) rest =>
    andThen (readScale rest) fun (fraction, exponent) rest =>
      let magnitude := (natOfDigits? 10 (digits ++ fraction)).getD 0
      let x := Binary64.ofDecimal negative magnitude (exponent - fraction.length)
      if x == Binary64.infinity false then .error (Fault.here s).final
      else .ok (.float x, rest)

/-- Reads the name of a number that is not finite. -/
def readSpecial (s : List Char) : Result Scalar :=
  let (negative, rest) := readSign s
  match rest with
  | 'i' :: 'n' :: 'f' :: rest => .ok (.float (.infinity negative), rest)
  | 'n' :: 'a' :: 'n' :: rest => .ok (.float .nan, rest)
  | rest => .error (.here rest)

/-- Reads a floating-point number. -/
def readFloat (s : List Char) : Result Scalar :=
  explain (.inside "floating-point number") (orElse (readFinite s) (readSpecial s))

/-! ## Dates and times -/

/-- Reads so many digits as a number between two bounds. -/
def readField (length low high : Nat) (s : List Char) : Result Nat :=
  let digits := s.take length
  if digits.length = length ∧ digits.all Char.isDigit then
    let n := (natOfDigits? 10 digits).getD 0
    if low ≤ n ∧ n ≤ high then .ok (n, s.drop length)
    else .error { Fault.because s "value is out of range" with isFinal := false }
  else .error (.here s)

/-- Reads a character. -/
def readMark (c : Char) : List Char → Result Unit
  | d :: rest => if c == d then .ok ((), rest) else .error (.here (d :: rest))
  | [] => .error (.here [])

/-- How many days a month has. -/
def daysIn (year month : Nat) : Nat :=
  let isLeap := year % 4 == 0 && (year % 100 != 0 || year % 400 == 0)
  if month = 2 then (if isLeap then 29 else 28)
  else if [4, 6, 9, 11].contains month then 30 else 31

/-- Reads a date. Behind the dash after the year nothing else can be meant. -/
def readDate (s : List Char) : Result Unit :=
  andThen (readField 4 0 9999 s) fun year rest =>
    andThen (readMark '-' rest) fun _ rest =>
      explain Fault.final <|
        andThen (readField 2 1 12 rest) fun month rest =>
          andThen (readMark '-' rest) fun _ rest =>
            andThen (readField 2 1 31 rest) fun day behind =>
              if daysIn year month < day then .error (.because rest "value is out of range")
              else .ok ((), behind)

/-- Reads a fraction of a second, if there is one. -/
def readSecondFraction (s : List Char) : List Char :=
  match s with
  | '.' :: c :: rest => if c.isDigit then rest.dropWhile Char.isDigit else s
  | s => s

/-- Reads a time. Behind the colon after the hour nothing else can be meant. -/
def readTime (s : List Char) : Result Unit :=
  andThen (readField 2 0 23 s) fun _ rest =>
    andThen (readMark ':' rest) fun _ rest =>
      explain Fault.final <|
        andThen (readField 2 0 59 rest) fun _ rest =>
          andThen (readMark ':' rest) fun _ rest =>
            andThen (readField 2 0 60 rest) fun _ rest => .ok ((), readSecondFraction rest)

/-- Reads the offset of a time, if there is one. -/
def readOffset (s : List Char) : Result Unit :=
  match s with
  | c :: rest =>
    if c == 'Z' || c == 'z' then .ok ((), rest)
    else if c == '+' || c == '-' then
      explain Fault.final <|
        andThen (readField 2 0 23 rest) fun _ rest =>
          andThen (readMark ':' rest) fun _ rest =>
            andThen (readField 2 0 59 rest) fun _ rest => .ok ((), rest)
    else .ok ((), s)
  | [] => .ok ((), s)

/-- Reads the time behind a date, if there is one. -/
def readTimeAfterDate (s : List Char) : Result Unit :=
  match s with
  | c :: rest =>
    if c == 'T' || c == 't' || c == ' ' then
      orElse (andThen (readTime rest) fun _ rest => readOffset rest) (.ok ((), s))
    else .ok ((), s)
  | [] => .ok ((), s)

/-- Reads a date, a time or both. -/
def readDatetime (s : List Char) : Result Scalar :=
  let date :=
    explain (.inside "date-time") (andThen (readDate s) fun _ rest => readTimeAfterDate rest)
  let time := explain (.inside "time") (readTime s)
  (orElse date time).map fun (_, rest) => (.datetime, rest)

/-- Reads a number, a date or a time. -/
def read (s : List Char) : Result Scalar :=
  orElse (readDatetime s) (orElse (readFloat s) (readInteger s))

end Number

end PageRecipe.Toml
