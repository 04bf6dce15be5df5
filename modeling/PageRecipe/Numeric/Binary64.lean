import PageRecipe.Numeric.Power

/-!
# Binary floating-point numbers

A number of 64 bits is kept by its bit pattern, so equality of numbers is decidable. Reading
a decimal rounds to the nearest number, ties to even (`ofDecimal`), and `shortest` finds the
fewest decimal digits that read back as the number, the nearest such digits if there are
several. Both work in exact arithmetic on natural numbers.
-/

namespace PageRecipe

/-- A 64-bit floating-point number, by its bit pattern. -/
structure Binary64 where
  bits : UInt64
  deriving DecidableEq, Repr, Inhabited

namespace Binary64

/-! ## Parts of a number -/

/-- The sign bit is set. -/
def isNegative (x : Binary64) : Bool := twoTo 63 ≤ x.bits.toNat

/-- The eleven exponent bits. -/
def exponentBits (x : Binary64) : Nat := x.bits.toNat / twoTo 52 % twoTo 11

/-- The 52 fraction bits. -/
def fractionBits (x : Binary64) : Nat := x.bits.toNat % twoTo 52

/-- The number is an infinity or not a number. -/
def isSpecial (x : Binary64) : Bool := x.exponentBits == 2047

/-- The number is not a number. -/
def isNaN (x : Binary64) : Bool := x.isSpecial && x.fractionBits != 0

/-- The integer `m` of the magnitude `m * 2 ^ q` of a finite number. -/
def significand (x : Binary64) : Nat :=
  if x.exponentBits = 0 then x.fractionBits else twoTo 52 + x.fractionBits

/-- The exponent `q` of the magnitude `m * 2 ^ q` of a finite number. -/
def exponent (x : Binary64) : Int :=
  if x.exponentBits = 0 then -1074 else (x.exponentBits : Int) - 1075

/-! ## Making numbers -/

/-- The number with a sign and a magnitude given by its bits. -/
def ofParts (negative : Bool) (magnitude : Nat) : Binary64 :=
  ⟨UInt64.ofNat (if negative then twoTo 63 + magnitude else magnitude)⟩

/-- The bits of infinity without its sign. -/
def infinityBits : Nat := 2047 * twoTo 52

/-- Infinity with a sign. -/
def infinity (negative : Bool) : Binary64 := ofParts negative infinityBits

/-- The number that is not a number. -/
def nan : Binary64 := ofParts false (infinityBits + twoTo 51)

/-- The quotient rounded to the nearest integer, a tie to the even one. -/
def roundDiv (n d : Nat) : Nat :=
  let q := n / d
  let r := n % d
  if 2 * r < d then q else if d < 2 * r then q + 1 else q + q % 2

/-- The magnitude bits of the number nearest to the positive ratio `n / d`. -/
def magnitudeOfRatio (n d : Nat) : Nat :=
  let guess : Int := (n.log2 : Int) - (d.log2 : Int) - 52
  let scaled (e : Int) : Nat × Nat := (n * twoTo (-e).toNat, d * twoTo e.toNat)
  let low := scaled guess
  let e := if low.1 < low.2 * twoTo 52 then guess - 1 else guess
  let e := if e < -1074 then -1074 else e
  let top := scaled e
  let m := roundDiv top.1 top.2
  let (m, e) := if m = twoTo 53 then (twoTo 52, e + 1) else (m, e)
  if 971 < e then infinityBits
  else if m < twoTo 52 then m
  else (e + 1075).toNat * twoTo 52 + (m - twoTo 52)

/-- The number nearest to `digits * 10 ^ exponent`, with a sign. -/
def ofDecimal (negative : Bool) (digits : Nat) (exponent : Int) : Binary64 :=
  let size : Int := (Nat.toDigits 10 digits).length
  if digits = 0 ∨ size + exponent < -330 then ofParts negative 0
  else if 330 < size + exponent then infinity negative
  else ofParts negative
    (magnitudeOfRatio (digits * tenTo exponent.toNat) (tenTo (-exponent).toNat))

/-! ## The shortest digits -/

/-- A finite magnitude with the ends of the interval of reals that round to it, in quarters
of its last place. -/
structure Interval where
  low : Nat
  mid : Nat
  high : Nat
  exponent : Int
  closed : Bool

/-- The interval of a finite number that is not zero. -/
def interval (x : Binary64) : Interval :=
  let m := x.significand
  let narrow := x.fractionBits = 0 ∧ 1 < x.exponentBits
  { low := 4 * m - (if narrow then 1 else 2)
    mid := 4 * m
    high := 4 * m + 2
    exponent := x.exponent - 2
    closed := m % 2 == 0 }

/-- The integers that compare as `digits * 10 ^ grid` and `quarters * 2 ^ exponent`. -/
def common (i : Interval) (grid : Int) (digits quarters : Nat) : Nat × Nat :=
  (digits * (tenTo grid.toNat * twoTo (-i.exponent).toNat),
    quarters * (twoTo i.exponent.toNat * tenTo (-grid).toNat))

/-- `digits * 10 ^ grid` rounds to the number of the interval. -/
def Interval.holds (i : Interval) (grid : Int) (digits : Nat) : Bool :=
  let low := common i grid digits i.low
  let high := common i grid digits i.high
  if i.closed then decide (low.2 ≤ low.1 ∧ high.1 ≤ high.2)
  else decide (low.2 < low.1 ∧ high.1 < high.2)

/-- The digits on a decimal grid that read back, the nearer ones if both neighbours do. -/
def Interval.onGrid? (i : Interval) (grid : Int) : Option Nat :=
  let unit := common i grid 1 i.mid
  let below := unit.2 / unit.1
  let rest := unit.2 % unit.1
  let nearBelow := 2 * rest < unit.1 || (2 * rest == unit.1 && below % 2 == 0)
  match i.holds grid below, i.holds grid (below + 1) with
  | true, true => some (if nearBelow then below else below + 1)
  | true, false => some below
  | false, true => some (below + 1)
  | false, false => none

/-- Tries ever finer grids, at most `fuel` of them. -/
def Interval.search (i : Interval) : Nat → Int → Nat × Int
  | 0, grid => ((i.onGrid? grid).getD 0, grid)
  | fuel + 1, grid =>
    match i.onGrid? grid with
    | some digits => (digits, grid)
    | none => i.search fuel (grid - 1)

/-- How many decimal digits the integer part of the number has, or minus the zeros after
the point. -/
def Interval.magnitude (i : Interval) : Int :=
  let unit := common i 0 1 i.mid
  if unit.1 ≤ unit.2 then (Nat.toDigits 10 (unit.2 / unit.1)).length
  else 1 - ((Nat.toDigits 10 (unit.1 / unit.2)).length : Int)

/-- Takes zeros off the end of digits. -/
def dropZeros : Nat → Nat → Int → Nat × Int
  | 0, digits, exponent => (digits, exponent)
  | fuel + 1, digits, exponent =>
    if digits % 10 = 0 ∧ digits ≠ 0 then dropZeros fuel (digits / 10) (exponent + 1)
    else (digits, exponent)

/-- The fewest digits, as an integer and a power of ten, that read back as the finite number. -/
def shortest (x : Binary64) : Nat × Int :=
  if x.significand = 0 then (0, 0)
  else
    let i := x.interval
    let (digits, exponent) := i.search 20 i.magnitude
    dropZeros 25 digits exponent

/-! ## Written forms -/

/-- Digits with a point after the first `whole` of them. -/
def pointAfter (whole : Nat) (digits : List Char) : List Char :=
  digits.take whole ++ '.' :: digits.drop whole

/-- The positional form of a magnitude, without a point if there is no fraction. -/
def positional (digits : Nat) (exponent : Int) : List Char :=
  let ds := Nat.toDigits 10 digits
  let whole : Int := ds.length + exponent
  if 0 ≤ exponent then ds ++ List.replicate exponent.toNat '0'
  else if 0 < whole then pointAfter whole.toNat ds
  else '0' :: '.' :: List.replicate (-whole).toNat '0' ++ ds

/-- The sign in front of a negative number. -/
def signed (x : Binary64) (s : List Char) : List Char := if x.isNegative then '-' :: s else s

/-- The positional form of a number, with the names of the numbers that are not finite. -/
def toPositional (x : Binary64) : String :=
  if x.isNaN then "NaN"
  else if x.isSpecial then String.ofList (x.signed "inf".toList)
  else
    let (digits, exponent) := x.shortest
    String.ofList (x.signed (positional digits exponent))

/-- The form of a finite number that always has a point or an exponent : positional up to
sixteen places before the point and five zeros after it, else scientific. -/
def compact (x : Binary64) : String :=
  let (digits, exponent) := x.shortest
  let ds := Nat.toDigits 10 digits
  let whole : Int := ds.length + exponent
  let body :=
    if digits = 0 then "0.0".toList
    else if 0 ≤ exponent ∧ whole ≤ 16 then positional digits exponent ++ ['.', '0']
    else if -5 < whole ∧ whole ≤ 16 then positional digits exponent
    else
      (if ds.length = 1 then ds else pointAfter 1 ds) ++ 'e' :: (toString (whole - 1)).toList
  String.ofList (x.signed body)

end Binary64

end PageRecipe
