import CompletionServer.Number.Binary64

/-!
# Decimal digits of doubles

The shortest digits are found by trying grids of one, two, and more digits: the first grid with a
point inside the interval of numbers that round to the double wins, and of two such points the
nearer. Digits of a fixed number are the double rounded to that grid, a tie to the even digit.
-/

namespace CompletionServer.Number

/-- Decimal digits of a positive number: it is `0.d₁d₂…` times ten to the power `point`. -/
structure Decimal where
  digits : List Nat
  point : Int
  deriving DecidableEq, Repr

/-- Decimal digits of a natural number, most significant first; zero has one. -/
def digitsOf (value : Nat) : List Nat :=
  (Nat.toDigits 10 value).map fun c => c.toNat - 0x30

/-- The character of a decimal digit. -/
def digitChar (digit : Nat) : Char :=
  Char.ofNat (0x30 + digit)

/-- The power of ten as a fraction. -/
def powerOfTen (exponent : Int) : Nat × Nat :=
  if 0 ≤ exponent then (Nat.pow 10 exponent.toNat, 1) else (1, Nat.pow 10 (-exponent).toNat)

/-- The exponent `k` with `10 ^ (k - 1) ≤ value < 10 ^ k` for a positive fraction, found from an
estimate by at most a few steps. -/
def decimalPoint (numerator denominator : Nat) : Int :=
  let size : Int := numerator.log2 - denominator.log2
  let guess : Int := Int.fdiv (size * 30103) 100000 - 1
  let below (k : Int) : Bool :=
    let (top, bottom) := powerOfTen k
    decide (numerator * bottom < denominator * top)
  if below guess then guess
  else if below (guess + 1) then guess + 1
  else if below (guess + 2) then guess + 2
  else guess + 3

/-- Trailing zeros removed. -/
def dropTrailingZeros (digits : List Nat) : List Nat :=
  (digits.reverse.dropWhile (· == 0)).reverse

/-- The digits of a grid point. When the point carries into a further digit the decimal point
moves with it. -/
def Decimal.ofGrid (value : Nat) (count : Nat) (point : Int) : Decimal :=
  let digits := digitsOf value
  ⟨dropTrailingZeros digits, point + ((digits.length : Int) - count)⟩

/-- The fewest digits that read back as the double `mantissa * 2 ^ exponent`, which is positive. -/
def shortest (mantissa : Nat) (exponent : Int) : Decimal :=
  -- All bounds are multiples of a quarter of the last binary place.
  let (top, bottom) := Binary64.fraction (4 * mantissa) exponent
  let unit := (Binary64.fraction 1 exponent).1
  let narrow := mantissa = Nat.pow 2 52 && Binary64.leastExponent < exponent
  let low := top - (if narrow then unit else 2 * unit)
  let high := top + 2 * unit
  let scale := 4 * bottom
  let closed := mantissa % 2 == 0
  let inside (numerator denominator : Nat) : Bool :=
    if closed then
      low * denominator ≤ numerator * scale && numerator * scale ≤ high * denominator
    else low * denominator < numerator * scale && numerator * scale < high * denominator
  let point := decimalPoint top scale
  let onGrid (count : Nat) : Option Decimal :=
    let (stepTop, stepBottom) := powerOfTen (point - count)
    let lower := top * stepBottom / (scale * stepTop)
    let lowerIn := decide (0 < lower) && inside (lower * stepTop) stepBottom
    let upperIn := inside ((lower + 1) * stepTop) stepBottom
    -- Twice the distance to the lower point against the width of the grid.
    let remainder := 2 * (top * stepBottom - lower * (scale * stepTop))
    let lowerNearer := decide (remainder < scale * stepTop) ||
      (decide (remainder = scale * stepTop) && lower % 2 == 0)
    if lowerIn && (lowerNearer || !upperIn) then some (.ofGrid lower count point)
    else if upperIn then some (.ofGrid (lower + 1) count point)
    else none
  ((List.range 17).findSome? fun count => onGrid (count + 1)).getD
    (.ofGrid (roundDiv (top * (powerOfTen (17 - point)).1)
      (scale * (powerOfTen (17 - point)).2)) 17 point)

/-- The digits of a positive fraction rounded to `count` significant ones. -/
def significant (count numerator denominator : Nat) : Decimal :=
  let point := decimalPoint numerator denominator
  let (top, bottom) := powerOfTen (count - point)
  .ofGrid (roundDiv (numerator * top) (denominator * bottom)) count point

/-- Digits padded or cut to a whole number and a fraction part, with no digit after the last. -/
def Decimal.positional (decimal : Decimal) : List Char × List Char :=
  let digits := decimal.digits.map digitChar
  if 0 < decimal.point then
    let whole := decimal.point.toNat
    (digits.take whole ++ List.replicate (whole - digits.length) '0', digits.drop whole)
  else (['0'], List.replicate (-decimal.point).toNat '0' ++ digits)

/-- An exponent with its sign and at least two digits. -/
def exponentText (exponent : Int) : String :=
  let digits := toString exponent.natAbs
  (if exponent < 0 then "e-" else "e+") ++ (if digits.length < 2 then "0" ++ digits else digits)

/-- One digit, the remaining ones after a point, and the exponent. -/
def Decimal.scientific (decimal : Decimal) : String :=
  let digits := decimal.digits.map digitChar
  let mantissa :=
    match digits with
    | [] => "0"
    | [digit] => String.ofList [digit]
    | digit :: rest => String.ofList (digit :: '.' :: rest)
  mantissa ++ exponentText (decimal.point - 1)

/-- The sign before a number. -/
def signText (negative : Bool) : String :=
  if negative then "-" else ""

/-- The text of a double: the fewest digits that read back, positional from `1e-4` up to below
`1e16` and with at least one digit after the point, scientific elsewhere. -/
def floatText (x : Float) : String :=
  match Binary64.ofFloat x with
  | .nan => "nan"
  | .infinite negative => signText negative ++ "inf"
  | .finite negative 0 _ => signText negative ++ "0.0"
  | .finite negative mantissa exponent =>
    let decimal := shortest mantissa exponent
    signText negative ++
      if -4 < decimal.point && decimal.point ≤ 16 then
        let (whole, tail) := decimal.positional
        String.ofList (whole ++ '.' :: (if tail.isEmpty then ['0'] else tail))
      else decimal.scientific

/-- The text of a double with at most six significant digits: positional from `1e-4` up to below
`1e6`, scientific elsewhere, with no trailing zeros. -/
def generalText (x : Float) : String :=
  match Binary64.ofFloat x with
  | .nan => "nan"
  | .infinite negative => signText negative ++ "inf"
  | .finite negative 0 _ => signText negative ++ "0"
  | .finite negative mantissa exponent =>
    let (numerator, denominator) := Binary64.fraction mantissa exponent
    let decimal := significant 6 numerator denominator
    signText negative ++
      if -4 < decimal.point && decimal.point ≤ 6 then
        let (whole, tail) := decimal.positional
        String.ofList (if tail.isEmpty then whole else whole ++ '.' :: tail)
      else decimal.scientific

/-- A finite magnitude in millionths, a tie to the even one. -/
def millionths (mantissa : Nat) (exponent : Int) : Nat :=
  let (numerator, denominator) := Binary64.fraction mantissa exponent
  roundDiv (numerator * 1000000) denominator

/-- A double rounded to six places after the point. -/
def roundToMillionths (x : Float) : Float :=
  match Binary64.ofFloat x with
  | .finite negative mantissa exponent =>
    Binary64.nearest negative (millionths mantissa exponent) 1000000
  | _ => x

/-- The text of a double with six places after the point. -/
def sixPlaces (x : Float) : String :=
  match Binary64.ofFloat x with
  | .nan => "nan"
  | .infinite negative => signText negative ++ "inf"
  | .finite negative mantissa exponent =>
    let units := millionths mantissa exponent
    let tail := toString (units % 1000000)
    signText negative ++ toString (units / 1000000) ++ "." ++
      String.ofList (List.replicate (6 - tail.length) '0') ++ tail

end CompletionServer.Number
