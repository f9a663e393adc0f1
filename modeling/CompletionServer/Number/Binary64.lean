/-!
# Double-precision numbers as exact fractions

A finite double is a whole number times a power of two. Reading it apart and finding the double
nearest to a fraction are exact computations on natural numbers; ties go to the even neighbour.
-/

namespace CompletionServer.Number

/-- The quotient rounded to the nearest whole number, a tie to the even one. -/
def roundDiv (numerator denominator : Nat) : Nat :=
  let quotient := numerator / denominator
  let twice := 2 * (numerator % denominator)
  if twice < denominator then quotient
  else if denominator < twice then quotient + 1
  else quotient + quotient % 2

/-- What a double stands for. -/
inductive Binary64
  | nan
  | infinite (negative : Bool)
  /-- The number `mantissa * 2 ^ exponent`, with its sign. -/
  | finite (negative : Bool) (mantissa : Nat) (exponent : Int)
  deriving DecidableEq, Repr

namespace Binary64

/-- The least exponent, that of the numbers too small for a leading one. -/
def leastExponent : Int := -1074

/-- The bits of infinity, beyond those of every finite number. -/
def infinityBits : Nat := 0x7ff0000000000000

/-- Reads the fields of a bit pattern. -/
def ofBits (bits : Nat) : Binary64 :=
  let negative := decide (Nat.pow 2 63 ≤ bits % Nat.pow 2 64)
  let field := bits / Nat.pow 2 52 % Nat.pow 2 11
  let fraction := bits % Nat.pow 2 52
  if field = 2047 then if fraction = 0 then .infinite negative else .nan
  else if field = 0 then .finite negative fraction leastExponent
  else .finite negative (Nat.pow 2 52 + fraction) (leastExponent + (field - 1 : Nat))

/-- What a float stands for. -/
def ofFloat (x : Float) : Binary64 :=
  ofBits x.toBits.toNat

/-- A finite magnitude as a fraction. -/
def fraction (mantissa : Nat) (exponent : Int) : Nat × Nat :=
  if 0 ≤ exponent then (mantissa * Nat.pow 2 exponent.toNat, 1)
  else (mantissa, Nat.pow 2 (-exponent).toNat)

/-- Bits of the nonnegative double nearest to a fraction, infinity beyond the largest. The exponent
is chosen so that the quotient has 53 binary digits, or is the least one. -/
def nearestBits (numerator denominator : Nat) : Nat :=
  if numerator = 0 || denominator = 0 then 0
  else
    let size : Int := numerator.log2 - denominator.log2
    let scaled (exponent : Int) : Nat × Nat :=
      if 0 ≤ exponent then (numerator, denominator * Nat.pow 2 exponent.toNat)
      else (numerator * Nat.pow 2 (-exponent).toNat, denominator)
    let guess := max (size - 53) leastExponent
    let exponent :=
      let (top, bottom) := scaled guess
      if Nat.pow 2 53 ≤ top / bottom then guess + 1 else guess
    let (top, bottom) := scaled exponent
    min ((exponent - leastExponent).toNat * Nat.pow 2 52 + roundDiv top bottom) infinityBits

/-- The double nearest to a fraction with a sign. -/
def nearest (negative : Bool) (numerator denominator : Nat) : Float :=
  let bits := nearestBits numerator denominator
  Float.ofBits (UInt64.ofNat (if negative then Nat.pow 2 63 + bits else bits))

/-- The double nearest to a whole number, infinite beyond the largest. -/
def ofInt (value : Int) : Float :=
  nearest (decide (value < 0)) value.natAbs 1

/-- The double nearest to a whole number, none beyond the largest. -/
def ofInt? (value : Int) : Option Float :=
  if nearestBits value.natAbs 1 < infinityBits then some (ofInt value) else none

end Binary64

end CompletionServer.Number
