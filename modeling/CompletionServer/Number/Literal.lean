import CompletionServer.Number.Binary64
import CompletionServer.Text.Blank
import CompletionServer.Text.DecimalDigit

/-!
# Numbers written as text

A number may stand between blanks, carries an optional sign, takes the decimal digits of every
script, and may hold single underscores between digits. Whole numbers of more than `digitLimit`
decimal digits are refused.
-/

namespace CompletionServer.Number

/-- The largest count of decimal digits that is converted to or from a whole number. -/
def digitLimit : Nat := 4300

/-- Why a text is no whole number. -/
inductive IntegerError
  | malformed
  | tooLong (digits : Nat)
  deriving DecidableEq, Repr

/-- A blank that may surround a number: every blank but the information separators. -/
def isNumericBlank (c : Char) : Bool :=
  Text.isBlank c && !(0x1c ≤ c.toNat && c.toNat ≤ 0x1f)

/-- A character with every script's decimal digits written in ASCII. -/
def plainDigit (c : Char) : Char :=
  match Text.decimalDigit? c with
  | some digit => Char.ofNat (0x30 + digit)
  | none => c

/-- A literal without the blanks around it and with plain digits. -/
def plainLiteral (text : String) : List Char :=
  (((text.toList.dropWhile isNumericBlank).reverse.dropWhile isNumericBlank).reverse).map plainDigit

/-- A leading sign, and what follows it. -/
def splitSign : List Char → Bool × List Char
  | '-' :: rest => (true, rest)
  | '+' :: rest => (false, rest)
  | chars => (false, chars)

/-- The value of a digit or letter in bases up to thirty-six. -/
def digitValue? (c : Char) : Option Nat :=
  let code := c.toNat
  if 0x30 ≤ code && code ≤ 0x39 then some (code - 0x30)
  else if 0x61 ≤ code && code ≤ 0x7a then some (code - 0x61 + 10)
  else if 0x41 ≤ code && code ≤ 0x5a then some (code - 0x41 + 10)
  else none

/-- Whether the character is a digit of the base. -/
def isDigitOf (base : Nat) (c : Char) : Bool :=
  (digitValue? c).any (· < base)

/-- Underscores stand one at a time, after a digit and before one. -/
def underscoresBetweenDigits (isDigit : Char → Bool) : (afterDigit : Bool) → List Char → Bool
  | _, [] => true
  | afterDigit, '_' :: rest =>
    afterDigit && (rest.head?.any isDigit) && underscoresBetweenDigits isDigit false rest
  | _, c :: rest => underscoresBetweenDigits isDigit (isDigit c) rest

/-- The number that digits of a base spell, underscores skipped. -/
def spelled (base : Nat) (chars : List Char) : Nat :=
  chars.foldl (fun value c => ((digitValue? c).map (value * base + ·)).getD value) 0

/-- The marked form of a base's digits: `0b`, `0o`, or `0x`, with one underscore allowed after. -/
def dropBaseMark (base : Nat) (chars : List Char) : List Char :=
  match chars with
  | '0' :: mark :: rest =>
    if (base = 2 && (mark = 'b' || mark = 'B')) || (base = 8 && (mark = 'o' || mark = 'O')) ||
        (base = 16 && (mark = 'x' || mark = 'X')) then
      match rest with
      | '_' :: tail => tail
      | tail => tail
    else chars
  | _ => chars

/-- Whether the number of digits of a base is limited: that of a power of two is not. -/
def isLimitedBase (base : Nat) : Bool :=
  Nat.pow 2 base.log2 != base

/-- The whole number that a text spells in a base. -/
def integerIn (base : Nat) (text : String) : Except IntegerError Int :=
  let (negative, unsigned) := splitSign (plainLiteral text)
  let body := dropBaseMark base unsigned
  let written := body.takeWhile fun c => isDigitOf base c || c = '_'
  let count := (written.filter (· ≠ '_')).length
  if !underscoresBetweenDigits (isDigitOf base) false written then .error .malformed
  else if isLimitedBase base && digitLimit < count then .error (.tooLong count)
  else if count = 0 || written.length < body.length then .error .malformed
  else
    let magnitude : Int := spelled base written
    .ok (if negative then -magnitude else magnitude)

/-- The whole number that a text spells in decimal. -/
def integer (text : String) : Except IntegerError Int :=
  integerIn 10 text

/-- A decimal number: digits of the whole and fraction parts, and the exponent. -/
structure DecimalLiteral where
  digits : List Char
  scale : Int

/-- Digits at the front, and what follows them. -/
def spanDigits (chars : List Char) : List Char × List Char :=
  chars.span (isDigitOf 10)

/-- The exponent part: nothing, or a mark, an optional sign, and digits to the end. -/
def exponentOf : List Char → Option Int
  | [] => some 0
  | mark :: rest =>
    if mark = 'e' || mark = 'E' then
      let (negative, digits) := splitSign rest
      if digits.isEmpty || !digits.all (isDigitOf 10) then none
      else
        let magnitude : Int := spelled 10 digits
        some (if negative then -magnitude else magnitude)
    else none

/-- A decimal number without sign: some digit, an optional point, an optional exponent. -/
def decimalLiteral? (chars : List Char) : Option DecimalLiteral :=
  let (whole, rest) := spanDigits chars
  let (tail, rest) :=
    match rest with
    | '.' :: rest => spanDigits rest
    | rest => ([], rest)
  if whole.isEmpty && tail.isEmpty then none
  else (exponentOf rest).map fun exponent => ⟨whole ++ tail, exponent - tail.length⟩

/-- The double nearest to a decimal literal. Beyond four hundred places on either side of the point
every number is infinite or zero, so no large power is formed. -/
def DecimalLiteral.toFloat (literal : DecimalLiteral) (negative : Bool) : Float :=
  let digits := literal.digits.dropWhile (· = '0')
  let value := spelled 10 digits
  let size := literal.scale + digits.length
  if digits.isEmpty || size < -400 then Binary64.nearest negative 0 1
  else if 400 < size then Binary64.nearest negative (Nat.pow 10 400) 1
  else if 0 ≤ literal.scale then
    Binary64.nearest negative (value * Nat.pow 10 literal.scale.toNat) 1
  else Binary64.nearest negative value (Nat.pow 10 (-literal.scale).toNat)

/-- A word compared without regard to ASCII case. -/
def isWord (chars : List Char) (word : String) : Bool :=
  chars.map Char.toLower == word.toList

/-- The double of a literal with plain digits: a decimal number, an infinity, or no number. -/
def floatOfPlain? (literal : List Char) : Option Float :=
  let (negative, body) := splitSign literal
  if isWord body "inf" || isWord body "infinity" then
    some (Binary64.nearest negative (Nat.pow 10 400) 1)
  else if isWord body "nan" then some (0.0 / 0.0)
  else (decimalLiteral? body).map fun decimal => decimal.toFloat negative

/-- The double that a text spells. -/
def float? (text : String) : Option Float :=
  let literal := plainLiteral text
  if underscoresBetweenDigits (isDigitOf 10) false literal then
    floatOfPlain? (literal.filter (· ≠ '_'))
  else none

end CompletionServer.Number
