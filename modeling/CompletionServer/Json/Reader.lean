import CompletionServer.Json.Basic
import CompletionServer.Number.Literal

/-!
# Reading JSON

A reader over the characters that remain. Besides the standard's values it takes the three words
for numbers that are not finite. Arrays and objects may stand inside each other to a limit. Each way
a text can fail has its own cause.
-/

namespace CompletionServer.Json

/-- Why a text is no JSON value. -/
inductive ReadError
  | byteOrderMark
  | value
  | itemSeparator
  | keySeparator
  | key
  | trailing
  | unterminated
  | control
  | escape
  | numberEscape
  /-- A whole number of too many digits. -/
  | tooLong (digits : Nat)
  /-- An array too many around what follows. -/
  | arrayTooDeep
  /-- An object too many around what follows. -/
  | objectTooDeep
  deriving DecidableEq, Repr

/-- The wording of an error; overlong numbers and values too deep are reported by rules of their
own. -/
def ReadError.message : ReadError → String
  | .byteOrderMark => "Unexpected UTF-8 BOM (decode using utf-8-sig)"
  | .value => "Expecting value"
  | .itemSeparator => "Expecting ',' delimiter"
  | .keySeparator => "Expecting ':' delimiter"
  | .key => "Expecting property name enclosed in double quotes"
  | .trailing => "Extra data"
  | .unterminated => "Unterminated string starting at"
  | .control => "Invalid control character at"
  | .escape => "Invalid \\escape"
  | .numberEscape => "Invalid \\uXXXX escape"
  | .tooLong _ | .arrayTooDeep | .objectTooDeep => ""

/-- The blanks between parts. -/
def isSpace (c : Char) : Bool :=
  c = ' ' || c = '\t' || c = '\n' || c = '\r'

/-- What follows the blanks at the front. -/
def skipSpace (chars : List Char) : List Char :=
  chars.dropWhile isSpace

/-- The unit that four hexadecimal digits spell; at least one character has to follow them. -/
def unit? : List Char → Option (Nat × List Char)
  | a :: b :: c :: d :: next :: rest =>
    if [a, b, c, d].all (Number.isDigitOf 16) then
      some (Number.spelled 16 [a, b, c, d], next :: rest)
    else none
  | _ => none

/-- The code point of an escape by number, the rest following its mark. Two halves of a pair in a
row are one code point. -/
def numberEscaped (chars : List Char) : Except ReadError (Nat × List Char) :=
  match unit? chars with
  | none => .error .numberEscape
  | some (unit, rest) =>
    if Text.Points.isHighHalf unit then
      match rest with
      | '\\' :: 'u' :: tail =>
        if tail.length ≤ 4 then .ok (unit, rest)
        else
          match unit? tail with
          | none => .error .numberEscape
          | some (low, after) =>
            if Text.Points.isLowHalf low then .ok (Text.Points.pairCode unit low, after)
            else .ok (unit, rest)
      | _ => .ok (unit, rest)
    else .ok (unit, rest)

/-- The character that a one-letter escape stands for. -/
def letterEscape? : Char → Option Char
  | '"' => some '"'
  | '\\' => some '\\'
  | '/' => some '/'
  | 'b' => some '\x08'
  | 'f' => some '\x0c'
  | 'n' => some '\n'
  | 'r' => some '\r'
  | 't' => some '\t'
  | _ => none

/-- Code points up to the closing quote, gathered in reverse. -/
def readString : (fuel : Nat) → (gathered : List Nat) → List Char →
    Except ReadError (Text.Points × List Char)
  | 0, _, _ => .error .unterminated
  | _ + 1, _, [] => .error .unterminated
  | fuel + 1, gathered, c :: rest =>
    if c = '"' then .ok (⟨gathered.reverse⟩, rest)
    else if c = '\\' then
      match rest with
      | [] => .error .unterminated
      | 'u' :: tail => do
        let (value, after) ← numberEscaped tail
        readString fuel (value :: gathered) after
      | letter :: tail =>
        match letterEscape? letter with
        | some value => readString fuel (value.toNat :: gathered) tail
        | none => .error .escape
    else if c.toNat ≤ 0x1f then .error .control
    else readString fuel (c.toNat :: gathered) rest

/-- Digits of the whole part: a single zero, or digits that begin with another. -/
def wholePart? : List Char → Option (List Char × List Char)
  | '0' :: rest => some (['0'], rest)
  | chars =>
    let (digits, rest) := Number.spanDigits chars
    if digits.isEmpty then none else some (digits, rest)

/-- A point with digits after it, or nothing. -/
def fractionPart (chars : List Char) : List Char × List Char :=
  match chars with
  | '.' :: tail =>
    let (digits, rest) := Number.spanDigits tail
    if digits.isEmpty then ([], chars) else (digits, rest)
  | _ => ([], chars)

/-- An exponent with digits, or nothing. -/
def exponentPart (chars : List Char) : Option Int × List Char :=
  match chars with
  | mark :: tail =>
    if mark = 'e' || mark = 'E' then
      let (negative, body) := Number.splitSign tail
      let (digits, rest) := Number.spanDigits body
      if digits.isEmpty then (none, chars)
      else
        let magnitude : Int := Number.spelled 10 digits
        (some (if negative then -magnitude else magnitude), rest)
    else (none, chars)
  | [] => (none, [])

/-- A number: whole unless it has a fraction or an exponent. -/
def readNumber (negative : Bool) (chars : List Char) : Except ReadError (Json × List Char) :=
  match wholePart? chars with
  | none => .error .value
  | some (whole, afterWhole) =>
    let (tail, afterTail) := fractionPart afterWhole
    let (exponent, rest) := exponentPart afterTail
    if tail.isEmpty && exponent.isNone then
      if Number.digitLimit < whole.length then .error (.tooLong whole.length)
      else
        let magnitude : Int := Number.spelled 10 whole
        .ok (.integer (if negative then -magnitude else magnitude), rest)
    else
      let literal : Number.DecimalLiteral := ⟨whole ++ tail, exponent.getD 0 - tail.length⟩
      .ok (.float (literal.toFloat negative), rest)

/-- What follows a word, if the characters begin with it. -/
def afterWord? (word : String) (chars : List Char) : Option (List Char) :=
  if word.toList.isPrefixOf chars then some (chars.drop word.length) else none

/-- The infinite number of a sign. -/
def infinity (negative : Bool) : Float :=
  Number.Binary64.nearest negative (Nat.pow 10 400) 1

/-- The words that stand for values. -/
def words : List (String × Json) :=
  [("null", .null), ("true", .bool true), ("false", .bool false), ("NaN", .float (0.0 / 0.0)),
   ("Infinity", .float (infinity false)), ("-Infinity", .float (infinity true))]

/-- A word at the front. -/
def readWord? (chars : List Char) : Option (Json × List Char) :=
  words.findSome? fun (word, value) => (afterWord? word chars).map fun rest => (value, rest)

/-- The number of arrays and objects that may stand around a value. -/
def depthLimit : Nat := 985

mutual

/-- One value at the front, inside which arrays and objects may stand `room` deep. -/
def readValue : (fuel room : Nat) → List Char → Except ReadError (Json × List Char)
  | 0, _, _ => .error .value
  | fuel + 1, room, chars =>
    match chars with
    | '"' :: rest => do
      let (value, after) ← readString (rest.length + 1) [] rest
      return (.text value, after)
    | '[' :: rest =>
      match room with
      | 0 => .error .arrayTooDeep
      | room + 1 =>
        match skipSpace rest with
        | ']' :: after => .ok (.array [], after)
        | start => readItems fuel room [] start
    | '\x7b' :: rest =>
      match room with
      | 0 => .error .objectTooDeep
      | room + 1 =>
        match skipSpace rest with
        | '\x7d' :: after => .ok (.object [], after)
        | start => readFields fuel room [] start
    | _ =>
      match readWord? chars with
      | some found => .ok found
      | none =>
        match chars with
        | '-' :: rest => readNumber true rest
        | _ => readNumber false chars

/-- Items up to the closing bracket, those before them given. -/
def readItems : (fuel room : Nat) → (before : List Json) → List Char →
    Except ReadError (Json × List Char)
  | 0, _, _, _ => .error .value
  | fuel + 1, room, before, chars => do
    let (item, rest) ← readValue fuel room chars
    match skipSpace rest with
    | ']' :: after => return (.array (before ++ [item]), after)
    | ',' :: after => readItems fuel room (before ++ [item]) (skipSpace after)
    | _ => throw .itemSeparator

/-- Fields up to the closing brace, those before them given. -/
def readFields : (fuel room : Nat) → (before : Fields) → List Char →
    Except ReadError (Json × List Char)
  | 0, _, _, _ => .error .value
  | fuel + 1, room, before, chars =>
    match chars with
    | '"' :: start => do
      let (key, rest) ← readString (start.length + 1) [] start
      match skipSpace rest with
      | ':' :: after =>
        let (value, rest) ← readValue fuel room (skipSpace after)
        match skipSpace rest with
        | '\x7d' :: after => return (.object (insertField before key value), after)
        | ',' :: after => readFields fuel room (insertField before key value) (skipSpace after)
        | _ => throw .itemSeparator
      | _ => throw .keySeparator
    | _ => .error .key

end

/-- The value of a whole text. No character is passed by more than two steps. -/
def read (text : String) : Except ReadError Json :=
  let chars := text.toList
  match chars with
  | '\ufeff' :: _ => .error .byteOrderMark
  | _ => do
    let (value, rest) ← readValue (2 * chars.length + 2) depthLimit (skipSpace chars)
    if (skipSpace rest).isEmpty then return value else throw .trailing

end CompletionServer.Json
