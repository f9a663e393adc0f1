import CompletionServer.Encoding.Base64
import CompletionServer.Text.LetterCase
import CompletionServer.Yaml.Problem

/-!
# Kinds of YAML scalars

A scalar without a written tag takes its kind from its text: truth words, numbers in several
notations, nothing, and moments are recognised; all else is text. A line end behind such a text is
overlooked. Each kind reads its value from the whole text, also when the tag was written and the
text has another form.
-/

namespace CompletionServer.Yaml

/-- The kind of a node. -/
inductive Kind
  | null
  | bool
  | integer
  | float
  | binary
  | moment
  | text
  | sequence
  | mapping
  | set
  | orderedPairs
  | pairs
  | merge
  | value
  | unknown
  deriving DecidableEq, Repr

namespace Kind

/-- The kinds of the standard tags. -/
def names : List (String × Kind) :=
  [("null", .null), ("bool", .bool), ("int", .integer), ("float", .float), ("binary", .binary),
   ("timestamp", .moment), ("str", .text), ("seq", .sequence), ("map", .mapping), ("set", .set),
   ("omap", .orderedPairs), ("pairs", .pairs), ("merge", .merge), ("value", .value)]

/-- The kind that a full tag names. -/
def ofTag (tag : String) : Kind :=
  ((names.find? fun entry => "tag:yaml.org,2002:" ++ entry.1 == tag).map (·.2)).getD .unknown

/-- Words for truth values. -/
def truthWords : List (String × Bool) :=
  [("yes", true), ("no", false), ("true", true), ("false", false), ("on", true), ("off", false)]

/-- A truth word in lower case, in capitals, or with a capital first letter. -/
def isTruthWord (chars : List Char) : Bool :=
  truthWords.any fun (word, _) =>
    let lower := word.toList
    let upper := lower.map Char.toUpper
    chars == lower || chars == upper || chars == upper.take 1 ++ lower.drop 1

/-- A decimal digit in ASCII. -/
def isDigit (c : Char) : Bool := Number.isDigitOf 10 c

/-- A digit or an underscore. -/
def isSpaced (test : Char → Bool) (c : Char) : Bool := test c || c = '_'

/-- What follows an optional sign. -/
def afterSign (chars : List Char) : List Char := (Number.splitSign chars).2

/-- What follows a digit and the digits and underscores after it. -/
def afterNumber? : List Char → Option (List Char)
  | c :: rest => if isDigit c then some (rest.dropWhile (isSpaced isDigit)) else none
  | [] => none

/-- Nothing, or an exponent with its sign. -/
def isExponent : List Char → Bool
  | [] => true
  | mark :: sign :: digits =>
    (mark = 'e' || mark = 'E') && (sign = '+' || sign = '-') && !digits.isEmpty &&
      digits.all isDigit
  | _ => false

/-- What follows the groups of sixty at the front: a colon and one digit, or two below sixty. -/
def afterSixties : (fuel : Nat) → List Char → List Char
  | 0, chars => chars
  | fuel + 1, chars =>
    match chars with
    | ':' :: rest =>
      let (digits, after) := rest.span isDigit
      match digits with
      | [_] => afterSixties fuel after
      | [tens, _] => if tens.toNat ≤ 0x35 then afterSixties fuel after else chars
      | _ => chars
    | _ => chars

/-- A number with a point, an infinity, or the word for no number. -/
def isFloat (chars : List Char) : Bool :=
  let unsigned := afterSign chars
  let pointed :=
    match afterNumber? unsigned with
    | some ('.' :: rest) => isExponent (rest.dropWhile (isSpaced isDigit))
    | _ => false
  let bare :=
    match chars with
    | '.' :: rest => (afterNumber? rest).any isExponent
    | _ => false
  let sixties :=
    match afterNumber? unsigned with
    | some rest =>
      let after := afterSixties rest.length rest
      after.length < rest.length &&
        (match after with
        | '.' :: tail => tail.all (isSpaced isDigit)
        | _ => false)
    | none => false
  pointed || bare || sixties || [".inf", ".Inf", ".INF"].any (·.toList == unsigned) ||
    [".nan", ".NaN", ".NAN"].any (·.toList == chars)

/-- A whole number: binary, octal, decimal, hexadecimal, or in groups of sixty. -/
def isInteger (chars : List Char) : Bool :=
  let some' (test : Char → Bool) (digits : List Char) : Bool :=
    !digits.isEmpty && digits.all (isSpaced test)
  match afterSign chars with
  | ['0'] => true
  | '0' :: 'b' :: rest => some' (Number.isDigitOf 2) rest
  | '0' :: 'x' :: rest => some' (Number.isDigitOf 16) rest
  | '0' :: rest => some' (Number.isDigitOf 8) rest
  | c :: rest =>
    isDigit c &&
      (let tail := rest.dropWhile (isSpaced isDigit)
       (afterSixties tail.length tail).isEmpty)
  | [] => false

/-- The fields of a written moment. -/
structure MomentFields where
  year : Nat
  month : Nat
  day : Nat
  time : Option (Nat × Nat × Nat × Nat)
  distance : Option Int
  /-- Whether month and day have two digits each. -/
  isFull : Bool

/-- A number of at least `least` and at most `most` digits, and what follows. -/
def count? (least most : Nat) (chars : List Char) : Option (Nat × Nat × List Char) :=
  let digits := (chars.take most).takeWhile isDigit
  if digits.length < least then none
  else some (Number.spelled 10 digits, digits.length, chars.drop digits.length)

/-- What follows a given character. -/
def after? (c : Char) : List Char → Option (List Char)
  | found :: rest => if found = c then some rest else none
  | [] => none

/-- Microseconds from the digits of a fraction, six of them at most. -/
def microseconds (digits : List Char) : Nat :=
  Number.spelled 10 ((digits ++ List.replicate 6 '0').take 6)

/-- A distance from universal time up to the end of the text. -/
def distance? (chars : List Char) : Option (Option Int) :=
  match chars with
  | [] => some none
  | _ =>
    match chars.dropWhile fun c => c = ' ' || c = '\t' with
    | ['Z'] => some (some 0)
    | sign :: rest =>
      if sign = '+' || sign = '-' then do
        let (hours, _, rest) ← count? 1 2 rest
        let minutes ←
          match rest with
          | [] => some 0
          | ':' :: rest => do
            let (minutes, _, rest) ← count? 2 2 rest
            if rest.isEmpty then some minutes else none
          | _ => none
        let total : Int := hours * 60 + minutes
        return some (if sign = '-' then -total else total)
      else none
    | [] => none

/-- A time of day and a distance from universal time, up to the end of the text. -/
def time? (chars : List Char) : Option ((Nat × Nat × Nat × Nat) × Option Int) := do
  let rest ←
    match chars with
    | 'T' :: rest | 't' :: rest => some rest
    | c :: _ =>
      if c = ' ' || c = '\t' then some (chars.dropWhile fun c => c = ' ' || c = '\t') else none
    | [] => none
  let (hour, _, rest) ← count? 1 2 rest
  let (minute, _, rest) ← count? 2 2 (← after? ':' rest)
  let (second, _, rest) ← count? 2 2 (← after? ':' rest)
  let (fraction, rest) :=
    match rest with
    | '.' :: tail => tail.span isDigit
    | _ => ([], rest)
  let distance ← distance? rest
  return ((hour, minute, second, microseconds fraction), distance)

/-- The fields of a moment, if the text has the form of one. -/
def moment? (chars : List Char) : Option MomentFields := do
  let (year, _, rest) ← count? 4 4 chars
  let (month, monthDigits, rest) ← count? 1 2 (← after? '-' rest)
  let (day, dayDigits, rest) ← count? 1 2 (← after? '-' rest)
  let isFull := monthDigits == 2 && dayDigits == 2
  match rest with
  | [] => return ⟨year, month, day, none, none, isFull⟩
  | _ =>
    let (time, distance) ← time? rest
    return ⟨year, month, day, some time, distance, isFull⟩

/-- A moment as it is recognised without a tag: a date alone has all its digits. -/
def isMoment (chars : List Char) : Bool :=
  (moment? chars).any fun fields => fields.time.isSome || fields.isFull

/-- Characters without one line feed at their end. -/
def withoutLineEnd (chars : List Char) : List Char :=
  if chars.getLast? = some '\n' then chars.dropLast else chars

/-- The kind of a text that is not empty, the line end behind it left out. The marks of tags,
anchors and aliases have a kind without values. -/
def ofChars (chars : List Char) : Kind :=
  if isTruthWord chars then .bool
  else if isFloat chars then .float
  else if isInteger chars then .integer
  else if chars = ['<', '<'] then .merge
  else if ["~", "null", "Null", "NULL"].any (·.toList == chars) then .null
  else if isMoment chars then .moment
  else if chars = ['='] then .value
  else if chars = ['!'] || chars = ['&'] || chars = ['*'] then .unknown
  else .text

/-- The kind of a scalar without a written tag. -/
def ofText (text : String) : Kind :=
  if text = "" then .null else ofChars (withoutLineEnd text.toList)

end Kind

/-- The code points of a text without its underscores. -/
def withoutUnderscores (text : Text.Points) : List Nat :=
  text.codes.filter (· ≠ '_'.toNat)

/-- Whether code points begin with a minus, and what follows the sign if they begin with one. -/
def splitCodeSign : List Nat → Bool × List Nat
  | [] => (false, [])
  | code :: rest =>
    if code = '-'.toNat then (true, rest)
    else if code = '+'.toNat then (false, rest)
    else (false, code :: rest)

/-- The parts of a text between colons. -/
def colonParts (codes : List Nat) : List Text.Points :=
  (codes.splitOn ':'.toNat).map Text.Points.mk

/-- Code points in lower case. What is no character stays as it is, and parts the characters around
it. -/
def lowered (codes : List Nat) : List Nat :=
  let isChar (code : Nat) : Bool := decide code.isValidChar
  (codes.splitBy fun left right => isChar left == isChar right).flatMap fun run =>
    if run.all isChar then
      (Text.Points.ofString (Text.lowerCase (String.ofList (run.map Text.Points.charOf)))).codes
    else run

/-- The whole number in a base, or the fault of its text. -/
def wholeNumber (base : Nat) (text : Text.Points) : Except Problem Int :=
  match Number.integerIn base (String.ofList text.chars) with
  | .ok value => .ok value
  | .error error => .error (.fault (.integer base text error))

/-- The number that a text spells, or the fault of its text. -/
def floatNumber (text : Text.Points) : Except Problem Float :=
  match Number.float? (String.ofList text.chars) with
  | some value => .ok value
  | none => .error (.fault (.float text))

/-- The value of a whole number: underscores are skipped and the notation is told by its start. -/
def integerValue (text : Text.Points) : Except Problem Int := do
  let (negative, codes) := splitCodeSign (withoutUnderscores text)
  let magnitude ←
    match Text.Points.chars ⟨codes⟩ with
    | [] => throw (.fault .emptyNumber)
    | ['0'] => pure 0
    | '0' :: 'b' :: _ => wholeNumber 2 ⟨codes.drop 2⟩
    | '0' :: 'x' :: _ => wholeNumber 16 ⟨codes.drop 2⟩
    | '0' :: _ => wholeNumber 8 ⟨codes⟩
    | chars =>
      if chars.contains ':' then do
        let parts ← (colonParts codes).mapM (wholeNumber 10)
        pure (parts.foldl (fun value part => value * 60 + part) 0)
      else wholeNumber 10 ⟨codes⟩
  return if negative then -magnitude else magnitude

/-- Groups of sixty added to a sum from the last on, as doubles. No power of sixty may be beyond all
doubles. -/
def sixtiesSum : (sum : Float) → (power : Nat) → (reversed : List Float) → Except Problem Float
  | sum, _, [] => .ok sum
  | sum, power, part :: rest =>
    match Number.Binary64.ofInt? power with
    | some factor => sixtiesSum (sum + part * factor) (power * 60) rest
    | none => .error (.fault .beyondDouble)

/-- The value of a number with a point: underscores are skipped and case does not matter. The word
for no number has no value. -/
def floatValue (text : Text.Points) : Except Problem (Option Float) := do
  let lower := lowered (withoutUnderscores text)
  if lower.isEmpty then throw (.fault .emptyNumber)
  let (negative, codes) := splitCodeSign lower
  let chars := Text.Points.chars ⟨codes⟩
  if chars == ".nan".toList then return none
  let magnitude ←
    if chars == ".inf".toList then pure (1.0 / 0.0)
    else if chars.contains ':' then do
      sixtiesSum 0.0 1 (← (colonParts codes).mapM floatNumber).reverse
    else floatNumber ⟨codes⟩
  return some (if negative then -magnitude else magnitude)

/-- The value of a truth word, in any case. -/
def boolValue (text : Text.Points) : Except Problem Bool :=
  let lower : Text.Points := ⟨lowered text.codes⟩
  match Kind.truthWords.find? (Text.Points.ofString ·.1 == lower) with
  | some (_, value) => .ok value
  | none => .error (.fault (.truthWord lower))

/-- Bytes written in base sixty-four. -/
def binaryValue (text : String) : Except Problem (List UInt8) :=
  if text.toList.all (·.toNat < 0x80) then
    match Encoding.Base64.decode text with
    | some bytes => .ok bytes
    | none => .error (.malformed .badEncoding)
  else .error (.malformed .badEncoding)

/-- The date or moment that a text names, a line end behind it left out. -/
def momentValue (text : String) : Except Problem Scalar :=
  match Kind.moment? (Kind.withoutLineEnd text.toList) with
  | none => .error (.fault .notMoment)
  | some fields =>
    match fields.time with
    | none =>
      match Calendar.Date.make fields.year fields.month fields.day with
      | .ok date => .ok (.date date)
      | .error error => .error (.fault (.calendar error))
    | some (hour, minute, second, microsecond) =>
      match Calendar.Moment.make fields.year fields.month fields.day hour minute second microsecond
          fields.distance with
      | .ok moment => .ok (.moment moment)
      | .error error => .error (.fault (.calendar error))

end CompletionServer.Yaml
