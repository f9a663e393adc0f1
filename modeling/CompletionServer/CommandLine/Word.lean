import CompletionServer.CommandLine.Flag
import CompletionServer.Text.DecimalDigit

/-!
# Words of the command line

Every argument is a value, a flag, something that looks like a flag, or the pair of dashes after
which all arguments are values. A flag may be cut short as long as one flag fits, and may carry a
value of its own.
-/

namespace CompletionServer.CommandLine

/-- A flag that was found in an argument. -/
structure Found where
  flag : Flag
  /-- The full spelling that was meant. -/
  spelling : String
  /-- The value that the argument carries: after an equals sign, or right after a single letter. -/
  carried : Option String
  deriving DecidableEq, Repr

/-- What an argument is. -/
inductive Word
  | value
  | dashes
  | flag (found : Found)
  /-- It looks like a flag and is none of the level's. -/
  | unknown
  deriving DecidableEq, Repr

/-- The text before the first equals sign, and the text after it if there is one. -/
def cutAtEquals (text : String) : String × Option String :=
  let chars := text.toList
  let front := chars.takeWhile (· ≠ '=')
  match chars.dropWhile (· ≠ '=') with
  | [] => (text, none)
  | _ :: rest => (String.ofList front, some (String.ofList rest))

/-- Digits only, and at least one. -/
def isDigits (chars : List Char) : Bool :=
  !chars.isEmpty && chars.all fun c => (Text.decimalDigit? c).isSome

/-- A whole number or a fraction without a sign. -/
def isPlainNumber (chars : List Char) : Bool :=
  isDigits chars ||
    match chars.dropWhile fun c => (Text.decimalDigit? c).isSome with
    | '.' :: fraction => isDigits fraction
    | _ => false

/-- Whether a text is a negative number. A line break at its end is overlooked. -/
def isNegativeNumber (text : String) : Bool :=
  match text.toList with
  | '-' :: rest =>
    isPlainNumber rest || (rest.getLast? = some '\n' && isPlainNumber rest.dropLast)
  | _ => false

/-- The flags that a text which begins with a dash may be cut short from. -/
def fitting (level : Level) (text : String) : List Found :=
  match text.toList with
  | '-' :: '-' :: _ =>
    let (front, carried) := cutAtEquals text
    level.spelled.filterMap fun (spelling, flag) =>
      if front.toList.isPrefixOf spelling.toList then
        some ⟨flag, spelling, carried⟩
      else none
  | '-' :: letter :: rest =>
    level.spelled.filterMap fun (spelling, flag) =>
      if spelling.toList = ['-', letter] then
        some ⟨flag, spelling, some (String.ofList rest)⟩
      else if text.toList.isPrefixOf spelling.toList then some ⟨flag, spelling, none⟩
      else none
  | _ => []

/-- A flag written in full, alone or with a value after an equals sign. -/
def writtenInFull (level : Level) (text : String) : Option Found :=
  match level.flag? text with
  | some flag => some ⟨flag, text, none⟩
  | none =>
    match cutAtEquals text with
    | (front, some value) => (level.flag? front).map (⟨·, front, some value⟩)
    | (_, none) => none

/-- What an argument before the pair of dashes is. -/
def classify (level : Level) (text : String) : Except Misuse Word :=
  if !text.startsWith "-" || text = "-" then .ok .value
  else
    match writtenInFull level text with
    | some found => .ok (.flag found)
    | none =>
      match fitting level text with
      | [found] => .ok (.flag found)
      | [] =>
        if isNegativeNumber text || text.toList.contains ' ' then .ok .value else .ok .unknown
      | several => .error (.ambiguous text (several.map (·.spelling)))

/-- The arguments of a level with what each of them is. -/
def words (level : Level) : List String → Except Misuse (List (String × Word))
  | [] => .ok []
  | text :: rest =>
    if text = "--" then .ok ((text, .dashes) :: rest.map (·, .value))
    else do
      let word ← classify level text
      let others ← words level rest
      return (text, word) :: others

/-- Whether a one-letter flag that takes no value may carry the given characters: each of them has
to be a one-letter flag itself. What follows the last flag that is one is needless. -/
def standsAlone (level : Level) (flag : Flag) : List Char → Except Misuse Unit
  | [] => .error (.needlessValue flag "")
  | letter :: rest =>
    match level.flag? (String.ofList ['-', letter]) with
    | none => .error (.needlessValue flag (String.ofList (letter :: rest)))
    | some next => if rest.isEmpty then .ok () else standsAlone level next rest

end CompletionServer.CommandLine
