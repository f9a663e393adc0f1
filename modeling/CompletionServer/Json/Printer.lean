import CompletionServer.Json.Basic

/-!
# Writing JSON

The compact form: no blanks between parts, and every character as itself but the quote, the
backslash and the controls. Half of a pair is written by its number, and numbers that are not finite
are written as words.
-/

namespace CompletionServer.Json

/-- One character inside a string. -/
def stringChar (c : Char) : List Char :=
  match c with
  | '"' => ['\\', '"']
  | '\\' => ['\\', '\\']
  | '\n' => ['\\', 'n']
  | '\r' => ['\\', 'r']
  | '\t' => ['\\', 't']
  | '\x08' => ['\\', 'b']
  | '\x0c' => ['\\', 'f']
  | c => if c.toNat < 0x20 then '\\' :: 'u' :: Text.hexDigits 4 c.toNat else [c]

/-- One code point inside a string. -/
def stringCode (code : Nat) : List Char :=
  if code.isValidChar then stringChar (Char.ofNat code) else '\\' :: 'u' :: Text.hexDigits 4 code

/-- A string between quotes. -/
def printString (text : Text.Points) : String :=
  String.ofList ('"' :: text.codes.flatMap stringCode ++ ['"'])

/-- A double: the fewest digits that read back, or a word. -/
def printFloat (value : Float) : String :=
  match Number.Binary64.ofFloat value with
  | .nan => "NaN"
  | .infinite negative => if negative then "-Infinity" else "Infinity"
  | .finite _ _ _ => Number.floatText value

mutual

/-- The compact form of a value. -/
def print : Json → String
  | .null => "null"
  | .bool value => if value then "true" else "false"
  | .integer value => toString value
  | .float value => printFloat value
  | .text value => printString value
  | .array items => "[" ++ ",".intercalate (printItems items) ++ "]"
  | .object fields => "\x7b" ++ ",".intercalate (printFields fields) ++ "\x7d"

/-- The forms of the items of an array. -/
def printItems : List Json → List String
  | [] => []
  | item :: rest => item.print :: printItems rest

/-- The forms of the fields of an object. -/
def printFields : List (Text.Points × Json) → List String
  | [] => []
  | (key, value) :: rest => (printString key ++ ":" ++ value.print) :: printFields rest

end

end CompletionServer.Json
