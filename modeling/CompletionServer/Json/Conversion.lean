import CompletionServer.Fault

/-!
# Numbers from JSON values

A value that is asked for as a number may be a number, a truth value, or a text that spells one. A
whole number is cut toward zero.
-/

namespace CompletionServer.Json

/-- What a value is called in messages. -/
def kindName : Json → String
  | .null => "NoneType"
  | .bool _ => "bool"
  | .integer _ => "int"
  | .float _ => "float"
  | .text _ => "str"
  | .array _ => "list"
  | .object _ => "dict"

/-- The whole number that a value stands for. -/
def toInteger : Json → Except Fault Int
  | .integer value => .ok value
  | .bool value => .ok (if value then 1 else 0)
  | .float value =>
    match Number.Binary64.ofFloat value with
    | .nan => .error (.notFinite true)
    | .infinite _ => .error (.notFinite false)
    | .finite negative mantissa exponent =>
      let (numerator, denominator) := Number.Binary64.fraction mantissa exponent
      let magnitude : Int := numerator / denominator
      .ok (if negative then -magnitude else magnitude)
  | .text value =>
    match Number.integer (String.ofList value.chars) with
    | .ok number => .ok number
    | .error error => .error (.integer 10 value error)
  | value => .error (.notWhole value.kindName)

/-- The double that a value stands for. -/
def toFloat : Json → Except Fault Float
  | .float value => .ok value
  | .bool value => .ok (if value then 1.0 else 0.0)
  | .integer value =>
    match Number.Binary64.ofInt? value with
    | some number => .ok number
    | none => .error .beyondDouble
  | .text value =>
    match Number.float? (String.ofList value.chars) with
    | some number => .ok number
    | none => .error (.float value)
  | value => .error (.notReal value.kindName)

end CompletionServer.Json
