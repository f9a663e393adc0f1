import CompletionServer.Calendar
import CompletionServer.Number.Decimal
import CompletionServer.Number.Literal
import CompletionServer.Text.Points

/-!
# Single values

The values without parts that documents hold. A value has a plain text, used when it stands alone,
and a shown form, used when it stands inside a collection or a message.
-/

namespace CompletionServer

/-- A value without parts. -/
inductive Scalar
  | null
  | bool (value : Bool)
  | integer (value : Int)
  | float (value : Float)
  | text (value : Text.Points)
  | bytes (value : List UInt8)
  | date (value : Calendar.Date)
  | moment (value : Calendar.Moment)
  deriving DecidableEq

namespace Scalar

/-- A scalar that is there by default. -/
instance : Inhabited Scalar := ⟨.null⟩

/-- The form inside a collection: texts and bytes are quoted, dates spelled out. -/
def shown : Scalar → String
  | .null => "None"
  | .bool value => if value then "True" else "False"
  | .integer value => toString value
  | .float value => Number.floatText value
  | .text value => value.quoted
  | .bytes value => Text.quotedBytes value
  | .date value => value.shown
  | .moment value => value.shown

/-- Whether a value has a text: a whole number of too many digits has none. -/
def hasText : Scalar → Bool
  | .integer value => value.natAbs < Nat.pow 10 Number.digitLimit
  | _ => true

/-- The text of a value that stands alone. -/
def plain : Scalar → String
  | .text value => toString value
  | .date value => value.text
  | .moment value => value.text
  | other => other.shown

/-- Whether a value counts as given: nothing, zero and what is empty do not. -/
def isGiven : Scalar → Bool
  | .null => false
  | .bool value => value
  | .integer value => value != 0
  | .float value => value != 0.0
  | .text value => !value.isEmpty
  | .bytes value => !value.isEmpty
  | .date _ => true
  | .moment _ => true

/-- The fraction that a number or truth value stands for, none for the others. -/
def fraction? : Scalar → Option (Int × Nat)
  | .bool value => some (if value then 1 else 0, 1)
  | .integer value => some (value, 1)
  | .float value =>
    match Number.Binary64.ofFloat value with
    | .finite negative mantissa exponent =>
      let (numerator, denominator) := Number.Binary64.fraction mantissa exponent
      some (if negative then -(numerator : Int) else numerator, denominator)
    | _ => none
  | _ => none

/-- Whether two values are one key of a mapping. Numbers and truth values are compared by what
they stand for. -/
def sameKey (left right : Scalar) : Bool :=
  match left, right with
  | .null, .null => true
  | .text left, .text right => left == right
  | .bytes left, .bytes right => left == right
  | .date left, .date right => left == right
  | .moment left, .moment right => left.same right
  | left, right =>
    match left.fraction?, right.fraction? with
    | some (top, bottom), some (top', bottom') => top * bottom' == top' * bottom
    | none, none =>
      match left, right with
      | .float left, .float right => left == right || (left != left && right != right)
      | _, _ => false
    | _, _ => false

end Scalar

end CompletionServer
