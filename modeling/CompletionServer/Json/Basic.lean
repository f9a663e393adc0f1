import CompletionServer.Scalar

/-!
# JSON values

Values read from the introspection tool and written in answers. Texts and keys are lists of code
points. An object keeps the order in which its keys first came.
-/

namespace CompletionServer

/-- A JSON value. -/
inductive Json
  | null
  | bool (value : Bool)
  | integer (value : Int)
  | float (value : Float)
  | text (value : Text.Points)
  | array (items : List Json)
  | object (fields : List (Text.Points × Json))

namespace Json

/-- A value that is there by default. -/
instance : Inhabited Json := ⟨.null⟩

/-- The value without parts that a JSON value is, if it is one. -/
def scalar? : Json → Option Scalar
  | .null => some .null
  | .bool value => some (.bool value)
  | .integer value => some (.integer value)
  | .float value => some (.float value)
  | .text value => some (.text value)
  | .array _ => none
  | .object _ => none

/-- The fields of an object. -/
abbrev Fields := List (Text.Points × Json)

/-- A field put into an object: a known key keeps its place and takes the new value. -/
def insertField (fields : Fields) (key : Text.Points) (value : Json) : Fields :=
  if fields.any (·.1 == key) then
    fields.map fun field => if field.1 == key then (key, value) else field
  else fields ++ [(key, value)]

/-- The value under a key. -/
def field? (fields : Fields) (key : String) : Option Json :=
  (fields.find? (·.1 == Text.Points.ofString key)).map (·.2)

/-- Whether a value counts as given: nothing, zero and what is empty do not. -/
def isGiven : Json → Bool
  | .null => false
  | .bool value => value
  | .integer value => value != 0
  | .float value => value != 0.0
  | .text value => !value.isEmpty
  | .array items => !items.isEmpty
  | .object fields => !fields.isEmpty

mutual

/-- The form inside a collection. -/
def shown : Json → String
  | .null => Scalar.shown .null
  | .bool value => Scalar.shown (.bool value)
  | .integer value => Scalar.shown (.integer value)
  | .float value => Scalar.shown (.float value)
  | .text value => Scalar.shown (.text value)
  | .array items => "[" ++ ", ".intercalate (shownItems items) ++ "]"
  | .object fields => "\x7b" ++ ", ".intercalate (shownFields fields) ++ "\x7d"

/-- The forms of the items of an array. -/
def shownItems : List Json → List String
  | [] => []
  | item :: rest => item.shown :: shownItems rest

/-- The forms of the fields of an object. -/
def shownFields : List (Text.Points × Json) → List String
  | [] => []
  | (key, value) :: rest => (key.quoted ++ ": " ++ value.shown) :: shownFields rest

end

/-- The text of a value that stands alone. -/
def plain : Json → String
  | .text value => toString value
  | other => other.shown

end Json

end CompletionServer
