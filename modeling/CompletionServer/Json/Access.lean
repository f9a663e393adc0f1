import CompletionServer.Json.Basic

/-!
# Looking into JSON values

Short ways to the parts of a value whose shape is known. A part that is missing, or has another
shape, is read as the empty value of the shape asked for.
-/

namespace CompletionServer.Json

/-- The member of an object under a key. -/
def member? (value : Json) (key : String) : Option Json :=
  match value with
  | .object fields => field? fields key
  | _ => none

/-- The member under a key, none also if it is null. -/
def given? (value : Json) (key : String) : Option Json :=
  match value.member? key with
  | some .null => none
  | found => found

/-- The member under a key, null if there is none. -/
def member (value : Json) (key : String) : Json :=
  (value.member? key).getD .null

/-- The text of a value that is one. -/
def asText : Json → String
  | .text value => toString value
  | _ => ""

/-- The member under a key if it is a text. -/
def text? (value : Json) (key : String) : Option String :=
  match value.member? key with
  | some (.text found) => some (toString found)
  | _ => none

/-- The text under a key. -/
def textOf (value : Json) (key : String) : String :=
  (value.text? key).getD ""

/-- A whole number; a truth value counts as zero or one. -/
def asInt : Json → Int
  | .integer value => value
  | .bool value => if value then 1 else 0
  | _ => 0

/-- A number; a truth value counts as zero or one. -/
def asFloat : Json → Float
  | .float value => value
  | .integer value => Number.Binary64.ofInt value
  | .bool value => if value then 1.0 else 0.0
  | _ => 0.0

/-- A truth value. -/
def asBool : Json → Bool
  | .bool value => value
  | _ => false

/-- The items of an array. -/
def asList : Json → List Json
  | .array items => items
  | _ => []

/-- The fields of an object. -/
def asFields : Json → Fields
  | .object fields => fields
  | _ => []

/-- The object with the given keys and values. -/
def record (fields : List (String × Json)) : Json :=
  .object (fields.map fun (key, value) => (Text.Points.ofString key, value))

/-- The items under a key. -/
def listOf (value : Json) (key : String) : List Json :=
  (value.member key).asList

/-- An array of texts. -/
def texts (values : List String) : Json :=
  .array (values.map fun value => .text (Text.Points.ofString value))

/-- A text, or null. -/
def optionText : Option String → Json
  | some value => .text value
  | none => .null

mutual

/-- A value with every text in it changed, keys included. -/
def mapText (change : Text.Points → Text.Points) : Json → Json
  | .text value => .text (change value)
  | .array items => .array (mapItems change items)
  | .object fields => .object (mapFields change fields)
  | .null => .null
  | .bool value => .bool value
  | .integer value => .integer value
  | .float value => .float value

/-- Items with every text in them changed. -/
def mapItems (change : Text.Points → Text.Points) : List Json → List Json
  | [] => []
  | item :: rest => mapText change item :: mapItems change rest

/-- Fields with every text in them changed. -/
def mapFields (change : Text.Points → Text.Points) :
    List (Text.Points × Json) → List (Text.Points × Json)
  | [] => []
  | (key, value) :: rest => (change key, mapText change value) :: mapFields change rest

end

end CompletionServer.Json
