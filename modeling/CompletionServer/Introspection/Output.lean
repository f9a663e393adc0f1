import CompletionServer.Candidate
import CompletionServer.Failure
import CompletionServer.Json.Reader
import CompletionServer.Text.Blank

/-!
# What the introspection tool prints

The tool prints a JSON array. Its objects are candidates; all else in it is passed over. A field
that counts as not given is empty, and a value that is no text stands by its text.
-/

namespace CompletionServer.Introspection

/-- The text of the first of several keys whose value counts as given. -/
def fieldText (fields : Json.Fields) (keys : List String) : Option String :=
  keys.findSome? fun key =>
    match Json.field? fields key with
    | some value => if value.isGiven then some value.plain else none
    | none => none

/-- The candidate that an object describes. -/
def candidateOf (fields : Json.Fields) : Candidate where
  sourceText := (fieldText fields ["sourcetext", "sourceText"]).getD ""
  descriptionKey := (fieldText fields ["descriptionKey"]).getD ""
  moduleName := fieldText fields ["moduleName"]
  contextTag := (fieldText fields ["context"]).getD ""
  name := (fieldText fields ["name"]).getD ""
  kind := (fieldText fields ["kind"]).getD ""
  typeName := (fieldText fields ["typeName"]).getD ""

/-- The candidates among the items of an array. -/
def candidatesOf (items : List Json) : List Candidate :=
  items.filterMap fun item =>
    match item with
    | .object fields => some (candidateOf fields)
    | _ => none

/-- How the work on an array or an object is called. -/
def decodingWork (collection : String) : String :=
  s!" while decoding a JSON {collection} from a unicode string"

/-- The candidates that a printed text describes. A blank text describes none. -/
def parseText (text : String) : Except Failure (List Candidate) :=
  if Text.isBlankText text then .ok []
  else
    match Json.read text with
    | .error (.tooLong digits) => .error (.fault (.integer 10 "" (.tooLong digits)))
    | .error .arrayTooDeep => .error (.fault (.tooDeep (decodingWork "array")))
    | .error .objectTooDeep => .error (.fault (.tooDeep (decodingWork "object")))
    | .error error => .error (.refused (.introspection (.malformed error.message)))
    | .ok (.array items) => .ok (candidatesOf items)
    | .ok _ => .error (.refused (.introspection .notList))

/-- The candidates that printed bytes describe; damaged bytes are replaced. -/
def parseBytes (bytes : List UInt8) : Except Failure (List Candidate) :=
  parseText (Text.Utf8.decodeLossy bytes)

end CompletionServer.Introspection
