import CompletionServer.Candidate
import CompletionServer.Fault
import CompletionServer.Number.Literal
import CompletionServer.Project.State
import CompletionServer.Request.Basic

/-!
# Records from JSON objects

A record is made from an object field by field. Texts have to be texts; whole numbers may also be
written as texts, as truth values, or as numbers without a fraction. All fields are looked at, and
every issue is reported in the order of the fields.
-/

namespace CompletionServer.Validation

/-- What is wrong with a field. -/
inductive Cause
  | missing
  | notText
  | notInteger
  | unreadableInteger
  | overlongInteger
  | fractionalNumber
  | notFinite
  | negative
  | notRelation
  | notList
  deriving DecidableEq, Repr

/-- The name of a cause. -/
def Cause.name : Cause → String
  | .missing => "missing"
  | .notText => "string_type"
  | .notInteger => "int_type"
  | .unreadableInteger => "int_parsing"
  | .overlongInteger => "int_parsing_size"
  | .fractionalNumber => "int_from_float"
  | .notFinite => "finite_number"
  | .negative => "greater_than_equal"
  | .notRelation => "enum"
  | .notList => "tuple_type"

/-- An issue: the field, with the place in a list if it is in one, and the cause. -/
structure Issue where
  location : String
  cause : Cause
  deriving DecidableEq, Repr

/-- The wording of issues. -/
def message (issues : List Issue) : String :=
  "; ".intercalate (issues.map fun issue => issue.location ++ ":" ++ issue.cause.name)

/-- A value or its issues. -/
abbrev Checked (α : Type) := Except (List Issue) α

/-- The issues of a value. -/
def issuesOf {α : Type} : Checked α → List Issue
  | .ok _ => []
  | .error issues => issues

/-- The fields of an object. -/
abbrev Fields := Json.Fields

/-- One issue of a field. -/
def fail {α : Type} (location : String) (cause : Cause) : Checked α :=
  .error [⟨location, cause⟩]

/-- A value that has to be a text, as its code points. -/
def pointsValue (location : String) : Json → Checked Text.Points
  | .text value => .ok value
  | _ => fail location .notText

/-- A value that has to be a text. -/
def textValue (location : String) (value : Json) : Checked String :=
  toString <$> pointsValue location value

/-- A text field with a default, or without one, as its code points. -/
def pointsField (fields : Fields) (name : String) (default : Option String) :
    Checked Text.Points :=
  match Json.field? fields name, default with
  | some value, _ => pointsValue name value
  | none, some text => .ok text
  | none, none => fail name .missing

/-- A text field with a default, or without one. -/
def textField (fields : Fields) (name : String) (default : Option String) : Checked String :=
  toString <$> pointsField fields name default

/-- A text field that may be nothing. -/
def optionalText (fields : Fields) (name : String) : Checked (Option String) :=
  match Json.field? fields name with
  | none | some .null => .ok none
  | some value => some <$> textValue name value

/-- A list of texts; each item that is none is an issue of its own. -/
def textList (fields : Fields) (name : String) : Checked (List String) :=
  match Json.field? fields name with
  | none => .ok []
  | some (.array items) =>
    let checked := items.zipIdx.map fun (item, place) => textValue s!"{name}.{place}" item
    match checked.flatMap issuesOf with
    | [] => .ok (items.filterMap fun item =>
        match item with
        | .text value => some (toString value)
        | _ => none)
    | issues => .error issues
  | some _ => fail name .notList

/-- A blank that may surround a whole number. -/
def isSurroundingBlank (c : Char) : Bool :=
  Number.isNumericBlank c

/-- The whole number that characters spell in its shortest form: digits without needless zeros,
after a minus sign if it is negative. -/
def numeral (chars : List Char) : Except Cause Int :=
  let (negative, digits) :=
    match chars with
    | '-' :: rest => (true, rest)
    | _ => (false, chars)
  let run := digits.takeWhile (Number.isDigitOf 10)
  if run.isEmpty || (run.head? = some '0' && 1 < run.length) then .error .unreadableInteger
  else if Number.digitLimit < run.length then .error .overlongInteger
  else if run.length < digits.length then .error .unreadableInteger
  else
    let magnitude : Int := Number.spelled 10 run
    .ok (if negative then -magnitude else magnitude)

/-- What follows a first zero. Zeros and underscores are skipped up to a digit or a minus sign;
before a point, and at the end, the character that was skipped last is kept. -/
def afterZeros : (last : Char) → List Char → Option (List Char)
  | last, [] => some [last]
  | last, c :: rest =>
    if c = '0' || c = '_' then afterZeros c rest
    else if Number.isDigitOf 10 c || c = '-' then some (c :: rest)
    else if c = '.' then some (last :: c :: rest)
    else none

/-- Characters without the zeros at their front. They have to begin with a digit or a minus sign. -/
def withoutZeros? : List Char → Option (List Char)
  | '0' :: rest => afterZeros '0' rest
  | c :: rest => if Number.isDigitOf 10 c || c = '-' then some (c :: rest) else none
  | [] => none

/-- Characters without a tail of a point and zeros. -/
def withoutZeroTail (chars : List Char) : List Char :=
  let (whole, tail) := chars.span (· ≠ '.')
  match tail with
  | '.' :: zeros => if !zeros.isEmpty && zeros.all (· = '0') then whole else chars
  | _ => chars

/-- Whether underscores stand one at a time, and neither first nor last. -/
def hasSingleUnderscores : List Char → Bool
  | [] => true
  | ['_'] => false
  | '_' :: '_' :: _ => false
  | _ :: rest => hasSingleUnderscores rest

/-- The shortest form of a whole number that is written freely: between blanks, with a plus sign,
with zeros at its front, with underscores between digits, with a tail of zeros after a point. -/
def shortened? (chars : List Char) : Option (List Char) := do
  let trimmed := ((chars.dropWhile isSurroundingBlank).reverse.dropWhile isSurroundingBlank).reverse
  let unsigned :=
    match trimmed with
    | '+' :: rest => rest
    | _ => trimmed
  let digits := withoutZeroTail (← withoutZeros? unsigned)
  if digits.head? ≠ some '_' && hasSingleUnderscores digits then some (digits.filter (· ≠ '_'))
  else none

/-- The whole number that a text spells, in its shortest form or written freely. Only in the
shortest form are too many digits an issue of their own. -/
def spelledInteger (text : String) : Except Cause Int :=
  match numeral text.toList with
  | .error .unreadableInteger =>
    match (shortened? text.toList).map numeral with
    | some (.ok value) => .ok value
    | _ => .error .unreadableInteger
  | outcome => outcome

/-- Beyond this magnitude, no double is turned into a whole number and no relation is looked up. -/
def wordLimit : Int := Int.pow 2 63

/-- The whole number that a value stands for. -/
def integerValue : Json → Except Cause Int
  | .integer value => .ok value
  | .bool value => .ok (if value then 1 else 0)
  | .text text => spelledInteger (toString text)
  | .float value =>
    match Number.Binary64.ofFloat value with
    | .finite negative mantissa exponent =>
      let (numerator, denominator) := Number.Binary64.fraction mantissa exponent
      if numerator % denominator = 0 then
        let magnitude : Int := numerator / denominator
        if wordLimit ≤ magnitude then .error .overlongInteger
        else .ok (if negative then -magnitude else magnitude)
      else .error .fractionalNumber
    | _ => .error .notFinite
  | _ => .error .notInteger

/-- A whole number that is not negative. -/
def naturalField (fields : Fields) (name : String) : Checked Nat :=
  match Json.field? fields name with
  | none => fail name .missing
  | some value =>
    match integerValue value with
    | .ok number => if number < 0 then fail name .negative else .ok number.toNat
    | .error cause => fail name cause

/-- A relation by its number. -/
def relationField (fields : Fields) (name : String) : Checked Relation :=
  match Json.field? fields name with
  | none => .ok .thisClass
  | some value =>
    match integerValue value with
    | .error _ => fail name .notRelation
    | .ok number =>
      if number < -wordLimit || wordLimit ≤ number then fail name .overlongInteger
      else
        match Relation.ofInt? number with
        | some relation => .ok relation
        | none => fail name .notRelation

/-- The relation that a value is the number of, be it whole or not. -/
def relationOf (value : Json) : Except Fault Relation :=
  let is (relation : Relation) : Bool :=
    value.scalar?.any (·.sameKey (.integer relation.toNat))
  if is .thisClass then .ok .thisClass
  else if is .superClass then .ok .superClass
  else .error (.relation value.shown)

/-- The inquiry that fields describe. -/
def inquiryOf (fields : Fields) : Checked Inquiry :=
  let filePath := pointsField fields "file_path" none
  let byteOffset := naturalField fields "byte_offset"
  let prefixText := textField fields "prefix" (some "")
  let cacheKey := pointsField fields "cache_key" (some "")
  let relation := relationField fields "relation_type"
  let sessionPrefix := textField fields "session_prefix" (some "")
  match filePath, byteOffset, prefixText, cacheKey, relation, sessionPrefix with
  | .ok filePath, .ok byteOffset, .ok prefixText, .ok cacheKey, .ok relation, .ok sessionPrefix =>
    .ok ⟨filePath, byteOffset, prefixText, cacheKey, relation, sessionPrefix⟩
  | _, _, _, _, _, _ =>
    .error (issuesOf filePath ++ issuesOf byteOffset ++ issuesOf prefixText ++
      issuesOf cacheKey ++ issuesOf relation ++ issuesOf sessionPrefix)

/-- The request that fields describe. -/
def requestOf (fields : Fields) : Checked Request :=
  Inquiry.request <$> inquiryOf fields

/-- The candidate that fields describe. -/
def candidateOf (fields : Fields) : Checked Candidate :=
  let text (name : String) := textField fields name (some "")
  let sourceText := text "source_text"
  let descriptionKey := text "description_key"
  let moduleName := optionalText fields "module_name"
  let contextTag := text "context_tag"
  let name := text "name"
  let kind := text "kind"
  let typeName := text "type_name"
  match sourceText, descriptionKey, moduleName, contextTag, name, kind, typeName with
  | .ok sourceText, .ok descriptionKey, .ok moduleName, .ok contextTag, .ok name, .ok kind,
      .ok typeName =>
    .ok ⟨sourceText, descriptionKey, moduleName, contextTag, name, kind, typeName⟩
  | _, _, _, _, _, _, _ =>
    .error (issuesOf sourceText ++ issuesOf descriptionKey ++ issuesOf moduleName ++
      issuesOf contextTag ++ issuesOf name ++ issuesOf kind ++ issuesOf typeName)

/-- The project state that fields describe. -/
def stateOf (fields : Fields) : Checked Project.State :=
  let projectFile := textField fields "project_file" none
  let moduleName := textField fields "module_name" none
  let sdkRoot := textField fields "sdk_root" none
  let platformTarget := optionalText fields "platform_target"
  let frameworks := textList fields "framework_search_paths"
  let flags := textList fields "extra_compiler_flags"
  let sources := textList fields "source_file_paths"
  match projectFile, moduleName, sdkRoot, platformTarget, frameworks, flags, sources with
  | .ok projectFile, .ok moduleName, .ok sdkRoot, .ok platformTarget, .ok frameworks, .ok flags,
      .ok sources =>
    .ok ⟨projectFile, moduleName, sdkRoot, platformTarget, frameworks, flags, sources⟩
  | _, _, _, _, _, _, _ =>
    .error (issuesOf projectFile ++ issuesOf moduleName ++ issuesOf sdkRoot ++
      issuesOf platformTarget ++ issuesOf frameworks ++ issuesOf flags ++ issuesOf sources)

end CompletionServer.Validation
