import CompletionServer.ErrorKind
import CompletionServer.Project.Sources
import CompletionServer.Project.State
import CompletionServer.Settings
import CompletionServer.Text.Lines
import CompletionServer.Yaml.Document

/-!
# Project definitions

A definition is a YAML mapping. Several spellings of a key mean the same field, and of several the
first counts. A list field may be a single text. Relative paths are seen from the directory of the
definition file.
-/

namespace CompletionServer.Project

/-- A field of a definition. -/
inductive Field
  | moduleName
  | sdk
  | target
  | frameworks
  | flags
  | sources
  deriving DecidableEq, Repr

/-- The name under which a field's value is kept. -/
def Field.name : Field → String
  | .moduleName => "module"
  | .sdk => "sdk"
  | .target => "target"
  | .frameworks => "frameworks"
  | .flags => "flags"
  | .sources => "sources"

/-- The spellings of keys and the fields they mean. -/
def spellings : List (String × Field) :=
  [("module", .moduleName), ("moduleName", .moduleName), ("module_name", .moduleName),
   ("sdk", .sdk), ("sdkRoot", .sdk), ("sdk_root", .sdk),
   ("target", .target), ("platformTarget", .target), ("platform_target", .target),
   ("frameworkSearchPaths", .frameworks), ("framework_search_paths", .frameworks),
   ("compilerFlags", .flags), ("compiler_flags", .flags), ("otherSwiftFlags", .flags),
   ("sources", .sources), ("sourceFiles", .sources)]

/-- The field that a key means. -/
def Field.ofKey? (key : String) : Option Field :=
  (spellings.find? (·.1 == key)).map (·.2)

/-- One pair of a definition added to the fields before it; only the first value of a field
counts. -/
def addField {α : Type} (fields : List (Field × α)) (pair : String × α) : List (Field × α) :=
  match Field.ofKey? pair.1 with
  | some field => if fields.any (·.1 == field) then fields else fields ++ [(field, pair.2)]
  | none => fields

/-- The fields that the pairs of a definition give, in the order of their first keys. -/
def fieldsOf {α : Type} (pairs : List (String × α)) : List (Field × α) :=
  pairs.foldl addField []

/-- Why a definition cannot be loaded. -/
inductive Reason
  | unreadable (error : SystemError)
  | malformed (cause : Yaml.Malformation)
  | notMapping
  | noModule
  | noSdk
  | notList (field : String)
  /-- A reason given from outside. -/
  | stated (text : String)

/-- The wording of a reason. -/
def Reason.text : Reason → String
  | .unreadable error => error.message
  | .malformed cause => "invalid YAML: " ++ cause.message
  | .notMapping => "top level must be a mapping"
  | .noModule => "missing 'module'"
  | .noSdk => "missing 'sdk' and no SKDAEMON_SDK_ROOT default"
  | .notList field => s!"'{field}' must be a string or a list of strings"
  | .stated text => text

/-- A definition that cannot be loaded. -/
structure LoadError where
  file : String
  reason : Reason

/-- The wording of a load error. -/
def LoadError.message (error : LoadError) : String :=
  s!"Could not load project {error.file}: " ++ error.reason.text

/-- How loading fails: by an error of the definition, or by a fault. -/
inductive LoadFailure
  | refused (error : LoadError)
  | fault (fault : Fault)

/-- A fault as a way for loading to fail. -/
def liftFault {α : Type} : Except Fault α → Except LoadFailure α
  | .ok value => .ok value
  | .error fault => .error (.fault fault)

/-- How loading fails if an error of some kind is raised from outside. -/
def LoadFailure.ofKind (kind : String) (arguments : List Json) : LoadFailure :=
  match ErrorKind.ofName? kind with
  | some kind =>
    match kind.checkCount arguments.length, arguments with
    | .ok (), [file, reason] => .refused ⟨file.plain, .stated reason.plain⟩
    | .error cause, _ => .fault cause
    | .ok (), _ => .fault (.raised kind.name (arguments.map .ofJson))
  | none => .fault (.ofKind kind (arguments.map .ofJson))

/-- What a field's value is, as far as lists of texts are concerned. An item that is nothing is
none. -/
inductive Shape
  | nothing
  | text (value : Text.Points)
  | list (items : List (Option Text.Points))
  | other
  deriving DecidableEq, Repr

/-- A field's value: whether it counts as given, its text, and its shape. Making a text can fail. -/
structure Datum where
  isGiven : Bool
  plain : Except Fault String
  shape : Except Fault Shape

/-- The texts of a list field, none for another shape. A single text is kept as it is; items that
are nothing or blank are left out. -/
def Shape.texts? : Shape → Option (List Text.Points)
  | .nothing => some []
  | .text value => some [value]
  | .list items =>
    some (items.filterMap fun item => item.filter fun text => Text.trim (toString text) ≠ "")
  | .other => none

/-- The texts of a list field, or why there are none. -/
def textList (file field : String) (shape : Shape) : Except LoadError (List Text.Points) :=
  match shape.texts? with
  | some texts => .ok texts
  | none => .error ⟨file, .notList field⟩

/-- The value of an item of a document. -/
def datumOf (document : Yaml.Document) (item : Yaml.Item) : Datum :=
  let shape : Except Fault Shape :=
    match item with
    | .scalar .null => .ok .nothing
    | .scalar (.text value) => .ok (.text value)
    | .scalar _ | .stray _ => .ok .other
    | .object number =>
      match document.objects[number]? with
      | some (.list items) | some (.tuple items) =>
        Shape.list <$> items.mapM fun item =>
          match item with
          | .scalar .null => .ok none
          | other => some <$> document.written other
      | _ => .ok .other
  ⟨document.isGiven item, document.plain item, shape⟩

/-- The pairs of a document's mapping, none if it is no mapping. An empty document is an empty
mapping. -/
def pairsOf? (document : Yaml.Document) : Option (List (Yaml.Item × Yaml.Item)) :=
  if !document.isGiven document.root then some []
  else
    match document.root with
    | .object number =>
      match document.objects[number]? with
      | some (.mapping pairs) => some pairs
      | _ => none
    | _ => none

/-- Pairs of a document with the texts of their keys. -/
def namedPairs (document : Yaml.Document) (pairs : List (Yaml.Item × Yaml.Item)) :
    Except Fault (List (String × Datum)) :=
  pairs.mapM fun (key, value) => do return (← document.plain key, datumOf document value)

/-- The value of a field. -/
def valueOf? (fields : List (Field × Datum)) (field : Field) : Option Datum :=
  (fields.find? (·.1 == field)).map (·.2)

/-- The text of a field if it counts as given, else another text. -/
def textOr (fields : List (Field × Datum)) (field : Field) (default : String) :
    Except Fault String :=
  match valueOf? fields field with
  | some datum => if datum.isGiven then datum.plain else .ok default
  | none => .ok default

/-- The state that the fields of a definition describe. -/
def stateOf (system : Files.System) (defaultSdkRoot : String) (file : Path)
    (fields : List (Field × Datum)) : Except LoadFailure State := do
  let fileText := toString file
  let refuse {α : Type} (reason : Reason) : Except LoadFailure α :=
    .error (.refused ⟨fileText, reason⟩)
  let lift {α : Type} : Except LoadError α → Except LoadFailure α
    | .ok value => .ok value
    | .error error => .error (.refused error)
  let trimmed (field : Field) (default : String) : Except LoadFailure String := do
    return Text.trim (← liftFault (textOr fields field default))
  let texts (field : Field) (name : String) : Except LoadFailure (List Text.Points) := do
    let shape ← liftFault (((valueOf? fields field).map (·.shape)).getD (.ok .nothing))
    lift (textList fileText name shape)
  let root := (← liftFault (system.resolve file)).parent
  let moduleName ← trimmed .moduleName ""
  if moduleName = "" then refuse .noModule
  let sdkRoot ← trimmed .sdk defaultSdkRoot
  if sdkRoot = "" then refuse .noSdk
  let target ← trimmed .target ""
  let frameworks ← texts .frameworks "frameworkSearchPaths"
  let flags ← texts .flags "compilerFlags"
  let sources ← texts .sources "sources"
  let frameworkPaths ← liftFault (frameworks.mapM (system.resolveText root))
  let sourceFiles ← liftFault (expandTexts system root sources)
  return {
    projectFile := fileText
    moduleName
    sdkRoot
    platformTarget := if target = "" then none else some target
    frameworkSearchPaths := frameworkPaths.map toString
    compilerFlags := flags.map toString
    sourceFiles }

/-- The state that a definition's text describes. -/
def parse (system : Files.System) (defaultSdkRoot : String) (text : String) (file : Path) :
    Except LoadFailure State :=
  match Yaml.Document.ofText text with
  | .error (.malformed cause) => .error (.refused ⟨toString file, .malformed cause⟩)
  | .error (.fault fault) => .error (.fault fault)
  | .ok document =>
    match pairsOf? document with
    | none => .error (.refused ⟨toString file, .notMapping⟩)
    | some pairs => do
      let named ← liftFault (namedPairs document pairs)
      stateOf system defaultSdkRoot file (fieldsOf named)

/-- The state that a definition file describes. Its line ends may be of any kind. -/
def load (system : Files.System) (defaultSdkRoot : String) (file : Path) :
    Except LoadFailure State :=
  match system.read file with
  | .error (.system error) => .error (.refused ⟨toString file, .unreadable error⟩)
  | .error fault => .error (.fault fault)
  | .ok bytes =>
    match Text.Utf8.decode bytes with
    | .error damage => .error (.fault (.undecodable bytes damage))
    | .ok text =>
      parse system defaultSdkRoot (String.ofList (Text.unifyLineEnds text.toList)) file

end CompletionServer.Project
