import CompletionServer.Proofs.Project.Definition
import CompletionServer.Proofs.Project.Faults
import CompletionServer.Proofs.Text.Strict

/-!
# How loading ends

Loading a definition goes through parts in a fixed order. `Fails` says of each part, whatever the
others do, how it fails: by a refusal, which names the definition's file, or by a fault, where
nothing makes a refusal of it. Loading ends as the first part that fails, and with a state if none
does. Most of what goes wrong is refused, but a file whose bytes are no text is not.
-/

namespace CompletionServer.Project

open Files Outcome

/-! ## Stages -/

/-- The parts of loading a definition. -/
inductive Stage
  | contents
  | text
  | document
  | topLevel
  | keys
  | place
  | field (field : Field)
  | frameworkPaths
  | sourceFiles

/-- What stands for a text field that is missing, and what it is refused for if that is blank. -/
def Field.requirement? (sdk : String) : Field → Option (String × Reason)
  | .moduleName => some ("", .noModule)
  | .sdk => some (sdk, .noSdk)
  | .target | .frameworks | .flags | .sources => none

/-- The reason for which a required field is refused is none that something else stated. -/
theorem Field.ne_stated_of_requirement? {sdk default : String} {field : Field} {reason : Reason}
    (required : field.requirement? sdk = some (default, reason)) (text : String) :
    reason ≠ .stated text := by
  cases field with
  | moduleName =>
    cases required
    simp
  | sdk =>
    cases required
    simp
  | _ => cases required

/-- The name by which a list field is refused. -/
def Field.listName : Field → String
  | .frameworks => "frameworkSearchPaths"
  | .flags => "compilerFlags"
  | other => other.name

/-- How the value of a field fails: its text or that of an item cannot be made, it is blank where a
text has to be, or it is no list where one has to be. -/
inductive FieldFails (sdk : String) (file : Path) (document : Yaml.Document)
    (pairs : List (Yaml.Item × Yaml.Item)) : Field → LoadFailure → Prop
  | text {field : Field} {item : Yaml.Item} {fault : Fault} (single : field.isList = false)
      (value : valueIn? document pairs field = some item) (given : document.isGiven item = true)
      (illegible : document.plain item = .error fault) :
      FieldFails sdk file document pairs field (.fault fault)
  | blank {field : Field} {default text : String} {reason : Reason}
      (required : field.requirement? sdk = some (default, reason))
      (value : TextIn document (valueIn? document pairs field) default text)
      (blank : Text.isBlankText text = true) :
      FieldFails sdk file document pairs field (.refused ⟨toString file, reason⟩)
  | entry {field : Field} {item : Yaml.Item} {items : List Yaml.Item} {fault : Fault}
      (list : field.isList = true) (value : valueIn? document pairs field = some item)
      (sequence : IsSequence document item items)
      (illegible : FirstFailure (fun entry cause => document.plain entry = .error cause) fault
        items) :
      FieldFails sdk file document pairs field (.fault fault)
  | notList {field : Field} {item : Yaml.Item} (list : field.isList = true)
      (value : valueIn? document pairs field = some item) (other : ¬IsListLike document item) :
      FieldFails sdk file document pairs field
        (.refused ⟨toString file, .notList field.listName⟩)

/-- A file holds a text: its bytes are those of one that differs from it in line ends only. -/
def HoldsText (system : System) (file : Path) (text : String) : Prop :=
  ∃ raw, system.read file = .ok (Text.Utf8.encode raw) ∧
    text = String.ofList (Text.unifyLineEnds raw.toList)

/-- The text that a file holds is a document with some pairs at its top. -/
structure Defines (system : System) (file : Path) (document : Yaml.Document)
    (pairs : List (Yaml.Item × Yaml.Item)) : Prop where
  given : ∃ text, HoldsText system file text ∧ Yaml.Document.ofText text = .ok document
  top : TopLevel document pairs

/-- How each part of loading fails, whatever the others do. -/
inductive Fails (system : System) (sdk : String) (file : Path) : Stage → LoadFailure → Prop
  | unreadable {error : SystemError} (read : system.read file = .error (.system error)) :
      Fails system sdk file .contents (.refused ⟨toString file, .unreadable error⟩)
  | unread {fault : Fault} (read : system.read file = .error fault)
      (foreign : ∀ error, fault ≠ .system error) : Fails system sdk file .contents (.fault fault)
  | undecodable {bytes : List UInt8} {damage : Text.Utf8.Fault}
      (read : system.read file = .ok bytes) (damaged : Text.Utf8.decode bytes = .error damage) :
      Fails system sdk file .text (.fault (.undecodable bytes damage))
  | malformed {text : String} {cause : Yaml.Malformation} (holds : HoldsText system file text)
      (malformed : Yaml.Document.ofText text = .error (.malformed cause)) :
      Fails system sdk file .document (.refused ⟨toString file, .malformed cause⟩)
  | unmade {text : String} {fault : Fault} (holds : HoldsText system file text)
      (raised : Yaml.Document.ofText text = .error (.fault fault)) :
      Fails system sdk file .document (.fault fault)
  | notMapping {text : String} {document : Yaml.Document} (holds : HoldsText system file text)
      (made : Yaml.Document.ofText text = .ok document)
      (other : ∀ pairs, ¬TopLevel document pairs) :
      Fails system sdk file .topLevel (.refused ⟨toString file, .notMapping⟩)
  | key {document : Yaml.Document} {pairs : List (Yaml.Item × Yaml.Item)} {fault : Fault}
      (defines : Defines system file document pairs)
      (illegible : FirstFailure (fun pair cause => document.plain pair.1 = .error cause) fault
        pairs) :
      Fails system sdk file .keys (.fault fault)
  | place {fault : Fault} (lost : system.resolve file = .error fault) :
      Fails system sdk file .place (.fault fault)
  | field {document : Yaml.Document} {pairs : List (Yaml.Item × Yaml.Item)} {field : Field}
      {failure : LoadFailure} (defines : Defines system file document pairs)
      (fails : FieldFails sdk file document pairs field failure) :
      Fails system sdk file (.field field) failure
  | framework {document : Yaml.Document} {pairs : List (Yaml.Item × Yaml.Item)} {path : Path}
      {entries : List Text.Points} {fault : Fault} (defines : Defines system file document pairs)
      (resolved : system.resolve file = .ok path)
      (listed : Entries document (valueIn? document pairs .frameworks) entries)
      (lost : FirstFailure (fun entry cause => system.resolveText path.parent entry = .error cause)
        fault entries) :
      Fails system sdk file .frameworkPaths (.fault fault)
  | source {document : Yaml.Document} {pairs : List (Yaml.Item × Yaml.Item)} {path : Path}
      {patterns : List Text.Points} {fault : Fault} (defines : Defines system file document pairs)
      (resolved : system.resolve file = .ok path)
      (listed : Entries document (valueIn? document pairs .sources) patterns)
      (lost : FirstFailure (fun pattern cause =>
        textFiles system path.parent pattern = .error cause) fault patterns) :
      Fails system sdk file .sourceFiles (.fault fault)

section Uniqueness

variable {system : System} {file : Path} {document : Yaml.Document}
  {pairs : List (Yaml.Item × Yaml.Item)}

/-- A file holds one text. -/
theorem HoldsText.unique {text other : String} (holds : HoldsText system file text)
    (again : HoldsText system file other) : text = other := by
  obtain ⟨raw, read, rfl⟩ := holds
  obtain ⟨same, readSame, rfl⟩ := again
  have equal : Text.Utf8.encode raw = Text.Utf8.encode same :=
    Except.ok.inj (read.symm.trans readSame)
  have decoded := Text.Utf8.decode_eq_ok_iff.mpr equal
  rw [Text.Utf8.decode_eq_ok_iff.mpr rfl] at decoded
  rw [Except.ok.inj decoded]

/-- A file has one definition. -/
theorem Defines.unique {other : Yaml.Document} {others : List (Yaml.Item × Yaml.Item)}
    (defines : Defines system file document pairs) (again : Defines system file other others) :
    document = other ∧ pairs = others := by
  obtain ⟨⟨text, holds, made⟩, top⟩ := defines
  obtain ⟨⟨same, holdsSame, madeSame⟩, topSame⟩ := again
  rw [holds.unique holdsSame, madeSame] at made
  obtain rfl := Except.ok.inj made
  rw [← pairsOf?_eq_some_iff] at top topSame
  exact ⟨rfl, Option.some.inj (top.symm.trans topSame)⟩

/-- An item has one list of entries. -/
theorem Entries.unique {item? : Option Yaml.Item} {texts others : List Text.Points}
    (entries : Entries document item? texts) (again : Entries document item? others) :
    texts = others := by
  obtain ⟨shape, read, own⟩ := entries_iff.mpr entries
  obtain ⟨same, readSame, ownSame⟩ := entries_iff.mpr again
  obtain rfl := Except.ok.inj (read.symm.trans readSame)
  exact Option.some.inj (own.symm.trans ownSame)

end Uniqueness

/-! ## Fields -/

section Fields

variable {system : System} {sdk : String} {file : Path} {document : Yaml.Document}
  {pairs : List (Yaml.Item × Yaml.Item)} {fields : List (Field × Datum)} {field : Field}
  {failure : LoadFailure}

end Fields

/-! ## The whole of loading -/

section Loading

variable {system : System} {sdk : String} {file : Path} {document : Yaml.Document}
  {pairs : List (Yaml.Item × Yaml.Item)} {fields : List (Field × Datum)} {failure : LoadFailure}

/-- The text that bytes are, with line ends of one kind. -/
def textOf (bytes : List UInt8) : Except LoadFailure String :=
  match Text.Utf8.decode bytes with
  | .ok raw => .ok (String.ofList (Text.unifyLineEnds raw.toList))
  | .error damage => .error (.fault (.undecodable bytes damage))

end Loading

/-! ## Refusals and faults -/

/-- What nothing makes a refusal of: a file that cannot be read, but not by an error of the system;
bytes that are no text; what making the document raises; and what its texts and paths fail with. -/
inductive Uncaught (system : System) (file : Path) : Fault → Prop
  | stored {place : Place} {fault : Fault}
      (found : system.find true (toString file) = .ok (place, .unreadable fault))
      (foreign : ∀ error, fault ≠ .system error) : Uncaught system file fault
  | undecodable {bytes : List UInt8} {damage : Text.Utf8.Fault}
      (read : system.read file = .ok bytes) (damaged : Text.Utf8.decode bytes = .error damage) :
      Uncaught system file (.undecodable bytes damage)
  | document {text : String} {fault : Fault} (holds : HoldsText system file text)
      (raised : Yaml.Document.ofText text = .error (.fault fault)) : Uncaught system file fault
  | text {fault : Fault} (unmade : Yaml.TextFault fault) : Uncaught system file fault
  | path {fault : Fault} (lost : PathFault system fault) : Uncaught system file fault

section Endings

variable {system : System} {sdk : String} {file : Path} {stage : Stage}

/-- A part that refuses names the file, and gives a reason of its own. -/
theorem Fails.of_refused {error : LoadError}
    (fails : Fails system sdk file stage (.refused error)) :
    error.file = toString file ∧ ∀ text, error.reason ≠ .stated text := by
  cases fails with
  | unreadable _ => exact ⟨rfl, by simp⟩
  | malformed _ _ => exact ⟨rfl, by simp⟩
  | notMapping _ _ _ => exact ⟨rfl, by simp⟩
  | field _ own =>
    cases own with
    | notList _ _ _ => exact ⟨rfl, by simp⟩
    | blank required _ _ => exact ⟨rfl, Field.ne_stated_of_requirement? required⟩

/-- A fault of reading that is no error of the system is not caught. -/
theorem Uncaught.of_read {fault : Fault} (read : system.read file = .error fault)
    (foreign : ∀ error, fault ≠ .system error) : Uncaught system file fault := by
  unfold System.read at read
  dsimp only at read
  split at read
  · cases read
    exact .path .nul
  · split at read
    · cases read
    · next found =>
      cases read
      exact .stored found foreign
    all_goals
      cases read
      exact absurd rfl (foreign _)

/-- A part that does not refuse fails with what nothing makes a refusal of. -/
theorem Fails.uncaught {fault : Fault} (fails : Fails system sdk file stage (.fault fault)) :
    Uncaught system file fault := by
  cases fails with
  | unread read foreign => exact .of_read read foreign
  | undecodable read damaged => exact .undecodable read damaged
  | unmade holds raised => exact .document holds raised
  | key _ illegible =>
    obtain ⟨pair, -, own⟩ := illegible.exists
    exact .text (.of_plain own)
  | place lost => exact .path (.of_resolve lost)
  | field _ own =>
    cases own with
    | text _ _ _ illegible => exact .text (.of_plain illegible)
    | entry _ _ _ illegible =>
      obtain ⟨entry, -, own⟩ := illegible.exists
      exact .text (.of_plain own)
  | framework _ _ _ lost =>
    obtain ⟨entry, -, own⟩ := lost.exists
    exact .path (.of_resolveText own)
  | source _ _ _ lost =>
    obtain ⟨pattern, -, own⟩ := lost.exists
    exact .path (.of_textFiles own)

end Endings

end CompletionServer.Project
