import CompletionServer.Fault

/-!
# The kinds of errors

An error can be stated by the name of its kind and arguments. A kind may be a case of a broader one,
and is stated with as many arguments as it needs; those at the end may have a default.
-/

namespace CompletionServer

/-- The kinds of errors that can be stated by name. -/
inductive ErrorKind
  | completion
  | missingParameter
  | invalidParameter
  | invalidOffset
  | unknownRoute
  | fileListUnavailable
  | unreadableFile
  | introspection
  | emptyResult
  | load
  | refresh
  deriving DecidableEq

namespace ErrorKind

/-- All kinds. -/
def all : List ErrorKind :=
  [.completion, .missingParameter, .invalidParameter, .invalidOffset, .unknownRoute,
    .fileListUnavailable, .unreadableFile, .introspection, .emptyResult, .load, .refresh]

/-- The name of a kind. -/
def name : ErrorKind → String
  | .completion => "CompletionDaemonError"
  | .missingParameter => "MissingParameter"
  | .invalidParameter => "InvalidParameter"
  | .invalidOffset => "InvalidOffset"
  | .unknownRoute => "UnknownRoute"
  | .fileListUnavailable => "FileListUnavailable"
  | .unreadableFile => "UnreadableFile"
  | .introspection => "IntrospectionFailure"
  | .emptyResult => "EmptyResult"
  | .load => "ProjectLoadError"
  | .refresh => "ProjectRefreshFailure"

/-- The kind of a name. -/
def ofName? (name : String) : Option ErrorKind :=
  all.find? (·.name == name)

/-- A kind and the broader ones that it is a case of, the broadest last. -/
def lineage : ErrorKind → List ErrorKind
  | .completion => [.completion]
  | .load => [.load]
  | .invalidOffset => [.invalidOffset, .invalidParameter, .completion]
  | .refresh => [.refresh, .load]
  | kind => [kind, .completion]

/-- The names of what every error is a case of. -/
def roots : List String :=
  ["Exception", "BaseException", "object"]

/-- The names of all that a kind is a case of. -/
def lineageNames (kind : ErrorKind) : List String :=
  kind.lineage.map name ++ roots

/-- What an error is stated with: the names of the arguments that it has to have, and how many more
it may have. -/
structure Arguments where
  required : List String
  optional : Nat

/-- The kind that fixes the arguments of a kind. -/
def stated : ErrorKind → ErrorKind
  | .introspection => .completion
  | .refresh => .load
  | kind => kind

/-- The arguments of a kind. -/
def arguments (kind : ErrorKind) : Arguments :=
  match kind with
  | .completion | .introspection => ⟨["message"], 0⟩
  | .missingParameter => ⟨["header"], 1⟩
  | .invalidParameter => ⟨["header", "value", "expected"], 0⟩
  | .invalidOffset => ⟨["value"], 0⟩
  | .unknownRoute => ⟨["path"], 0⟩
  | .fileListUnavailable => ⟨[], 1⟩
  | .unreadableFile => ⟨["path"], 1⟩
  | .emptyResult => ⟨[], 0⟩
  | .load | .refresh => ⟨["project_file", "reason"], 0⟩

/-- Whether a kind can be stated with a number of arguments. -/
def checkCount (kind : ErrorKind) (given : Nat) : Except Fault Unit :=
  let needed := kind.arguments
  let least := needed.required.length
  if given < least then
    .error (.missingArguments kind.stated.name (needed.required.drop given))
  else if least + needed.optional < given then
    .error (.excessArguments kind.stated.name least needed.optional given)
  else .ok ()

end ErrorKind

end CompletionServer
