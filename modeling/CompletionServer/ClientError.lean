import CompletionServer.Fault

/-!
# Errors that a client sees

Each error names what the client did or what went wrong for it, and has one wording. All of them are
answered with one status.
-/

namespace CompletionServer

/-- Why introspection gave no candidates. -/
inductive IntrospectionError
  /-- The tool could not be started. -/
  | notStarted (binary : String) (error : SystemError)
  /-- The tool failed, with the last line of what it said or its exit code. -/
  | failed (detail : String)
  /-- The tool did not answer in time. -/
  | timedOut (seconds : Float)
  /-- The tool's answer is no JSON. -/
  | malformed (detail : String)
  /-- The tool's answer is no list. -/
  | notList
  /-- A message given from outside. -/
  | stated (text : String)

/-- The wording of an introspection error. -/
def IntrospectionError.message : IntrospectionError → String
  | .notStarted binary error => s!"Could not start {binary}: " ++ error.message
  | .failed detail => "Introspection failed: " ++ detail
  | .timedOut seconds => "Introspection timed out after " ++ Number.generalText seconds ++ "s"
  | .malformed detail => "Malformed introspection output: " ++ detail
  | .notList => "Malformed introspection output: expected a list"
  | .stated text => text

/-- An error that a client sees. -/
inductive ClientError
  | missingParameter (header hint : String)
  | invalidParameter (header value expected : String)
  | invalidOffset (value : String)
  | unknownRoute (path : String)
  | fileListUnavailable (reason : String)
  | unreadableFile (path reason : String)
  | introspection (error : IntrospectionError)
  | emptyResult

namespace ClientError

/-- The status of every client error. -/
def status : Nat := 400

/-- The header of a completion offset. -/
def offsetHeader : String := "X-Offset"

/-- What a completion offset has to be. -/
def offsetExpectation : String := "a non-negative integer byte offset"

/-- The wording of a header whose value cannot be used. -/
def invalidMessage (header value expected : String) : String :=
  s!"Invalid {header} " ++ Text.quoted value ++ s!": expected {expected}"

/-- The wording of a client error. -/
def message : ClientError → String
  | .missingParameter header hint => s!"Need {header}" ++ if hint = "" then "" else " " ++ hint
  | .invalidParameter header value expected => invalidMessage header value expected
  | .invalidOffset value => invalidMessage offsetHeader value offsetExpectation
  | .unknownRoute path => s!"Unknown route: {path}"
  | .fileListUnavailable reason =>
    "Could not generate file list" ++ if reason = "" then "" else ": " ++ reason
  | .unreadableFile path reason =>
    s!"Could not read file {path}" ++ if reason = "" then "" else s!" ({reason})"
  | .introspection error => error.message
  | .emptyResult => "empty"

end ClientError

end CompletionServer
