import CompletionServer.Introspection.Output
import CompletionServer.Project.State
import CompletionServer.Text.Lines

/-!
# Running the introspection tool

The tool is run once for a request, with the buffer's text, the offset and the compiler's arguments
on its command line. A run that fails is reported by the last line it wrote, or by its exit code.
-/

namespace CompletionServer.Introspection

/-- The compiler's arguments for a buffer of a project, in the order that the compiler needs. -/
def compilerArguments (state : Project.State) (filePath hint : String) : List String :=
  let target :=
    match state.platformTarget with
    | none | some "" => []
    | some target => ["-target", target]
  ["-module-name", state.moduleName, "-sdk", state.sdkRoot] ++ target ++
    state.frameworkSearchPaths.flatMap (fun path => ["-F", path]) ++ state.compilerFlags ++
    ["-c", filePath, hint] ++ state.sourceFiles

/-- The command line of a run. -/
def command (binary contents : String) (offset : Int) (arguments : List String) : List String :=
  [binary, "complete", "--text", contents, "--offset", toString offset, "--"] ++ arguments

/-- How a run ended: its exit code and what it printed. -/
structure Exit where
  code : Int
  stdout : List UInt8
  stderr : List UInt8
  deriving DecidableEq, Repr

/-- The last line of what a failed run wrote, or its exit code. -/
def failureDetail (exit : Exit) : String :=
  let written := Text.lines (Text.trim (Text.Utf8.decodeLossy exit.stderr))
  (written.getLast?).getD s!"exit status {exit.code}"

/-- The failure of a run that could not be started. -/
def startFailure (binary : String) : Fault → Failure
  | .system error => .refused (.introspection (.notStarted binary error))
  | fault => .fault fault

/-- The candidates that a finished run gives. -/
def Exit.candidates (exit : Exit) : Except Failure (List Candidate) :=
  if exit.code ≠ 0 then .error (.refused (.introspection (.failed (failureDetail exit))))
  else parseBytes exit.stdout

end CompletionServer.Introspection
