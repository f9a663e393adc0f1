import CompletionServer.Introspection.Command

/-!
# How a run of the introspection tool goes

A run cannot be started, ends and leaves its output, or does not end. A run that is given up is
killed and waited for, unless it has its return code already.
-/

namespace CompletionServer.Introspection

/-- How a run of the tool goes. -/
inductive Behaviour
  /-- It cannot be started. -/
  | refuses (fault : Fault)
  /-- It ends. -/
  | answers (exit : Exit)
  /-- Its output never ends, though it may have its return code already. -/
  | hangs (exited : Bool)

/-- A run that ends well and prints nothing. -/
def Behaviour.silent : Behaviour := .answers ⟨0, [], []⟩

/-- The return code of a child that was killed. -/
def killedCode : Int := -9

/-- Something done with a child process. -/
inductive Action
  | spawn (command : List String)
  | kill
  | wait
  deriving DecidableEq, Repr

/-- What is done with a child whose run is given up. -/
def giveUp (code : Option Int) : List Action :=
  if code.isNone then [.kill, .wait] else []

/-- A run with a command line, on its own: what is done, and the candidates. A run that hangs is
given up by whoever waits for it. -/
def run (command : List String) (binary : String) :
    Behaviour → List Action × Except Failure (List Candidate)
  | .refuses fault => ([.spawn command], .error (startFailure binary fault))
  | .answers exit => ([.spawn command], exit.candidates)
  | .hangs exited =>
    (.spawn command :: giveUp (if exited then some 0 else none), .error .cancelled)

end CompletionServer.Introspection
