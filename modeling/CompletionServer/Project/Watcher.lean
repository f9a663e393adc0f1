import CompletionServer.Files.System

/-!
# Watching the definition file

A watcher subscribes to the changes of the definition's directory and asks for a refresh whenever a
batch of changes concerns the definition file. It waits for a directory that is missing, and
subscribes again after an error.

The watching is done by a loop of its own, which can be suspended at several points; `Watcher.step`
says what each event does there.
-/

namespace CompletionServer.Project

/-- How a file changed. -/
inductive ChangeKind
  | added
  | modified
  | deleted
  deriving DecidableEq, Repr

/-- A change of a file. -/
structure Change where
  kind : ChangeKind
  path : String
  deriving DecidableEq, Repr

/-- Whether a batch of changes concerns a file. Paths are compared after resolving their links, and
every kind of change counts. -/
def concerns (system : Files.System) (file : Path) (changes : List Change) : Except Fault Bool := do
  let target ← system.resolve file
  let rec look : List Change → Except Fault Bool
    | [] => .ok false
    | change :: rest => do
      if (← system.resolve (Path.ofString change.path)) = target then return true
      look rest
  look changes

/-- The directory that is watched for a definition file. -/
def watchedDirectory (system : Files.System) (file : Path) : Except Fault Path :=
  (·.parent) <$> system.resolve file

namespace Watcher

/-- What a watcher says about itself. -/
inductive Status
  | stopped
  | watching
  | refreshing
  deriving DecidableEq, Repr

/-- The word for a status. -/
def Status.name : Status → String
  | .stopped => "stopped"
  | .watching => "watching"
  | .refreshing => "refreshing"

/-- Where the watching loop is suspended. -/
inductive Loop
  /-- There is none. -/
  | absent
  /-- It has been made and has not run yet. -/
  | created
  /-- It waits before it looks for the directory again. -/
  | retrying (directory : Path)
  /-- It waits for the next batch of changes. -/
  | subscribed (directory : Path)
  /-- It waits for a refresh that it has asked for. -/
  | refreshing (directory : Path)
  deriving DecidableEq, Repr

/-- Something that happens to a watcher. -/
inductive Event
  /-- The watcher is asked to start. -/
  | start
  /-- The watcher is asked to stop. -/
  | stop
  /-- A loop that was told to end has ended. -/
  | unwind
  /-- The loop's end has been waited for, and the request to stop is done. -/
  | stopped
  /-- A new loop runs for the first time. -/
  | run (directory : Path) (isThere : Bool)
  /-- A batch arrives that concerns the definition file or does not. -/
  | deliver (concerned : Bool)
  /-- The refresh is over, in whatever way. -/
  | refreshed
  /-- The subscription breaks. -/
  | fail
  /-- The subscription comes to its end. -/
  | finish (isThere : Bool)
  /-- The wait is over. -/
  | retry (isThere : Bool)
  deriving DecidableEq, Repr

end Watcher

/-- A watcher of a definition file. -/
structure Watcher where
  status : Watcher.Status
  loop : Watcher.Loop
  /-- Whether a request to stop is under way, which waits for the loop's end. -/
  isStopping : Bool
  /-- The directory of every subscription so far. -/
  subscriptions : List Path
  /-- How many refreshes were asked for. -/
  refreshes : Nat
  deriving DecidableEq, Repr

namespace Watcher

/-- A watcher that has not been started. -/
def idle : Watcher := ⟨.stopped, .absent, false, [], 0⟩

/-- Whether the watcher is started. -/
def isRunning (watcher : Watcher) : Bool := watcher.status ≠ .stopped

/-- The loop looks for the directory: it subscribes, or waits if the directory is not there. -/
def look (watcher : Watcher) (directory : Path) (isThere : Bool) : Watcher :=
  if isThere then
    { watcher with
      loop := .subscribed directory
      subscriptions := watcher.subscriptions ++ [directory] }
  else { watcher with loop := .retrying directory }

/-- What the loop does with an event, none if it does not wait for it. -/
def advance (watcher : Watcher) : Loop → Event → Option Watcher
  | .created, .run directory isThere => some (watcher.look directory isThere)
  | .subscribed directory, .deliver true =>
    some { watcher with
      status := .refreshing
      loop := .refreshing directory
      refreshes := watcher.refreshes + 1 }
  | .subscribed _, .deliver false => some watcher
  | .refreshing directory, .refreshed =>
    some { watcher with status := .watching, loop := .subscribed directory }
  | .subscribed directory, .fail =>
    some { watcher with status := .watching, loop := .retrying directory }
  | .subscribed directory, .finish isThere => some (watcher.look directory isThere)
  | .retrying directory, .retry isThere => some (watcher.look directory isThere)
  | _, _ => none

/-- The watcher whose loop has ended where it was suspended. A loop that never ran says nothing
about it. -/
def unwound (watcher : Watcher) : Watcher :=
  { watcher with
    status := if watcher.loop = .created then watcher.status else .stopped
    loop := .absent }

/-- The watcher after an event, none if the event cannot happen. While a request to stop is under
way the loop only ends, and the request is done after that. -/
def step (watcher : Watcher) (event : Event) : Option Watcher :=
  if watcher.isStopping then
    match event with
    | .unwind => if watcher.loop = .absent then none else some watcher.unwound
    | .stopped =>
      if watcher.loop = .absent then some { watcher with status := .stopped, isStopping := false }
      else none
    | _ => none
  else
    match event with
    | .start =>
      if watcher.isRunning then some watcher
      else some { watcher with status := .watching, loop := .created }
    | .stop =>
      if watcher.loop = .absent then some { watcher with status := .stopped }
      else some { watcher with isStopping := true }
    | event => watcher.advance watcher.loop event

/-- The events that happen, those that cannot left out. -/
def follow (watcher : Watcher) (events : List Event) : Watcher :=
  events.foldl (fun watcher event => (watcher.step event).getD watcher) watcher

/-- The watcher after it was asked to stop and its loop, if there is one, has ended. -/
def halt (watcher : Watcher) : Watcher :=
  watcher.follow [.stop, .unwind, .stopped]

end Watcher

end CompletionServer.Project
