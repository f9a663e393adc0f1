import CompletionServer.Machine
import CompletionServer.Project.Definition

/-!
# The published project

A manager keeps the project state that requests work with. Loading and refreshing take turns at one
lock, build a whole new state, and only then publish it, so that a failure leaves the published
state as it was. Loading fails to its caller; a refresh that fails is remembered and reported as
such.

Operations run side by side and may be cancelled while they wait or work. `Manager.step` says what
each event does, and `Manager.play` where a run leads.
-/

namespace CompletionServer.Project

namespace Manager

/-- What an operation does. -/
inductive Task
  | load
  | refresh
  deriving DecidableEq, Repr

/-- An operation that has begun. -/
structure Operation where
  number : Nat
  task : Task
  deriving DecidableEq, Repr

/-- What the caller of an operation gets. -/
inductive Answer
  /-- A state is returned. -/
  | state (state : State)
  /-- It is returned whether there is a new state. -/
  | flag (succeeded : Bool)
  /-- A failure is raised. -/
  | raised (failure : LoadFailure)
  /-- The caller has given the operation up. -/
  | cancelled

/-- Something that happens to a manager. -/
inductive Event
  /-- An operation begins and waits for its turn. -/
  | begin (task : Task)
  /-- An operation gets the lock. -/
  | acquire (number : Nat)
  /-- The operation that holds the lock has loaded the definition, or failed to. -/
  | finish (number : Nat) (outcome : Except LoadFailure State)
  /-- An operation is given up. -/
  | cancel (number : Nat)

end Manager

/-- The keeper of the published project state. -/
structure Manager where
  /-- The definition file. -/
  file : Path
  /-- The published state. -/
  state : Option State
  /-- How many refreshes have published a state. -/
  refreshCount : Nat
  /-- Why the latest refresh failed, if it did. -/
  lastError : Option LoadError
  /-- The operations that have begun and not ended, in the order in which they began. -/
  operations : List Manager.Operation
  /-- The operation that holds the lock. -/
  holder : Option Nat
  /-- The number of the next operation. -/
  next : Nat
  /-- The operations that have ended, in the order of their ends, and what their callers got. -/
  ended : List (Manager.Operation × Manager.Answer)

namespace Manager

/-- A manager of a definition file that has loaded nothing. -/
def create (file : Path) : Manager := ⟨file, none, 0, none, [], none, 0, []⟩

/-- The published state. -/
def current (manager : Manager) : Except Fault State :=
  match manager.state with
  | some state => .ok state
  | none => .error .notLoaded

/-- Whether a state has been published. -/
def isLoaded (manager : Manager) : Bool := manager.state.isSome

/-- Whether an operation holds the lock. -/
def isRefreshing (manager : Manager) : Bool := manager.holder.isSome

/-- The operation with a number, while it has not ended. -/
def operation? (manager : Manager) (number : Nat) : Option Operation :=
  manager.operations.find? (·.number = number)

/-- The error that is kept when refreshing fails. A fault is described by kind and arguments. -/
def refreshError (file : Path) : LoadFailure → LoadError
  | .refused error => error
  | .fault fault => ⟨toString file, .stated fault.described⟩

/-- An operation has ended: its lock, if it holds it, is free again. -/
def close (manager : Manager) (operation : Operation) (answer : Answer) : Manager :=
  { manager with
    operations := manager.operations.filter (·.number ≠ operation.number)
    holder := if manager.holder = some operation.number then none else manager.holder
    ended := manager.ended ++ [(operation, answer)] }

/-- What the end of an operation leaves behind. Only success publishes. -/
def record (manager : Manager) (task : Task) (outcome : Except LoadFailure State) : Manager :=
  match task, outcome with
  | .load, .ok state => { manager with state := some state }
  | .load, .error _ => manager
  | .refresh, .ok state =>
    { manager with
      state := some state
      refreshCount := manager.refreshCount + 1
      lastError := none }
  | .refresh, .error failure =>
    { manager with lastError := some (refreshError manager.file failure) }

/-- What the caller of an operation with an outcome gets. Only loading raises its failure. -/
def Answer.of : Task → Except LoadFailure State → Answer
  | .load, .ok loaded => .state loaded
  | .load, .error failure => .raised failure
  | .refresh, .ok _ => .flag true
  | .refresh, .error _ => .flag false

/-- The manager after an event, none if the event cannot happen. The lock goes to the operation
that has waited longest. -/
def step (manager : Manager) : Event → Option Manager
  | .begin task =>
    some { manager with
      operations := manager.operations ++ [⟨manager.next, task⟩]
      next := manager.next + 1 }
  | .acquire number =>
    if manager.holder.isNone && manager.operations.head?.map (·.number) = some number then
      some { manager with holder := some number }
    else none
  | .finish number outcome =>
    if manager.holder = some number then
      (manager.operation? number).map fun operation =>
        (manager.record operation.task outcome).close operation (.of operation.task outcome)
    else none
  | .cancel number =>
    (manager.operation? number).map fun operation => manager.close operation .cancelled

/-- The manager after some events in order, none if one of them cannot happen. -/
abbrev play (manager : Manager) (events : List Event) : Option Manager :=
  Machine.play step manager events

/-- One operation from beginning to end, with nothing in between. -/
def perform (manager : Manager) (task : Task) (outcome : Except LoadFailure State) : Manager :=
  (manager.play [.begin task, .acquire manager.next, .finish manager.next outcome]).getD manager

/-- The manager after it was asked to load, and what the caller gets. -/
def load (manager : Manager) (outcome : Except LoadFailure State) :
    Except LoadFailure State × Manager :=
  (outcome, manager.perform .load outcome)

/-- The manager after it was asked to refresh, and whether that succeeded. -/
def refresh (manager : Manager) (outcome : Except LoadFailure State) : Bool × Manager :=
  (outcome matches .ok _, manager.perform .refresh outcome)

/-- Several refreshes that begin together, all with one outcome. -/
def refreshTogether (manager : Manager) (count : Nat) (outcome : Except LoadFailure State) :
    List Bool × Manager :=
  let numbers := (List.range count).map (manager.next + ·)
  let events := numbers.map (fun _ => .begin .refresh) ++
    numbers.flatMap fun number => [.acquire number, .finish number outcome]
  (numbers.map fun _ => outcome matches .ok _, (manager.play events).getD manager)

end Manager

end CompletionServer.Project
