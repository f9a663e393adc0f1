import CompletionServer.Project.Manager
import Mathlib.Data.List.Basic

/-!
# What the events of a manager say about it

A manager takes events one by one. Everything about it can also be said from the list of events
that it has taken: which operations have got the lock, and in which order; which of them are over;
and what came of them. `Follows` says that a manager is what its events say, and every run keeps it
so.

The lock gives the events their order: an operation that finishes is the last one that got the lock,
so that outcomes come in the order in which the lock was got.
-/

namespace CompletionServer.Project.Manager

/-! ## What a step can do -/

/-- The ways in which an event changes a manager. -/
inductive Transition (manager : Manager) : Event → Manager → Prop
  /-- An operation begins. -/
  | begin (task : Task) :
      Transition manager (.begin task)
        { manager with
          operations := manager.operations ++ [⟨manager.next, task⟩]
          next := manager.next + 1 }
  /-- The operation that has waited longest gets the lock. -/
  | acquire {operation : Operation} (first : manager.operations.head? = some operation)
      (free : manager.holder = none) :
      Transition manager (.acquire operation.number)
        { manager with holder := some operation.number }
  /-- The operation that holds the lock ends with an outcome. -/
  | finish {operation : Operation} (outcome : Except LoadFailure State)
      (member : operation ∈ manager.operations) (holds : manager.holder = some operation.number) :
      Transition manager (.finish operation.number outcome)
        ((manager.record operation.task outcome).close operation (.of operation.task outcome))
  /-- An operation is given up. -/
  | cancel {operation : Operation} (member : operation ∈ manager.operations) :
      Transition manager (.cancel operation.number) (manager.close operation .cancelled)

/-- An operation that is found by a number has it and is one of those in flight. -/
theorem mem_of_operation?_eq_some {manager : Manager} {number : Nat} {operation : Operation}
    (found : manager.operation? number = some operation) :
    operation ∈ manager.operations ∧ operation.number = number := by
  unfold operation? at found
  exact ⟨List.mem_of_find?_eq_some found, by simpa using List.find?_some found⟩

/-- Whatever a step does is one of the transitions. -/
theorem transition_of_step {manager next : Manager} {event : Event}
    (happens : manager.step event = some next) : Transition manager event next := by
  cases event with
  | begin task =>
    obtain rfl := Option.some.inj happens
    exact .begin task
  | acquire number =>
    simp only [step] at happens
    split at happens
    · next possible =>
      obtain rfl := Option.some.inj happens
      obtain ⟨free, first⟩ : manager.holder = none ∧
          manager.operations.head?.map (·.number) = some number := by
        simpa using possible
      obtain ⟨operation, head, rfl⟩ := Option.map_eq_some_iff.mp first
      exact .acquire head free
    · contradiction
  | finish number outcome =>
    simp only [step] at happens
    split at happens
    · next holds =>
      obtain ⟨operation, found, rfl⟩ := Option.map_eq_some_iff.mp happens
      obtain ⟨member, rfl⟩ := mem_of_operation?_eq_some found
      exact .finish outcome member holds
    · contradiction
  | cancel number =>
    obtain ⟨operation, found, rfl⟩ := Option.map_eq_some_iff.mp happens
    obtain ⟨member, rfl⟩ := mem_of_operation?_eq_some found
    exact .cancel member

/-! ## What events say -/

/-- The task that an event begins. -/
def Event.task? : Event → Option Task
  | .begin task => some task
  | _ => none

/-- The operation that gets the lock by an event. -/
def Event.turn? : Event → Option Nat
  | .acquire number => some number
  | _ => none

/-- Whether an event ends an operation. -/
def Event.ends (number : Nat) : Event → Bool
  | .finish other _ => other = number
  | .cancel other => other = number
  | _ => false

/-- What came of an operation, if an event tells. -/
def Event.outcome? (number : Nat) : Event → Option (Except LoadFailure State)
  | .finish other outcome => if other = number then some outcome else none
  | _ => none

/-- The tasks of the operations that have begun, by number. -/
def tasks (events : List Event) : List Task :=
  events.filterMap Event.task?

/-- The operations that have got the lock, in this order. -/
def turns (events : List Event) : List Nat :=
  events.filterMap Event.turn?

/-- Whether an operation has ended. -/
def isOver (events : List Event) (number : Nat) : Bool :=
  events.any (·.ends number)

/-- What came of an operation, once it has finished. -/
def outcome? (events : List Event) (number : Nat) : Option (Except LoadFailure State) :=
  events.findSome? (·.outcome? number)

/-- The operations that have got the lock and have not ended. -/
def inside (events : List Event) : List Nat :=
  (turns events).filter fun number => !isOver events number

/-- What came of the operations of some kind, in the order in which they got the lock. -/
def outcomesOf (counts : Nat → Bool) (events : List Event) : List (Except LoadFailure State) :=
  (turns events).filterMap fun number => if counts number then outcome? events number else none

/-- Whether an operation is a refresh. -/
def isRefresh (events : List Event) (number : Nat) : Bool :=
  (tasks events)[number]? = some .refresh

/-- The states that operations gave, in the order in which they got the lock. -/
def published (events : List Event) : List State :=
  (outcomesOf (fun _ => true) events).filterMap Except.toOption

/-- What came of the refreshes, in the order in which they got the lock. -/
def refreshed (events : List Event) : List (Except LoadFailure State) :=
  outcomesOf (isRefresh events) events

section Concat

variable (events : List Event)

/-- One more event adds the task that it begins. -/
theorem tasks_concat (event : Event) :
    tasks (events ++ [event]) = tasks events ++ event.task?.toList := by
  rw [tasks, List.filterMap_append]
  cases event <;> rfl

/-- One more event adds the operation that gets the lock by it. -/
theorem turns_concat (event : Event) :
    turns (events ++ [event]) = turns events ++ event.turn?.toList := by
  rw [turns, List.filterMap_append]
  cases event <;> rfl

/-- After one more event an operation is over if it was or the event ends it. -/
theorem isOver_concat (event : Event) (number : Nat) :
    isOver (events ++ [event]) number = (isOver events number || event.ends number) := by
  simp [isOver]

/-- After one more event an operation has the outcome it had, or else the one of the event. -/
theorem outcome?_concat (event : Event) (number : Nat) :
    outcome? (events ++ [event]) number =
      (outcome? events number).or (event.outcome? number) := by
  simp [outcome?, List.findSome?_append]

variable {events}

/-- An operation that is not over has no outcome. -/
theorem outcome?_eq_none {number : Nat} (lasts : isOver events number = false) :
    outcome? events number = none := by
  rw [outcome?, List.findSome?_eq_none_iff]
  intro event member
  have goes : event.ends number = false := by
    have all := List.any_eq_false.mp lasts event member
    simpa using all
  cases event with
  | finish other outcome => simpa [Event.ends, Event.outcome?] using goes
  | begin | acquire | cancel => rfl

/-- What an operation is does not change after it has begun. -/
theorem isRefresh_concat (event : Event) {number : Nat} (below : number < (tasks events).length) :
    isRefresh (events ++ [event]) number = isRefresh events number := by
  rw [isRefresh, isRefresh, tasks_concat, List.getElem?_append_left below]

/-- Kinds that agree on the operations that have got the lock have the same outcomes. -/
theorem outcomesOf_congr {counts others : Nat → Bool}
    (agree : ∀ number ∈ turns events, counts number = others number) :
    outcomesOf counts events = outcomesOf others events :=
  List.filterMap_congr fun number member => by rw [agree number member]

/-- Outcomes of a kind change only by an operation that finishes. -/
theorem outcomesOf_concat {counts : Nat → Bool} {event : Event}
    (silent : ∀ number, event.outcome? number = none)
    (fresh : ∀ number, event.turn? = some number → isOver events number = false) :
    outcomesOf counts (events ++ [event]) = outcomesOf counts events := by
  have same : outcome? (events ++ [event]) = outcome? events := by
    funext number
    rw [outcome?_concat, silent, Option.or_none]
  rw [outcomesOf, turns_concat, same, List.filterMap_append]
  cases turn : event.turn? with
  | none => exact List.append_nil _
  | some number => simp [outcomesOf, outcome?_eq_none (fresh number turn)]

/-- An operation that finishes adds its outcome to those of its kind, if it is the last one that
got the lock. -/
theorem outcomesOf_finish (counts : Nat → Bool) {number : Nat}
    (outcome : Except LoadFailure State) (distinct : (turns events).Nodup)
    (latest : (turns events).getLast? = some number) (lasts : isOver events number = false) :
    outcomesOf counts (events ++ [.finish number outcome]) =
      outcomesOf counts events ++ if counts number then [outcome] else [] := by
  obtain ⟨earlier, split⟩ := List.getLast?_eq_some_iff.mp latest
  have absent : number ∉ earlier := by
    rw [split, List.nodup_append] at distinct
    exact fun member => distinct.2.2 number member number (List.mem_singleton_self _) rfl
  have others : ∀ other ∈ earlier,
      outcome? (events ++ [.finish number outcome]) other = outcome? events other := by
    intro other member
    have apart : number ≠ other := fun same => absent (same ▸ member)
    rw [outcome?_concat, Event.outcome?, if_neg apart, Option.or_none]
  have own : outcome? (events ++ [.finish number outcome]) number = some outcome := by
    rw [outcome?_concat, outcome?_eq_none lasts, Event.outcome?, if_pos rfl, Option.none_or]
  have front : (earlier.filterMap fun other =>
      if counts other then outcome? (events ++ [.finish number outcome]) other else none) =
      earlier.filterMap fun other => if counts other then outcome? events other else none :=
    List.filterMap_congr fun other member => by rw [others other member]
  rw [outcomesOf, outcomesOf, turns_concat, split]
  by_cases counted : counts number = true
  · simp [List.filterMap_append, front, own, outcome?_eq_none lasts, counted, Event.turn?]
  · simp [List.filterMap_append, front, counted, Event.turn?]

end Concat

end CompletionServer.Project.Manager
