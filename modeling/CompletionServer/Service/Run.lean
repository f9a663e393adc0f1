import CompletionServer.Files.System
import CompletionServer.Introspection.Behaviour
import CompletionServer.Service.Step

/-!
# A service among files and child processes

Calls are taken through their steps by surroundings that are given: the file system answers what a
buffer holds, and the introspection tool behaves as it was told to, run after run.
-/

namespace CompletionServer.Service

/-- The text of a buffer. Bytes that are no text are replaced. -/
def readBuffer (system : Files.System) (filePath : String) : Except Failure String := do
  let path := Path.ofString filePath
  match system.isFile path with
  | .error fault => .error (.fault fault)
  | .ok false => .error (.refused (.unreadableFile filePath "not a file"))
  | .ok true =>
    match system.read path with
    | .ok bytes => .ok (Text.Utf8.decodeLossy bytes)
    | .error (.system error) => .error (.refused (.unreadableFile filePath error.briefReason))
    | .error fault => .error (.fault fault)

/-- What surrounds a service. -/
structure Surroundings where
  system : Files.System
  /-- How the next runs of the tool behave; the last behaviour stays. -/
  behaviours : List Introspection.Behaviour
  /-- How the children started so far behave. -/
  started : Table ChildNumber Introspection.Behaviour

namespace Surroundings

/-- How the next run behaves, and the surroundings after it has begun. -/
def next (surroundings : Surroundings) : Introspection.Behaviour × Surroundings :=
  match surroundings.behaviours with
  | [] => (.silent, surroundings)
  | [last] => (last, surroundings)
  | first :: rest => (first, { surroundings with behaviours := rest })

/-- The events that take a call one phase further. -/
def respond (surroundings : Surroundings) (service : Service) (call : Call) :
    List Event × Surroundings :=
  match call.phase with
  | .waiting => ([.acquire call.number], surroundings)
  | .reading =>
    ([.read call.number (readBuffer surroundings.system call.request.filePath)], surroundings)
  | .starting _ =>
    if service.allowsStart then
      match surroundings.next with
      | (.refuses fault, later) => ([.spawn call.number (.error fault)], later)
      | (behaviour, later) =>
        ([.spawn call.number (.ok ())],
          { later with started := later.started.set service.children.length behaviour })
    else ([.expire call.number], surroundings)
  | .running child =>
    match surroundings.started.get? child with
    | some (.answers exit) =>
      ([.exit child exit.code, .output call.number exit.stdout exit.stderr], surroundings)
    | some (.hangs true) => ([.exit child 0, .expire call.number], surroundings)
    | _ => ([.expire call.number], surroundings)
  | .reaping child _ =>
    ([.exit child Introspection.killedCode, .reaped call.number], surroundings)
  | .filtering _ => ([.filter call.number], surroundings)

end Surroundings

/-- How many phases a call goes through at most. -/
def phaseLimit : Nat := 6

/-- A call taken as far as it goes, through at most `phases` phases. -/
def drive (surroundings : Surroundings) (service : Service) (number : CallNumber) :
    (phases : Nat) → Surroundings × Service
  | 0 => (surroundings, service)
  | phases + 1 =>
    match service.call? number with
    | none => (surroundings, service)
    | some call =>
      let (events, surroundings) := surroundings.respond service call
      match service.play events with
      | some service => drive surroundings service number phases
      | none => (surroundings, service)

/-- The result of a call that has ended. -/
def result? (service : Service) (number : CallNumber) : Option (Except Failure (List Item)) :=
  (service.ended.find? (·.call.number = number)).map (·.result)

/-- Requests that come together while the project is in a state: all of them enter, and then each
is taken to its end in the order in which they came. Without a project every one is refused and
nothing is counted. -/
def completeAll (surroundings : Surroundings) (service : Service) (current : Option Project.State)
    (requests : List Request) :
    List (Except Failure (List Item)) × Surroundings × Service :=
  match current with
  | none => (requests.map fun _ => .error (.fault .notLoaded), surroundings, service)
  | some state =>
    let first := service.next
    let numbers := (List.range requests.length).map (first + ·)
    let entered := requests.foldl (fun service request => service.enter state request) service
    let (surroundings, service) := numbers.foldl
      (fun (surroundings, service) number => drive surroundings service number phaseLimit)
      (surroundings, entered)
    (numbers.filterMap service.result?, surroundings, service)

/-- A request taken to its end. -/
def complete (surroundings : Surroundings) (service : Service) (current : Option Project.State)
    (request : Request) : Except Failure (List Item) × Surroundings × Service :=
  let (results, surroundings, service) := completeAll surroundings service current [request]
  ((results.head?).getD (.error .cancelled), surroundings, service)

/-- An inquiry taken to its end. With a project, one that has no signature fails before anything is
done or counted. -/
def ask (surroundings : Surroundings) (service : Service) (current : Option Project.State)
    (inquiry : Inquiry) : Except Failure (List Item) × Surroundings × Service :=
  match current with
  | none => complete surroundings service none inquiry.request
  | some state =>
    match Signature.requestOf inquiry with
    | .ok request => complete surroundings service (some state) request
    | .error fault => (.error (.fault fault), surroundings, service)

end CompletionServer.Service
