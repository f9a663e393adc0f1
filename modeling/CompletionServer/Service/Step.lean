import CompletionServer.Machine
import CompletionServer.Service.Basic

/-!
# Steps of the completion service

Calls run side by side. Each step takes one call from one point at which it can be suspended to the
next, and steps of different calls may follow each other in any order: `Service.step` says which are
possible and what they do, `Service.Reachable` which services come about. A free lock goes to any
one of the calls that wait for it: nothing is promised about their order.
-/

namespace CompletionServer.Service

/-- Something that happens to a service. -/
inductive Event
  /-- A request comes while the project is in a state. -/
  | enter (state : Project.State) (request : Request)
  /-- A call gets its signature's lock and looks into the cache. -/
  | acquire (call : CallNumber)
  /-- The buffer has been read. -/
  | read (call : CallNumber) (outcome : Except Failure String)
  /-- The tool has been started, or could not be. -/
  | spawn (call : CallNumber) (outcome : Except Fault Unit)
  /-- A child ends. -/
  | exit (child : ChildNumber) (code : Int)
  /-- A call receives what its child, which has ended, has printed. -/
  | output (call : CallNumber) (stdout stderr : List UInt8)
  /-- The tool's time is over. -/
  | expire (call : CallNumber)
  /-- Whoever made the call gives it up. -/
  | cancel (call : CallNumber)
  /-- A call that waits for the end of its killed child is given up once more. -/
  | abandon (call : CallNumber)
  /-- The end of a killed child has been waited for. -/
  | reaped (call : CallNumber)
  /-- The candidates are filtered, and put into the cache if they are new. -/
  | filter (call : CallNumber)
  /-- The workers are sent home. -/
  | close

/-- A request comes: it takes its place among the calls on its signature. -/
def enter (service : Service) (state : Project.State) (request : Request) : Service :=
  let signature := Signature.ofRequest request
  let (guards, lock) := service.guards.enter signature
  { service with
    guards
    calls := service.calls ++ [⟨service.next, request, state, signature, lock, .waiting, none⟩]
    next := service.next + 1 }

/-- A call ends: it gives its lock back and goes outside. -/
def finish? (service : Service) (call : Call) (result : Except Failure (List Item)) :
    Option Service :=
  ((service.guards.release call.lock call.number).leave? call.signature).map fun guards =>
    { service with
      guards
      calls := service.calls.filter (·.number ≠ call.number)
      ended := service.ended ++ [⟨call, result⟩]
      log := service.log ++
        [.completed call.number (.ofResult result) (call.hit? == some true)] }

/-- A call takes its lock and looks into the cache. -/
def acquire (service : Service) (call : Call) : Service :=
  let guards := service.guards.hold call.lock call.number
  match service.cache.get? call.signature with
  | some candidates =>
    ({ service with guards, hits := service.hits + 1 }.withCall
      { call with phase := .filtering candidates, hit? := some true }).note
      [.looked call.number true]
  | none =>
    ({ service with guards, misses := service.misses + 1 }.withCall
      { call with phase := .reading, hit? := some false }).note
      [.looked call.number false]

/-- The command line for a call whose buffer holds a text. -/
def commandFor (service : Service) (call : Call) (contents : String) : List String :=
  Introspection.command service.setup.binary contents call.request.byteOffset
    (Introspection.compilerArguments call.state call.request.filePath service.setup.hint)

/-- The failure of a call whose tool took too long. -/
def timeoutFailure (service : Service) : Failure :=
  .refused (.introspection (.timedOut service.setup.timeout))

/-- Whether there is time to start the tool at all. -/
def allowsStart (service : Service) : Bool :=
  !(service.setup.timeout ≤ 0.0)

/-- A child is running for a call. -/
def spawned (service : Service) (call : Call) : Service :=
  let child : Child := ⟨call.signature, none, false, false⟩
  { service with children := service.children ++ [child] }.withCall
    { call with phase := .running service.children.length }

/-- A child has a return code. -/
def exited (service : Service) (child : ChildNumber) (code : Int) : Service :=
  { service with
    children := service.children.modify child fun one => { one with code := some code } }

/-- The return code of a child that has ended. -/
def codeOf (service : Service) (child : ChildNumber) : Option Int :=
  (service.children[child]?).bind (·.code)

/-- A running call is given up. A child that has not ended is killed and waited for first. -/
def interrupt? (service : Service) (call : Call) (child : ChildNumber) (failure : Failure) :
    Option Service :=
  match service.codeOf child with
  | some _ => service.finish? call (.error failure)
  | none =>
    some (({ service with
      children := service.children.modify child fun one =>
        { one with killed := true, waited := true } }.withCall
      { call with phase := .reaping child failure }).note [.killed child, .waited child])

/-- New candidates go into the cache. -/
def store (service : Service) (call : Call) (candidates : List Candidate) : Service :=
  if call.hit? = some true then service
  else
    { service with cache := service.cache.put call.signature candidates }.note
      [.stored call.signature candidates]

/-- The result of a call whose items are known. -/
def resultOf (emptyIsError : Bool) (items : List Item) : Except Failure (List Item) :=
  if items.isEmpty && emptyIsError then .error (.refused .emptyResult) else .ok items

/-- A call filters its candidates and ends. -/
def filter? (service : Service) (call : Call) (candidates : List Candidate) : Option Service :=
  match service.pipeline.apply candidates call.request call.state.moduleName with
  | .error fault => service.finish? call (.error (.fault fault))
  | .ok items =>
    (service.store call candidates).finish? call (resultOf service.setup.emptyIsError items)

/-- The service after an event, none if the event cannot happen. -/
def step (service : Service) : Event → Option Service
  | .enter state request => some (service.enter state request)
  | .acquire number => do
    let call ← service.call? number
    match call.phase with
    | .waiting =>
      if service.guards.isFree call.lock then some (service.acquire call) else none
    | _ => none
  | .read number outcome => do
    let call ← service.call? number
    match call.phase, outcome with
    | .reading, .ok contents => some (service.withCall { call with phase := .starting contents })
    | .reading, .error failure => service.finish? call (.error failure)
    | _, _ => none
  | .spawn number outcome => do
    let call ← service.call? number
    match call.phase with
    | .starting contents =>
      if service.allowsStart then
        let asked := service.note [.spawned number (service.commandFor call contents)]
        match outcome with
        | .ok () => some (asked.spawned call)
        | .error fault =>
          asked.finish? call (.error (Introspection.startFailure service.setup.binary fault))
      else none
    | _ => none
  | .exit child code =>
    match service.children[child]? with
    | some one => if one.code.isNone then some (service.exited child code) else none
    | none => none
  | .output number stdout stderr => do
    let call ← service.call? number
    match call.phase with
    | .running child => do
      let code ← service.codeOf child
      match (Introspection.Exit.mk code stdout stderr).candidates with
      | .ok candidates => some (service.withCall { call with phase := .filtering candidates })
      | .error failure => service.finish? call (.error failure)
    | _ => none
  | .expire number => do
    let call ← service.call? number
    match call.phase with
    | .starting _ => service.finish? call (.error service.timeoutFailure)
    | .running child => service.interrupt? call child service.timeoutFailure
    | _ => none
  | .cancel number => do
    let call ← service.call? number
    match call.phase with
    | .running child => service.interrupt? call child .cancelled
    | .reaping _ _ => none
    | _ => service.finish? call (.error .cancelled)
  | .abandon number => do
    let call ← service.call? number
    match call.phase with
    | .reaping _ _ => service.finish? call (.error .cancelled)
    | _ => none
  | .reaped number => do
    let call ← service.call? number
    match call.phase with
    | .reaping child failure =>
      if (service.codeOf child).isSome then service.finish? call (.error failure) else none
    | _ => none
  | .filter number => do
    let call ← service.call? number
    match call.phase with
    | .filtering candidates => service.filter? call candidates
    | _ => none
  | .close => some service.close

/-- The service after some events in order, none if one of them cannot happen. -/
abbrev play (service : Service) (events : List Event) : Option Service :=
  Machine.play step service events

/-- The services that come about from one. -/
inductive Reachable (start : Service) : Service → Prop
  | start : Reachable start start
  | step {service next : Service} (event : Event) (before : Reachable start service)
      (happens : service.step event = some next) : Reachable start next

end CompletionServer.Service
