import CompletionServer.Cache
import CompletionServer.Filter.Pipeline
import CompletionServer.Introspection.Command
import CompletionServer.Service.Guards
import CompletionServer.Signature

/-!
# The completion service

The service answers completion requests from its cache or by running the introspection tool. It is a
value: the cache, the counters, the locks, the calls in flight with the phase that each has reached,
the children that were started, and a log of what was done.

`Service.create` builds an idle service. What a call does next is in the module on steps.
-/

namespace CompletionServer

namespace Service

/-- What a service is set up with. -/
structure Setup where
  /-- The introspection tool. -/
  binary : String
  /-- How many seconds the tool may take. -/
  timeout : Float
  /-- The compiler's argument for its parallelism. -/
  hint : String
  /-- Whether a completion without items is an error. -/
  emptyIsError : Bool

/-- Parts of a service that are given in place of what the settings say. -/
structure Overrides where
  binary : Option String := none
  timeout : Option Float := none
  hint : Option String := none
  emptyIsError : Option Bool := none
  cache : Option (Cache (List Candidate)) := none
  pipeline : Option Filter.Pipeline := none

/-- The number of a child process. -/
abbrev ChildNumber := Nat

/-- How far a call has come. -/
inductive Phase
  /-- It waits for its signature's lock. -/
  | waiting
  /-- It holds the lock, the cache had nothing, and the buffer is being read. -/
  | reading
  /-- The buffer is read and the tool is to be started. -/
  | starting (contents : String)
  /-- The tool runs. -/
  | running (child : ChildNumber)
  /-- The tool was killed; the call waits for its end and then fails. -/
  | reaping (child : ChildNumber) (failure : Failure)
  /-- The candidates are there and are being filtered. -/
  | filtering (candidates : List Candidate)

/-- A call in flight. -/
structure Call where
  number : CallNumber
  request : Request
  /-- The project as it was when the call came. -/
  state : Project.State
  signature : String
  lock : LockNumber
  phase : Phase
  /-- Whether the cache had its candidates, once it has looked. -/
  hit? : Option Bool

/-- A child process that was started. -/
structure Child where
  signature : String
  /-- Its return code, once it has ended. -/
  code : Option Int
  killed : Bool
  waited : Bool
  deriving Repr

/-- How a call ended, as it is counted. -/
inductive Outcome
  | success
  | empty
  | error
  deriving DecidableEq, Repr

/-- The outcome of a result. -/
def Outcome.ofResult : Except Failure (List Item) → Outcome
  | .ok _ => .success
  | .error (.refused .emptyResult) => .empty
  | .error _ => .error

/-- Something that the service did. -/
inductive Note
  /-- A call looked into the cache. -/
  | looked (call : CallNumber) (hit : Bool)
  /-- Candidates were put into the cache. -/
  | stored (signature : String) (candidates : List Candidate)
  /-- A call asked for a child with a command line, whether it came to be or not. -/
  | spawned (call : CallNumber) (command : List String)
  /-- A child was sent the signal to end. -/
  | killed (child : ChildNumber)
  /-- A child's end was waited for. -/
  | waited (child : ChildNumber)
  /-- A call ended. -/
  | completed (call : CallNumber) (outcome : Outcome) (hit : Bool)

/-- A call that has ended, in its last phase, and its result. -/
structure Ended where
  call : Call
  result : Except Failure (List Item)

end Service

/-- A completion service. -/
structure Service where
  setup : Service.Setup
  pipeline : Filter.Pipeline
  /-- Whether the pipeline's workers are the service's own. -/
  ownsWorkers : Bool
  cache : Cache (List Candidate)
  hits : Nat
  misses : Nat
  guards : Service.Guards
  /-- The calls in flight, in the order in which they came. -/
  calls : List Service.Call
  /-- The children started so far, by number. -/
  children : List Service.Child
  /-- The number of the next call. -/
  next : Service.CallNumber
  ended : List Service.Ended
  log : List Service.Note

namespace Service

/-- The pipeline that settings give, with workers of its own. -/
def ownPipeline (settings : Settings) : Filter.Pipeline :=
  ⟨.ofSettings settings, if settings.fuzzyEnabled then some Fuzzy.weight else none, .working⟩

/-- The cache that a service starts with: the one given, unless it is empty. -/
def startCache (settings : Settings) (given : Option (Cache (List Candidate))) :
    Cache (List Candidate) :=
  match given with
  | some cache => if cache.size = 0 then .create settings.cacheCapacity else cache
  | none => .create settings.cacheCapacity

/-- A text that was given, unless it is empty. -/
def textOr (given : Option String) (default : String) : String :=
  match given with
  | none | some "" => default
  | some text => text

/-- An idle service. -/
def create (settings : Settings) (overrides : Overrides) : Service :=
  { setup :=
      { binary := textOr overrides.binary settings.introspectionBinary
        timeout := overrides.timeout.getD settings.introspectionTimeout
        hint := textOr overrides.hint settings.parallelismHint
        emptyIsError := overrides.emptyIsError.getD settings.emptyResultIsError }
    pipeline := overrides.pipeline.getD (ownPipeline settings)
    ownsWorkers := overrides.pipeline.isNone
    cache := startCache settings overrides.cache
    hits := 0
    misses := 0
    guards := .empty
    calls := []
    children := []
    next := 0
    ended := []
    log := [] }

/-- The call in flight with a number. -/
def call? (service : Service) (number : CallNumber) : Option Call :=
  service.calls.find? (·.number = number)

/-- A call in flight put in place of the one with its number. -/
def withCall (service : Service) (call : Call) : Service :=
  { service with
    calls := service.calls.map fun other => if other.number = call.number then call else other }

/-- Something written to the log. -/
def note (service : Service) (notes : List Note) : Service :=
  { service with log := service.log ++ notes }

/-- The service after its workers have been sent home. Work that is given to them later is
refused. -/
def close (service : Service) : Service :=
  if service.ownsWorkers then
    { service with pipeline := { service.pipeline with pool := .closed } }
  else service

/-- What the service reports about itself. -/
structure Stats where
  hits : Nat
  misses : Nat
  cacheSize : Nat
  cacheCapacity : Nat
  projectModule : String
  deriving DecidableEq, Repr

/-- The figures of a service whose project is in a state, if it is loaded. -/
def stats (service : Service) (current : Option Project.State) : Stats :=
  ⟨service.hits, service.misses, service.cache.size, service.cache.capacity,
    (current.map (·.moduleName)).getD ""⟩

/-- The source files of the project, if it is loaded. -/
def sourceFiles (current : Option Project.State) : Except Fault (List String) :=
  match current with
  | some state => .ok state.sourceFiles
  | none => .error .notLoaded

end Service

end CompletionServer
