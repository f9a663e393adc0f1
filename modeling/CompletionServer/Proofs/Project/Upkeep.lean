import CompletionServer.Daemon
import CompletionServer.Proofs.Project.Publication
import CompletionServer.Proofs.Project.Watching

/-!
# Keeping the published project up to date

A definition is loaded once, and from then on the watcher of its file asks for a refresh when a
batch of changes reports it. `Upkeep` joins the manager and the watcher with the files that they
look at. Files change at any time. A change that is made under a subscription is reported by a batch
some time later, and by none if the subscription is over before; a change that is made at any other
time is never reported.

`Upkeep.Transition` says what a step can do, and `Orderly` what holds at all times: there is at most
one operation, nothing is in flight while the watcher waits, and what is published and about to be
published is the latest reading of the definition that could be loaded.
-/

namespace CompletionServer.Project

/-- The upkeep of a project: its files, the manager of its definition, and the watcher of it. -/
structure Upkeep where
  /-- The SDK of definitions that name none. -/
  sdkRoot : String
  files : Files.System
  manager : Manager
  watcher : Watcher
  /-- Whether a change was made under the subscription that no batch has reported. -/
  isDue : Bool
  /-- What the operation that holds the lock has read. -/
  reading : Option (Except LoadFailure State)
  /-- The files as they were each time the definition was read. -/
  readings : List Files.System

namespace Upkeep

/-- Something that happens in the upkeep of a project. -/
inductive Event
  /-- The definition is rewritten, or goes or comes with its directory. -/
  | change (files : Files.System)
  /-- The project is to be loaded. -/
  | load
  /-- An operation gets the lock. -/
  | acquire (number : Nat)
  /-- The operation that has the lock reads the definition. -/
  | read
  /-- An operation ends with what it has read. -/
  | finish (number : Nat)
  /-- The watcher of a loaded project is started. -/
  | start
  /-- The watcher's loop runs for the first time. -/
  | run
  /-- A batch of changes arrives. -/
  | deliver (changes : List Change)
  /-- The subscription breaks. -/
  | fail
  /-- The subscription comes to its end. -/
  | close
  /-- The loop's wait is over. -/
  | retry

/-- Whether an event changes the files or reads the definition. -/
def Event.touchesFiles : Event → Bool
  | .change _ | .read => true
  | _ => false

/-- Before anything is loaded or watched. -/
def initial (sdkRoot : String) (definition : Path) (files : Files.System) : Upkeep :=
  ⟨sdkRoot, files, .create definition, .idle, false, none, []⟩

/-- Whether changes are reported. They are, too, while a refresh is waited for. -/
def isSubscribed (upkeep : Upkeep) : Bool :=
  match upkeep.watcher.loop with
  | .subscribed _ | .refreshing _ => true
  | _ => false

/-- The subscription is over; what it has not reported is never reported. -/
def withoutSubscription (upkeep : Upkeep) (watcher : Watcher) : Upkeep :=
  { upkeep with watcher, isDue := false }

/-- The upkeep after an event, none if the event cannot happen. -/
def step (upkeep : Upkeep) : Event → Option Upkeep
  | .change files => some { upkeep with files, isDue := upkeep.isDue || upkeep.isSubscribed }
  | .load =>
    if upkeep.manager.operations.isEmpty && !upkeep.watcher.isRunning then
      (upkeep.manager.step (.begin .load)).map fun manager => { upkeep with manager }
    else none
  | .acquire number =>
    (upkeep.manager.step (.acquire number)).map fun manager => { upkeep with manager }
  | .read =>
    if upkeep.manager.isRefreshing && upkeep.reading.isNone then
      some { upkeep with
        reading := some (Project.load upkeep.files upkeep.sdkRoot upkeep.manager.file)
        readings := upkeep.readings ++ [upkeep.files] }
    else none
  | .finish number =>
    upkeep.reading.bind fun outcome =>
      (upkeep.manager.step (.finish number outcome)).map fun manager =>
        { upkeep with
          manager
          watcher := (upkeep.watcher.step .refreshed).getD upkeep.watcher
          reading := none }
  | .start =>
    if upkeep.manager.isLoaded && upkeep.manager.operations.isEmpty then
      (upkeep.watcher.step .start).map fun watcher => { upkeep with watcher }
    else none
  | .run =>
    match watchedDirectory upkeep.files upkeep.manager.file with
    | .ok directory =>
      (upkeep.watcher.step (.run directory (upkeep.files.isThere directory))).map
        upkeep.withoutSubscription
    | .error _ => none
  | .deliver changes =>
    match concerns upkeep.files upkeep.manager.file changes with
    | .ok true =>
      (upkeep.watcher.step (.deliver true)).bind fun watcher =>
        (upkeep.manager.step (.begin .refresh)).map fun manager =>
          { upkeep with watcher, manager, isDue := false }
    | .ok false =>
      (upkeep.watcher.step (.deliver false)).map fun watcher => { upkeep with watcher }
    | .error _ => (upkeep.watcher.step .fail).map upkeep.withoutSubscription
  | .fail => (upkeep.watcher.step .fail).map upkeep.withoutSubscription
  | .close =>
    (upkeep.watcher.step
      (.finish (Daemon.directoryIsThere upkeep.files upkeep.watcher))).map
      upkeep.withoutSubscription
  | .retry =>
    (upkeep.watcher.step
      (.retry (Daemon.directoryIsThere upkeep.files upkeep.watcher))).map
      upkeep.withoutSubscription

/-- The upkeep after some events in order, none if one of them cannot happen. -/
abbrev play (upkeep : Upkeep) (events : List Event) : Option Upkeep :=
  Machine.play step upkeep events

/-! ## What a step can do -/

/-- The ways in which an event changes the upkeep. -/
inductive Transition (upkeep : Upkeep) : Event → Upkeep → Prop
  /-- The files change. -/
  | change (files : Files.System) :
      Transition upkeep (.change files)
        { upkeep with files, isDue := upkeep.isDue || upkeep.isSubscribed }
  /-- The project is to be loaded. -/
  | load (idle : upkeep.manager.operations = []) (stopped : upkeep.watcher.status = .stopped) :
      Transition upkeep .load
        { upkeep with
          manager :=
            { upkeep.manager with
              operations := upkeep.manager.operations ++ [⟨upkeep.manager.next, .load⟩]
              next := upkeep.manager.next + 1 } }
  /-- An operation gets the lock. -/
  | acquire {operation : Manager.Operation}
      (first : upkeep.manager.operations.head? = some operation)
      (free : upkeep.manager.holder = none) :
      Transition upkeep (.acquire operation.number)
        { upkeep with manager := { upkeep.manager with holder := some operation.number } }
  /-- The definition is read. -/
  | read (held : upkeep.manager.holder ≠ none) (unread : upkeep.reading = none) :
      Transition upkeep .read
        { upkeep with
          reading := some (Project.load upkeep.files upkeep.sdkRoot upkeep.manager.file)
          readings := upkeep.readings ++ [upkeep.files] }
  /-- The operation that has the lock ends with what it has read, and the loop that waits for it
  goes on. -/
  | finish {operation : Manager.Operation} {outcome : Except LoadFailure State}
      (member : operation ∈ upkeep.manager.operations)
      (holds : upkeep.manager.holder = some operation.number)
      (read : upkeep.reading = some outcome) :
      Transition upkeep (.finish operation.number)
        { upkeep with
          manager :=
            (upkeep.manager.record operation.task outcome).close operation
              (.of operation.task outcome)
          watcher := (upkeep.watcher.step .refreshed).getD upkeep.watcher
          reading := none }
  /-- The watcher of a loaded project gets a loop. -/
  | start (loaded : upkeep.manager.isLoaded = true) (idle : upkeep.manager.operations = [])
      (stopped : upkeep.watcher.status = .stopped) :
      Transition upkeep .start
        { upkeep with watcher := { upkeep.watcher with status := .watching, loop := .created } }
  /-- A loop that waits for nothing but its directory looks for it. -/
  | look {event : Event} {directory : Path} (isThere : Bool) (silent : event.touchesFiles = false)
      (waits : upkeep.watcher.loop = .created ∨ upkeep.watcher.loop = .retrying directory ∨
        upkeep.watcher.loop = .subscribed directory) :
      Transition upkeep event
        (upkeep.withoutSubscription (upkeep.watcher.look directory isThere))
  /-- The subscription breaks. -/
  | fail {event : Event} {directory : Path} (silent : event.touchesFiles = false)
      (subscribed : upkeep.watcher.loop = .subscribed directory) :
      Transition upkeep event
        (upkeep.withoutSubscription
          { upkeep.watcher with status := .watching, loop := .retrying directory })
  /-- A refresh is asked for. -/
  | ask {changes : List Change} {directory : Path}
      (subscribed : upkeep.watcher.loop = .subscribed directory) :
      Transition upkeep (.deliver changes)
        { upkeep with
          manager :=
            { upkeep.manager with
              operations := upkeep.manager.operations ++ [⟨upkeep.manager.next, .refresh⟩]
              next := upkeep.manager.next + 1 }
          watcher :=
            { upkeep.watcher with
              status := .refreshing
              loop := .refreshing directory
              refreshes := upkeep.watcher.refreshes + 1 }
          isDue := false }
  /-- Nothing changes: the watcher was started already, or a batch is passed over. -/
  | stay {event : Event} (silent : event.touchesFiles = false) : Transition upkeep event upkeep

variable {upkeep next : Upkeep} {event : Event}

/-- A subscription that breaks by some event. -/
theorem Transition.of_fail (silent : event.touchesFiles = false)
    (happens : (upkeep.watcher.step .fail).map upkeep.withoutSubscription = some next) :
    Transition upkeep event next := by
  obtain ⟨watcher, steps, rfl⟩ := Option.map_eq_some_iff.mp happens
  cases Watcher.transition_of_step steps with
  | fail _ subscribed => exact .fail silent subscribed

/-- Whatever a step does is one of the transitions. -/
theorem transition_of_step (happens : upkeep.step event = some next) :
    Transition upkeep event next := by
  cases event with
  | change files =>
    obtain rfl := Option.some.inj happens
    exact .change files
  | load =>
    simp only [step] at happens
    split at happens
    · next possible =>
      obtain ⟨idle, stopped⟩ : upkeep.manager.operations = [] ∧
          upkeep.watcher.status = .stopped := by
        simpa [Watcher.isRunning] using possible
      obtain rfl := Option.some.inj happens
      exact .load idle stopped
    · contradiction
  | acquire number =>
    obtain ⟨manager, steps, rfl⟩ := Option.map_eq_some_iff.mp happens
    cases Manager.transition_of_step steps with
    | acquire first free => exact .acquire first free
  | read =>
    simp only [step] at happens
    split at happens
    · next possible =>
      obtain ⟨held, unread⟩ : upkeep.manager.holder ≠ none ∧ upkeep.reading = none := by
        simpa [Manager.isRefreshing, Option.isSome_iff_ne_none] using possible
      obtain rfl := Option.some.inj happens
      exact .read held unread
    · contradiction
  | finish number =>
    obtain ⟨outcome, read, ends⟩ := Option.bind_eq_some_iff.mp happens
    obtain ⟨manager, steps, rfl⟩ := Option.map_eq_some_iff.mp ends
    cases Manager.transition_of_step steps with
    | finish _ member holds => exact .finish member holds read
  | start =>
    simp only [step] at happens
    split at happens
    · next possible =>
      obtain ⟨loaded, idle⟩ : upkeep.manager.isLoaded = true ∧
          upkeep.manager.operations = [] := by
        simpa using possible
      obtain ⟨watcher, steps, rfl⟩ := Option.map_eq_some_iff.mp happens
      cases Watcher.transition_of_step steps with
      | start _ stopped => exact .start loaded idle stopped
      | again => exact .stay rfl
    · contradiction
  | run =>
    simp only [step] at happens
    split at happens
    · obtain ⟨watcher, steps, rfl⟩ := Option.map_eq_some_iff.mp happens
      cases Watcher.transition_of_step steps with
      | run _ _ _ created => exact .look _ rfl (.inl created)
    · contradiction
  | deliver changes =>
    simp only [step] at happens
    split at happens
    · obtain ⟨watcher, steps, begins⟩ := Option.bind_eq_some_iff.mp happens
      obtain rfl := Option.some.inj begins
      cases Watcher.transition_of_step steps with
      | ask _ subscribed => exact .ask subscribed
    · obtain ⟨watcher, steps, rfl⟩ := Option.map_eq_some_iff.mp happens
      cases Watcher.transition_of_step steps with
      | pass => exact .stay rfl
    · exact .of_fail rfl happens
  | fail => exact .of_fail rfl happens
  | close =>
    obtain ⟨watcher, steps, rfl⟩ := Option.map_eq_some_iff.mp happens
    cases Watcher.transition_of_step steps with
    | finish _ _ subscribed => exact .look _ rfl (.inr (.inr subscribed))
  | retry =>
    obtain ⟨watcher, steps, rfl⟩ := Option.map_eq_some_iff.mp happens
    cases Watcher.transition_of_step steps with
    | retry _ _ retrying => exact .look _ rfl (.inr (.inl retrying))

/-! ## Order -/

/-- The state of the latest of some readings that can be loaded. -/
def latest (sdk : String) (definition : Path) (readings : List Files.System) : Option State :=
  (readings.filterMap fun files => (Project.load files sdk definition).toOption).getLast?

/-- One more reading counts if it can be loaded. -/
theorem latest_concat (sdk : String) (definition : Path) (readings : List Files.System)
    (files : Files.System) :
    latest sdk definition (readings ++ [files]) =
      (Project.load files sdk definition).toOption.or (latest sdk definition readings) := by
  rw [latest, List.filterMap_append, List.getLast?_append, latest]
  cases loaded : Project.load files sdk definition with
  | ok state => simp [loaded, Except.toOption]
  | error failure => simp [loaded, Except.toOption]

/-- What holds of the upkeep of a definition at all times. -/
structure Orderly (sdk : String) (definition : Path) (upkeep : Upkeep) : Prop where
  sdkRoot : upkeep.sdkRoot = sdk
  file : upkeep.manager.file = definition
  free : upkeep.watcher.isStopping = false
  stopped : upkeep.watcher.status = .stopped → upkeep.watcher.loop = .absent
  single : upkeep.manager.operations.length ≤ 1
  /-- An operation is in flight only before the watcher is started, and while its loop waits. -/
  busy : upkeep.manager.operations ≠ [] →
    upkeep.watcher.loop = .absent ∨ ∃ directory, upkeep.watcher.loop = .refreshing directory
  held : ∀ number, upkeep.manager.holder = some number →
    ∃ operation ∈ upkeep.manager.operations, operation.number = number
  read : upkeep.reading ≠ none → upkeep.manager.holder ≠ none
  loaded : upkeep.watcher.loop ≠ .absent → upkeep.manager.isLoaded = true
  /-- What was read and is to be published, or else what is published, is the latest reading that
  can be loaded. -/
  published : (upkeep.reading.bind Except.toOption).or upkeep.manager.state =
    latest sdk definition upkeep.readings

namespace Orderly

variable {sdk : String} {definition : Path}

/-- There is order before anything is loaded or watched. -/
theorem initial (sdk : String) (definition : Path) (files : Files.System) :
    Orderly sdk definition (initial sdk definition files) where
  sdkRoot := rfl
  file := rfl
  free := rfl
  stopped := fun _ => rfl
  single := by simp [Upkeep.initial, Manager.create]
  busy := by simp [Upkeep.initial, Manager.create]
  held := by simp [Upkeep.initial, Manager.create]
  read := by simp [Upkeep.initial]
  loaded := by simp [Upkeep.initial, Watcher.idle]
  published := rfl

/-- Nothing is in flight while the loop waits for something else than a refresh. -/
theorem idle (orderly : Orderly sdk definition upkeep) (present : upkeep.watcher.loop ≠ .absent)
    (waits : ∀ directory, upkeep.watcher.loop ≠ .refreshing directory) :
    upkeep.manager.operations = [] ∧ upkeep.manager.holder = none ∧ upkeep.reading = none := by
  have operations : upkeep.manager.operations = [] := by
    by_contra busy
    rcases orderly.busy busy with absent | ⟨directory, refreshing⟩
    · exact present absent
    · exact waits directory refreshing
  have holder : upkeep.manager.holder = none := by
    cases held : upkeep.manager.holder with
    | none => rfl
    | some number =>
      obtain ⟨operation, member, _⟩ := orderly.held number held
      rw [operations] at member
      contradiction
  refine ⟨operations, holder, ?_⟩
  by_contra read
  exact orderly.read read holder

/-- An operation begins while nothing is in flight; the watcher waits for it, or is not started. -/
theorem begin (orderly : Orderly sdk definition upkeep) (task : Manager.Task)
    (idle : upkeep.manager.operations = []) {watcher : Watcher} {isDue : Bool}
    (free : watcher.isStopping = false)
    (stopped : watcher.status = .stopped → watcher.loop = .absent)
    (waits : watcher.loop = .absent ∨ ∃ directory, watcher.loop = .refreshing directory)
    (loaded : watcher.loop ≠ .absent → upkeep.manager.isLoaded = true) :
    Orderly sdk definition
      { upkeep with
        manager :=
          { upkeep.manager with
            operations := upkeep.manager.operations ++ [⟨upkeep.manager.next, task⟩]
            next := upkeep.manager.next + 1 }
        watcher
        isDue } where
  sdkRoot := orderly.sdkRoot
  file := orderly.file
  free := free
  stopped := stopped
  single := by simp [idle]
  busy := fun _ => waits
  held := by
    intro number holds
    obtain ⟨operation, member, same⟩ := orderly.held number holds
    exact ⟨operation, List.mem_append_left _ member, same⟩
  read := orderly.read
  loaded := loaded
  published := orderly.published

/-- The watcher goes on while nothing is in flight. -/
theorem watch (orderly : Orderly sdk definition upkeep)
    (idle : upkeep.manager.operations = []) (loaded : upkeep.manager.isLoaded = true)
    {watcher : Watcher} {isDue : Bool} (free : watcher.isStopping = false)
    (running : watcher.status ≠ .stopped) :
    Orderly sdk definition { upkeep with watcher, isDue } where
  sdkRoot := orderly.sdkRoot
  file := orderly.file
  free := free
  stopped := fun stopped => absurd stopped running
  single := orderly.single
  busy := fun busy => absurd idle busy
  held := orderly.held
  read := orderly.read
  loaded := fun _ => loaded
  published := orderly.published

/-- A loop that waits for a refresh goes on when it is over; another watcher does nothing. -/
theorem watcher_refreshed (orderly : Orderly sdk definition upkeep)
    (busy : upkeep.manager.operations ≠ []) :
    ((upkeep.watcher.step .refreshed).getD upkeep.watcher = upkeep.watcher ∧
        upkeep.watcher.loop = .absent) ∨
      ∃ directory, upkeep.watcher.loop = .refreshing directory ∧
        (upkeep.watcher.step .refreshed).getD upkeep.watcher =
          { upkeep.watcher with status := .watching, loop := .subscribed directory } := by
  rcases orderly.busy busy with absent | ⟨directory, refreshing⟩
  · left
    simp [Watcher.step, orderly.free, Watcher.advance, absent]
  · right
    exact ⟨directory, refreshing, by simp [Watcher.step, orderly.free, Watcher.advance, refreshing]⟩

/-- The operation in flight ends with what it has read. -/
theorem finish (orderly : Orderly sdk definition upkeep) {operation : Manager.Operation}
    {outcome : Except LoadFailure State} (member : operation ∈ upkeep.manager.operations)
    (holds : upkeep.manager.holder = some operation.number)
    (read : upkeep.reading = some outcome) :
    Orderly sdk definition
      { upkeep with
        manager :=
          (upkeep.manager.record operation.task outcome).close operation
            (.of operation.task outcome)
        watcher := (upkeep.watcher.step .refreshed).getD upkeep.watcher
        reading := none } := by
  have only : upkeep.manager.operations = [operation] := by
    obtain ⟨other, same⟩ := List.length_eq_one_iff.mp
      (Nat.le_antisymm orderly.single (List.length_pos_of_mem member))
    rw [same] at member ⊢
    rw [List.mem_singleton.mp member]
  have released : ((upkeep.manager.record operation.task outcome).close operation
      (.of operation.task outcome)).holder = none := by
    simp [Manager.record_eq, Manager.close, holds]
  have emptied : ((upkeep.manager.record operation.task outcome).close operation
      (.of operation.task outcome)).operations = [] := by
    simp [Manager.record_eq, Manager.close, only]
  have published := orderly.published
  rw [read, Option.bind_some] at published
  have busy : upkeep.manager.operations ≠ [] := by simp [only]
  have free : ((upkeep.watcher.step .refreshed).getD upkeep.watcher).isStopping = false := by
    rcases orderly.watcher_refreshed busy with ⟨same, _⟩ | ⟨directory, _, goes⟩
    · rw [same]
      exact orderly.free
    · rw [goes]
      exact orderly.free
  exact
    { sdkRoot := orderly.sdkRoot
      file := by simpa [Manager.record_eq, Manager.close] using orderly.file
      free
      stopped := by
        rcases orderly.watcher_refreshed busy with ⟨same, absent⟩ | ⟨directory, _, goes⟩
        · rw [same]
          exact fun _ => absent
        · rw [goes]
          intro stopped
          contradiction
      single := by simp [emptied]
      busy := fun busy => absurd emptied busy
      held := by simp [released]
      read := by simp
      loaded := by
        rcases orderly.watcher_refreshed busy with ⟨same, absent⟩ | ⟨directory, refreshing, _⟩
        · rw [same]
          exact fun present => absurd absent present
        · intro _
          have loaded := orderly.loaded (by simp [refreshing])
          simp only [Manager.isLoaded, Manager.record_eq, Manager.close] at loaded ⊢
          rw [Option.isSome_or, loaded, Bool.or_true]
      published := by
        rw [← published, Manager.record_eq]
        rfl }

/-- There is order after every transition. -/
theorem transition (orderly : Orderly sdk definition upkeep)
    (change : Transition upkeep event next) : Orderly sdk definition next := by
  cases change with
  | change files => exact { orderly with }
  | load idle stopped =>
    exact orderly.begin .load idle orderly.free orderly.stopped (.inl (orderly.stopped stopped))
      orderly.loaded
  | acquire first free =>
    exact
      { orderly with
        held := by
          rintro number ⟨⟩
          exact ⟨_, List.mem_of_mem_head? first, rfl⟩
        read := by simp }
  | read held unread =>
    have published := orderly.published
    rw [unread, Option.bind_none, Option.none_or] at published
    exact
      { orderly with
        read := fun _ => held
        published := by
          rw [latest_concat, Option.bind_some, orderly.sdkRoot, orderly.file, published] }
  | finish member holds read => exact orderly.finish member holds read
  | start loaded idle stopped => exact orderly.watch idle loaded orderly.free nofun
  | @look _ directory isThere silent waits =>
    have present : upkeep.watcher.loop ≠ .absent := by
      rcases waits with waits | waits | waits <;> simp [waits]
    have waiting : ∀ directory, upkeep.watcher.loop ≠ .refreshing directory := by
      rcases waits with waits | waits | waits <;> simp [waits]
    obtain ⟨idle, _, _⟩ := orderly.idle present waiting
    refine orderly.watch idle (orderly.loaded present) ?_ ?_
    · rw [Watcher.look_isStopping, orderly.free]
    · rw [Watcher.look_status]
      exact fun stopped => present (orderly.stopped stopped)
  | fail silent subscribed =>
    obtain ⟨idle, _, _⟩ := orderly.idle (by simp [subscribed]) (by simp [subscribed])
    exact orderly.watch idle (orderly.loaded (by simp [subscribed])) orderly.free nofun
  | ask subscribed =>
    obtain ⟨idle, _, _⟩ := orderly.idle (by simp [subscribed]) (by simp [subscribed])
    exact orderly.begin .refresh idle orderly.free nofun (.inr ⟨_, rfl⟩)
      fun _ => orderly.loaded (by simp [subscribed])
  | stay => exact orderly

/-- There is order in every run. -/
theorem of_play {files : Files.System} {events : List Event} {last : Upkeep}
    (played : (Upkeep.initial sdk definition files).play events = some last) :
    Orderly sdk definition last :=
  Machine.invariant_of_play played (fun _ => Orderly sdk definition)
    (initial sdk definition files)
    fun _ orderly happens => orderly.transition (transition_of_step happens)

end Orderly

end Upkeep

end CompletionServer.Project
