import CompletionServer.Daemon
import CompletionServer.Proofs.Project.Watching

/-!
# A watcher from its start to its stop

A watcher is started and stopped any number of times, at any point at which its loop can be
suspended, while batches arrive, refreshes fail, subscriptions break and the directory comes and
goes. `Vigil` keeps book of this: how many loops were made and how many have ended, what every
refresh was started by and how many refreshes are done.

`Regular` says how the books agree with the watcher at all times: its status tells where its loop
is, there is at most one loop and at most one refresh, and refreshes were started by the batches
that concern the definition and by nothing else.
-/

namespace CompletionServer.Project

/-! ## Batches -/

/-- A batch of changes, and the files as they are when it is looked at. -/
structure Batch where
  files : Files.System
  changes : List Change

namespace Batch

variable {batch : Batch} {definition : Path}

/-- The paths of a definition and of all changes can be resolved. -/
structure Resolves (batch : Batch) (definition : Path) : Prop where
  target : ∃ path, batch.files.resolve definition = .ok path
  changes : ∀ change ∈ batch.changes, ∃ path, batch.files.resolve (.ofString change.path) = .ok path

/-- One of the changes is at the place that the definition's path leads to. -/
def Reports (batch : Batch) (definition : Path) : Prop :=
  ∃ target, batch.files.resolve definition = .ok target ∧
    ∃ change ∈ batch.changes, batch.files.resolve (.ofString change.path) = .ok target

/-- Whether a batch is found to concern a definition. -/
def isConcerned (batch : Batch) (definition : Path) : Bool :=
  concerns batch.files definition batch.changes matches .ok true

/-- Looking through changes whose paths can be resolved comes to a result, which tells whether one
of them is at the place. -/
theorem look_eq_ok {system : Files.System} (target : Path) {changes : List Change}
    (resolve : ∀ change ∈ changes, ∃ path, system.resolve (.ofString change.path) = .ok path) :
    ∃ found, concerns.look system target changes = .ok found ∧
      (found = true ↔ ∃ change ∈ changes, system.resolve (.ofString change.path) = .ok target) := by
  induction changes with
  | nil => exact ⟨false, rfl, by simp⟩
  | cons change rest ih =>
    obtain ⟨⟨path, here⟩, later⟩ := List.forall_mem_cons.mp resolve
    obtain ⟨found, looked, found_iff⟩ := ih later
    by_cases same : path = target
    · refine ⟨true, ?_, iff_of_true rfl ⟨change, List.mem_cons_self, same ▸ here⟩⟩
      rw [concerns.look, here]
      exact if_pos same
    · refine ⟨found, ?_, ?_⟩
      · rw [concerns.look, here]
        exact (if_neg same).trans looked
      · simp [found_iff, here, same]

/-- A batch whose paths can be resolved is found to concern a definition exactly when one of its
changes is at the definition's place, wherever it stands in the batch. -/
theorem isConcerned_iff (resolves : batch.Resolves definition) :
    batch.isConcerned definition = true ↔ batch.Reports definition := by
  obtain ⟨target, resolved⟩ := resolves.target
  obtain ⟨found, looked, found_iff⟩ := look_eq_ok target resolves.changes
  have outcome : concerns batch.files definition batch.changes = .ok found := by
    rw [concerns, resolved]
    exact looked
  have reports : batch.Reports definition ↔
      ∃ change ∈ batch.changes, batch.files.resolve (.ofString change.path) = .ok target := by
    simp [Reports, resolved]
  rw [reports, ← found_iff, isConcerned, outcome]
  cases found <;> simp

end Batch

/-! ## The books -/

namespace Vigil

/-- Something that happens to a watcher of a definition, with the files as they are then. -/
inductive Event
  /-- The watcher is asked to start. -/
  | start
  /-- The watcher is asked to stop. -/
  | stop
  /-- A loop that was told to end has ended. -/
  | unwind
  /-- The request to stop is done. -/
  | stopped
  /-- A new loop runs for the first time. -/
  | run (files : Files.System)
  /-- A batch is delivered. -/
  | deliver (batch : Batch)
  /-- The refresh is over: it tells whether it succeeded, or is broken by a fault. -/
  | refreshed (outcome : Except Fault Bool)
  /-- The subscription breaks. -/
  | fail (fault : Fault)
  /-- The subscription comes to its end. -/
  | finish (files : Files.System)
  /-- The loop's wait is over. -/
  | retry (files : Files.System)

/-- What an event is to a watcher of a definition, none if the definition's own path cannot be
resolved. A batch that cannot be looked at breaks the subscription. -/
def Event.toWatcher (definition : Path) (watcher : Watcher) : Event → Option Watcher.Event
  | .start => some .start
  | .stop => some .stop
  | .unwind => some .unwind
  | .stopped => some .stopped
  | .run files =>
    match watchedDirectory files definition with
    | .ok directory => some (.run directory (files.isThere directory))
    | .error _ => none
  | .deliver batch =>
    match concerns batch.files definition batch.changes with
    | .ok concerned => some (.deliver concerned)
    | .error _ => some .fail
  | .refreshed _ => some .refreshed
  | .fail _ => some .fail
  | .finish files => some (.finish (Daemon.directoryIsThere files watcher))
  | .retry files => some (.retry (Daemon.directoryIsThere files watcher))

/-- The batches that are delivered in some events. -/
def batches (events : List Event) : List Batch :=
  events.filterMap fun
    | .deliver batch => some batch
    | _ => none

/-- How many refreshes a loop waits for. -/
def refreshesAt : Watcher.Loop → Nat
  | .refreshing _ => 1
  | _ => 0

end Vigil

/-- A watcher of a definition, and the books that are kept of it. -/
structure Vigil where
  definition : Path
  watcher : Watcher
  /-- How many loops were made. -/
  made : Nat
  /-- How many loops have ended. -/
  ended : Nat
  /-- The event by which each refresh was started, in order. -/
  asked : List Vigil.Event
  /-- How many refreshes are done, or were given up with their loop. -/
  answered : Nat

namespace Vigil

/-- A watcher that was never started. -/
def initial (definition : Path) : Vigil := ⟨definition, .idle, 0, 0, [], 0⟩

/-- An event that is something to the watcher is written down. -/
def record (vigil : Vigil) (event : Event) (inner : Watcher.Event) (watcher : Watcher) : Vigil :=
  { vigil with
    watcher
    made := vigil.made + if inner = .start ∧ vigil.watcher.isRunning = false then 1 else 0
    ended := vigil.ended + if inner = .unwind then 1 else 0
    asked := vigil.asked ++ List.replicate (watcher.refreshes - vigil.watcher.refreshes) event
    answered := vigil.answered +
      if inner = .refreshed then 1
      else if inner = .unwind then refreshesAt vigil.watcher.loop else 0 }

/-- The vigil after an event, none if the event cannot happen. -/
def step (vigil : Vigil) (event : Event) : Option Vigil :=
  (event.toWatcher vigil.definition vigil.watcher).bind fun inner =>
    (vigil.watcher.step inner).map (vigil.record event inner)

/-- The vigil after some events in order, none if one of them cannot happen. -/
abbrev play (vigil : Vigil) (events : List Event) : Option Vigil :=
  Machine.play step vigil events

/-! ## Runs -/

section Runs

variable {vigil next last : Vigil} {event : Event} {events : List Event}

/-- A step is a transition of the watcher, which is written down. -/
theorem exists_of_step (happens : vigil.step event = some next) :
    ∃ inner watcher, event.toWatcher vigil.definition vigil.watcher = some inner ∧
      Watcher.Transition vigil.watcher inner watcher ∧
      next = vigil.record event inner watcher := by
  obtain ⟨inner, means, recorded⟩ := Option.bind_eq_some_iff.mp happens
  obtain ⟨watcher, steps, rfl⟩ := Option.map_eq_some_iff.mp recorded
  exact ⟨inner, watcher, means, Watcher.transition_of_step steps, rfl⟩

end Runs

/-! ## How the books agree with the watcher -/

/-- What the status is when a loop is at some place and nobody is stopping it. -/
def statusAt : Watcher.Loop → Watcher.Status
  | .absent => .stopped
  | .refreshing _ => .refreshing
  | _ => .watching

/-- How many loops are at a place. -/
def loopsAt : Watcher.Loop → Nat
  | .absent => 0
  | _ => 1

/-- The status tells of a refresh exactly where a loop waits for one. -/
theorem statusAt_eq_refreshing_iff (loop : Watcher.Loop) :
    statusAt loop = .refreshing ↔ refreshesAt loop = 1 := by
  cases loop <;> simp [statusAt, refreshesAt]

/-- The status tells that there is no loop exactly where there is none. -/
theorem statusAt_eq_stopped_iff (loop : Watcher.Loop) :
    statusAt loop = .stopped ↔ loop = .absent := by
  cases loop <;> simp [statusAt]

/-- There is a loop at every place but one. -/
theorem loopsAt_of_ne {loop : Watcher.Loop} (present : loop ≠ .absent) : loopsAt loop = 1 := by
  cases loop <;> simp_all [loopsAt]

/-- The books of a watcher of a definition agree with it after some events. -/
structure Regular (file : Path) (events : List Event) (vigil : Vigil) : Prop where
  definition : vigil.definition = file
  /-- The loop that is there is the only one that was made and has not ended. -/
  loops : vigil.made = vigil.ended + loopsAt vigil.watcher.loop
  /-- The status tells where the loop is, except between the end of a loop and the end of the
  request to stop. -/
  status : vigil.watcher.isStopping = false ∨ vigil.watcher.loop ≠ .absent →
    vigil.watcher.status = statusAt vigil.watcher.loop
  /-- Without a loop the status does not tell of a refresh. -/
  quiet : vigil.watcher.loop = .absent → vigil.watcher.status ≠ .refreshing
  /-- The refresh that the loop waits for is the only one that is not done. -/
  refreshes : vigil.asked.length = vigil.answered + refreshesAt vigil.watcher.loop
  /-- Each batch that concerns the definition has started one refresh. -/
  asked : vigil.asked = ((batches events).filter (·.isConcerned file)).map Event.deliver

/-- Only a batch that concerns the definition asks for a refresh. -/
theorem refreshes_of_transition {watcher next : Watcher} {inner : Watcher.Event}
    (change : Watcher.Transition watcher inner next) :
    next.refreshes = watcher.refreshes + if inner = .deliver true then 1 else 0 := by
  cases change with
  | run directory isThere => cases isThere <;> rfl
  | finish isThere => cases isThere <;> rfl
  | retry isThere => cases isThere <;> rfl
  | _ => rfl

/-- An event brings a batch that concerns the definition exactly if it is that to the watcher. -/
theorem concerned_of_toWatcher {file : Path} {watcher : Watcher} {event : Event}
    {inner : Watcher.Event} (means : event.toWatcher file watcher = some inner) :
    ((batches [event]).filter (·.isConcerned file)).map Event.deliver =
      if inner = .deliver true then [event] else [] := by
  cases event with
  | deliver batch =>
    have single : batches [.deliver batch] = [batch] := rfl
    rw [single]
    cases looked : concerns batch.files file batch.changes with
    | error fault =>
      obtain rfl : Watcher.Event.fail = inner := by simpa [Event.toWatcher, looked] using means
      simp [Batch.isConcerned, looked]
    | ok concerned =>
      obtain rfl : Watcher.Event.deliver concerned = inner := by
        simpa [Event.toWatcher, looked] using means
      cases concerned <;> simp [Batch.isConcerned, looked]
  | run files =>
    have other : inner ≠ .deliver true := by
      rintro rfl
      simp only [Event.toWatcher] at means
      split at means <;> simp at means
    rw [if_neg other]
    rfl
  | _ =>
    obtain rfl := Option.some.inj means
    rfl

namespace Regular

variable {file : Path} {events : List Event} {vigil : Vigil} {event : Event}
  {inner : Watcher.Event} {watcher : Watcher}

/-- The books of a watcher that was never started agree with it. -/
theorem initial (file : Path) : Regular file [] (initial file) where
  definition := rfl
  loops := rfl
  status _ := rfl
  quiet := by simp [Vigil.initial, Watcher.idle]
  refreshes := rfl
  asked := rfl

/-- The books go on to agree if there are as many loops after an event as were there, are made and
do not end, and likewise as many refreshes. -/
theorem of_record (regular : Regular file events vigil)
    (means : event.toWatcher vigil.definition vigil.watcher = some inner)
    (change : Watcher.Transition vigil.watcher inner watcher)
    (loops : (if inner = .start ∧ vigil.watcher.isRunning = false then 1 else 0) +
        loopsAt vigil.watcher.loop =
      (if inner = .unwind then 1 else 0) + loopsAt watcher.loop)
    (status : watcher.isStopping = false ∨ watcher.loop ≠ .absent →
      watcher.status = statusAt watcher.loop)
    (quiet : watcher.loop = .absent → watcher.status ≠ .refreshing)
    (refreshes : (if inner = .deliver true then 1 else 0) + refreshesAt vigil.watcher.loop =
      (if inner = .refreshed then 1
        else if inner = .unwind then refreshesAt vigil.watcher.loop else 0) +
        refreshesAt watcher.loop) :
    Regular file (events ++ [event]) (vigil.record event inner watcher) where
  definition := regular.definition
  loops := by
    have before := regular.loops
    simp only [record]
    omega
  status := status
  quiet := quiet
  refreshes := by
    have before := regular.refreshes
    simp only [record, refreshes_of_transition change, List.length_append, List.length_replicate]
    omega
  asked := by
    rw [regular.definition] at means
    have concerned := concerned_of_toWatcher means
    have more : batches (events ++ [event]) = batches events ++ batches [event] :=
      List.filterMap_append
    rw [more, List.filter_append, List.map_append, ← regular.asked, concerned]
    simp only [record, refreshes_of_transition change, Nat.add_sub_cancel_left]
    split <;> rfl

/-- A loop that goes from one place to another at which the status tells of watching. -/
theorem of_moved (regular : Regular file events vigil)
    (means : event.toWatcher vigil.definition vigil.watcher = some inner)
    (change : Watcher.Transition vigil.watcher inner watcher)
    (moves : inner ≠ .start ∧ inner ≠ .unwind ∧ inner ≠ .deliver true ∧ inner ≠ .refreshed)
    (watching : statusAt vigil.watcher.loop = .watching)
    (watches : statusAt watcher.loop = .watching) (status : watcher.status = .watching) :
    Regular file (events ++ [event]) (vigil.record event inner watcher) := by
  obtain ⟨notStart, notUnwind, notAsk, notDone⟩ := moves
  have counts {loop : Watcher.Loop} (waits : statusAt loop = .watching) :
      loopsAt loop = 1 ∧ refreshesAt loop = 0 := by
    cases loop <;> simp_all [statusAt, loopsAt, refreshesAt]
  refine regular.of_record means change ?_ (fun _ => status.trans watches.symm) (fun _ => ?_) ?_
  · simp [notStart, notUnwind, counts watching, counts watches]
  · simp [status]
  · simp [notAsk, notDone, notUnwind, counts watching, counts watches]

/-- A loop that looks for its directory. -/
theorem look (regular : Regular file events vigil)
    (means : event.toWatcher vigil.definition vigil.watcher = some inner)
    {directory : Path} {isThere : Bool}
    (change : Watcher.Transition vigil.watcher inner (vigil.watcher.look directory isThere))
    (moves : inner ≠ .start ∧ inner ≠ .unwind ∧ inner ≠ .deliver true ∧ inner ≠ .refreshed)
    (free : vigil.watcher.isStopping = false)
    (watching : statusAt vigil.watcher.loop = .watching) :
    Regular file (events ++ [event])
      (vigil.record event inner (vigil.watcher.look directory isThere)) := by
  refine regular.of_moved means change moves watching ?_ ?_
  · cases isThere <;> rfl
  · rw [Watcher.look_status, regular.status (.inl free), watching]

/-- Every transition of the watcher that is written down keeps the books in agreement. -/
theorem transition (regular : Regular file events vigil)
    (means : event.toWatcher vigil.definition vigil.watcher = some inner)
    (change : Watcher.Transition vigil.watcher inner watcher) :
    Regular file (events ++ [event]) (vigil.record event inner watcher) := by
  have written := regular.of_record means change
  cases change with
  | start free stopped =>
    -- A loop that were still there would make the status tell of it.
    have absent : vigil.watcher.loop = .absent :=
      (statusAt_eq_stopped_iff _).mp ((regular.status (.inl free)).symm.trans stopped)
    exact written (by simp [absent, Watcher.isRunning, stopped, loopsAt]) (fun _ => rfl) (by simp)
      (by simp [absent, refreshesAt])
  | again free running =>
    exact written (by simp [Watcher.isRunning, running]) regular.status regular.quiet (by simp)
  | halt free absent =>
    exact written (by simp) (fun _ => by simp [absent, statusAt]) (by simp) (by simp)
  | stop free present =>
    exact written (by simp) (fun _ => regular.status (.inl free)) regular.quiet (by simp)
  | unwind stopping present =>
    refine written ?_ ?_ (fun _ => ?_) ?_
    · rw [loopsAt_of_ne present]
      simp [Watcher.unwound, loopsAt]
    · simp [Watcher.unwound, stopping]
    · by_cases created : vigil.watcher.loop = .created
      · simp [Watcher.unwound, created, regular.status (.inr present), statusAt]
      · simp [Watcher.unwound, created]
    · simp [Watcher.unwound, refreshesAt]
  | stopped stopping absent =>
    exact written (by simp) (fun _ => by simp [absent, statusAt]) (by simp) (by simp)
  | run directory isThere free created =>
    exact regular.look means (.run directory isThere free created) (by simp) free
      (by simp [created, statusAt])
  | ask free subscribed =>
    exact written (by simp [subscribed, loopsAt]) (fun _ => rfl) (by simp)
      (by simp [subscribed, refreshesAt])
  | pass free subscribed =>
    exact written (by simp) regular.status regular.quiet (by simp)
  | refreshed free refreshing =>
    exact written (by simp [refreshing, loopsAt]) (fun _ => rfl) (by simp)
      (by simp [refreshing, refreshesAt])
  | fail free subscribed =>
    exact regular.of_moved means (.fail free subscribed) (by simp) (by simp [subscribed, statusAt])
      rfl rfl
  | finish isThere free subscribed =>
    exact regular.look means (.finish isThere free subscribed) (by simp) free
      (by simp [subscribed, statusAt])
  | retry isThere free retrying =>
    exact regular.look means (.retry isThere free retrying) (by simp) free
      (by simp [retrying, statusAt])

/-- The books agree with the watcher after every run. -/
theorem of_play {last : Vigil} (played : (Vigil.initial file).play events = some last) :
    Regular file events last := by
  refine Machine.invariant_of_play played (Regular file) (.initial file)
    fun _ regular happens => ?_
  obtain ⟨inner, watcher, means, change, rfl⟩ := exists_of_step happens
  exact regular.transition means change

end Regular

/-! ## Running, stopping and subscribing again -/

section Courses

variable {file : Path} {events : List Event} {vigil last : Vigil}

/-- A transition without a request to stop ends no loop and stops no watcher. -/
theorem running_of_transition {watcher next : Watcher} {inner : Watcher.Event}
    (change : Watcher.Transition watcher inner next) (free : watcher.isStopping = false)
    (running : watcher.status ≠ .stopped) (unasked : inner ≠ .stop) :
    next.isStopping = false ∧ next.status ≠ .stopped ∧ inner ≠ .unwind := by
  cases change with
  | start => exact ⟨free, by simp, by simp⟩
  | again => exact ⟨free, running, by simp⟩
  | halt => exact absurd rfl unasked
  | stop => exact absurd rfl unasked
  | unwind stopping => simp [free] at stopping
  | stopped stopping => simp [free] at stopping
  | run | finish | retry =>
    rw [Watcher.look_isStopping, Watcher.look_status]
    exact ⟨free, running, by simp⟩
  | ask => exact ⟨free, by simp, by simp⟩
  | pass => exact ⟨free, running, by simp⟩
  | refreshed => exact ⟨free, by simp, by simp⟩
  | fail => exact ⟨free, by simp, by simp⟩

/-- Only a request to stop is one to the watcher. -/
theorem eq_stop_of_toWatcher {watcher : Watcher} {event : Event}
    (means : event.toWatcher file watcher = some .stop) : event = .stop := by
  cases event with
  | stop => rfl
  | run files =>
    simp only [Event.toWatcher] at means
    split at means <;> simp at means
  | deliver batch =>
    simp only [Event.toWatcher] at means
    split at means <;> simp at means
  | _ => simp [Event.toWatcher] at means

/-- A watcher that runs goes on with the loop that it has for as long as nobody asks it to stop,
whatever happens to its refreshes and subscriptions. -/
theorem running_of_play (played : vigil.play events = some last)
    (free : vigil.watcher.isStopping = false) (running : vigil.watcher.status ≠ .stopped)
    (unasked : .stop ∉ events) :
    last.watcher.isStopping = false ∧ last.watcher.status ≠ .stopped ∧
      last.ended = vigil.ended := by
  induction events generalizing vigil with
  | nil =>
    obtain rfl := Option.some.inj played
    exact ⟨free, running, rfl⟩
  | cons event rest ih =>
    obtain ⟨next, happens, goes⟩ := Option.bind_eq_some_iff.mp played
    obtain ⟨inner, watcher, means, change, rfl⟩ := exists_of_step happens
    obtain ⟨other, later⟩ := not_or.mp (mt List.mem_cons.mpr unasked)
    have notStop : inner ≠ .stop := by
      rintro rfl
      exact other (eq_stop_of_toWatcher means).symm
    obtain ⟨stillFree, runs, lives⟩ := running_of_transition change free running notStop
    obtain ⟨freeLast, runsLast, same⟩ := ih goes stillFree runs later
    refine ⟨freeLast, runsLast, same.trans ?_⟩
    simp [record, lives]

/-- A request to stop can be made whenever none is under way, wherever the loop is suspended, and it
comes to its end with the watcher stopped. -/
theorem exists_stopped (free : vigil.watcher.isStopping = false) :
    ∃ ending final, vigil.play (.stop :: ending) = some final ∧
      final.watcher.isStopping = false ∧ final.watcher.status = .stopped ∧
      final.watcher.loop = .absent ∧ final.asked = vigil.asked := by
  by_cases absent : vigil.watcher.loop = .absent
  · refine ⟨[], vigil.record .stop .stop { vigil.watcher with status := .stopped }, ?_, free, rfl,
      absent, by simp [record]⟩
    simp [play, step, Event.toWatcher, Watcher.step, free, absent]
  · let told := vigil.record .stop .stop { vigil.watcher with isStopping := true }
    let ended := told.record .unwind .unwind told.watcher.unwound
    let final := ended.record .stopped .stopped
      { ended.watcher with status := .stopped, isStopping := false }
    have tells : vigil.step .stop = some told := by
      simp [step, Event.toWatcher, Watcher.step, free, absent, told]
    have ends : told.step .unwind = some ended := by
      simp [step, Event.toWatcher, Watcher.step, absent, told, record, ended]
    have stops : ended.step .stopped = some final := by
      simp [step, Event.toWatcher, Watcher.step, told, record, ended, Watcher.unwound, final]
    refine ⟨[.unwind, .stopped], final, ?_, rfl, rfl, rfl, ?_⟩
    · simp [play, tells, ends, stops]
    · simp [final, ended, told, record, Watcher.unwound]

/-- A loop without a subscription gets one as soon as its wait is over and the directory is
there. -/
theorem step_retry {directory : Path} {files : Files.System}
    (free : vigil.watcher.isStopping = false) (retrying : vigil.watcher.loop = .retrying directory)
    (isThere : files.isThere directory = true) :
    ∃ next, vigil.step (.retry files) = some next ∧ next.watcher.loop = .subscribed directory ∧
      next.watcher.subscriptions = vigil.watcher.subscriptions ++ [directory] := by
  refine ⟨vigil.record (.retry files) (.retry true) (vigil.watcher.look directory true), ?_, rfl,
    rfl⟩
  simp [step, Event.toWatcher, Daemon.directoryIsThere, Daemon.loopDirectory, Watcher.step,
    Watcher.advance, free, retrying, isThere]

end Courses

/-- In every run of starts and stops, at most one stop at a time, among batches, refreshes that
succeed, fail or are broken, subscriptions that break or end, and a directory that comes and goes:

* of the loops that were made at most one has not ended, and whenever no request to stop is under
  way there is one exactly if the watcher is not stopped;
* refreshes were started by the batches that concern the definition, one by each and in their order;
  these are the batches with a change at the definition's place, if paths can be resolved;
* of the refreshes that were started at most one is not done, and there is one exactly while the
  watcher is refreshing;
* a watcher that runs is not stopped, and its loop does not end, before it is asked to stop: it can
  be asked at any time and is stopped then, and a loop that has lost its subscription gets
  another. -/
theorem watches_until_stopped {file : Path} {events : List Event} {last : Vigil}
    (played : (initial file).play events = some last) :
    (last.ended ≤ last.made ∧ last.made ≤ last.ended + 1 ∧
      (last.watcher.isStopping = false →
        (last.made = last.ended + 1 ↔ last.watcher.status ≠ .stopped))) ∧
    (last.asked = ((batches events).filter (·.isConcerned file)).map Event.deliver ∧
      ∀ batch ∈ batches events, batch.Resolves file →
        (batch.isConcerned file = true ↔ batch.Reports file)) ∧
    (last.answered ≤ last.asked.length ∧ last.asked.length ≤ last.answered + 1 ∧
      (last.asked.length = last.answered + 1 ↔ last.watcher.status = .refreshing)) ∧
    ((∀ before later middle, events = before ++ later →
        (initial file).play before = some middle → middle.watcher.isStopping = false →
        middle.watcher.status ≠ .stopped → .stop ∉ later →
        last.watcher.status ≠ .stopped ∧ last.ended = middle.ended) ∧
      (last.watcher.isStopping = false → ∃ ending final,
        last.play (.stop :: ending) = some final ∧ final.watcher.isStopping = false ∧
        final.watcher.status = .stopped ∧ final.made = final.ended ∧ final.asked = last.asked) ∧
      ∀ directory files, last.watcher.isStopping = false →
        last.watcher.loop = .retrying directory → files.isThere directory = true →
        ∃ next, last.step (.retry files) = some next ∧
          next.watcher.loop = .subscribed directory ∧
          next.watcher.subscriptions = last.watcher.subscriptions ++ [directory]) := by
  have regular := Regular.of_play played
  refine ⟨?_, ⟨regular.asked, fun batch _ => Batch.isConcerned_iff⟩, ?_, ?_, ?_, ?_⟩
  · have loops := regular.loops
    by_cases absent : last.watcher.loop = .absent
    · have none : loopsAt last.watcher.loop = 0 := by rw [absent, loopsAt]
      refine ⟨by omega, by omega, fun free => iff_of_false (by omega) ?_⟩
      rw [Classical.not_not, regular.status (.inl free), absent, statusAt]
    · have one := loopsAt_of_ne absent
      refine ⟨by omega, by omega, fun free => iff_of_true (by omega) ?_⟩
      rw [regular.status (.inl free), ne_eq, statusAt_eq_stopped_iff]
      exact absent
  · have refreshes := regular.refreshes
    have telling : last.watcher.status = .refreshing ↔ refreshesAt last.watcher.loop = 1 := by
      by_cases absent : last.watcher.loop = .absent
      · exact iff_of_false (regular.quiet absent) (by simp [absent, refreshesAt])
      · rw [regular.status (.inr absent), statusAt_eq_refreshing_iff]
    have atMost : refreshesAt last.watcher.loop ≤ 1 := by
      cases last.watcher.loop <;> simp [refreshesAt]
    rw [telling]
    omega
  · rintro before later middle rfl playedBefore free running unasked
    have goesOn := (Machine.play_append_of_play playedBefore later).symm.trans played
    exact (running_of_play goesOn free running unasked).2
  · intro free
    obtain ⟨ending, final, stops, done, stopped, absent, asked⟩ := exists_stopped free
    refine ⟨ending, final, stops, done, stopped, ?_, asked⟩
    have whole : (initial file).play (events ++ .stop :: ending) = some final :=
      (Machine.play_append_of_play played _).trans stops
    have loops := (Regular.of_play whole).loops
    rwa [absent, loopsAt, Nat.add_zero] at loops
  · intro directory files free retrying isThere
    exact step_retry free retrying isThere

/-- Files with a definition. -/
def someFiles : Files.System := ⟨⟨[(["App.yaml"], .file [])]⟩, [], "", []⟩

/-- A batch with changes of the files with some names. -/
def batchOf (names : List String) : Batch := ⟨someFiles, names.map (⟨.modified, ·⟩)⟩

/-- A watcher is stopped before its start and before its loop has run. It is started again, passes a
batch over, has a refresh broken, loses its subscription and is refreshing once more. -/
def eventfulRun : List Event :=
  [.stop, .start, .stop, .unwind, .stopped, .start, .start, .run someFiles,
    .deliver (batchOf ["/notes.txt"]), .deliver (batchOf ["/notes.txt", "/App.yaml"]),
    .refreshed (.error .notLoaded), .fail .notLoaded, .retry someFiles,
    .deliver (batchOf ["/App.yaml", "/notes.txt"])]

/-- After that run the second loop waits for the second refresh, and it can be stopped there. -/
theorem watches_until_stopped_refreshing :
    ∃ last, (initial (.ofString "/App.yaml")).play eventfulRun = some last ∧
      last.made = 2 ∧ last.ended = 1 ∧ last.answered = 1 ∧ last.watcher.status = .refreshing ∧
      last.asked.length = 2 ∧
      ∃ ending final, last.play (.stop :: ending) = some final ∧
        final.watcher.status = .stopped ∧ final.made = final.ended := by
  obtain ⟨last, played, books⟩ : ∃ last ∈ (initial (.ofString "/App.yaml")).play eventfulRun,
      (last.made, last.ended, last.answered, last.watcher.status, last.watcher.isStopping) =
        (2, 1, 1, .refreshing, false) := by
    decide +kernel
  obtain ⟨made, ended, answered, refreshing, free⟩ :
      last.made = 2 ∧ last.ended = 1 ∧ last.answered = 1 ∧
        last.watcher.status = .refreshing ∧ last.watcher.isStopping = false := by
    simpa using books
  obtain ⟨_, _, ⟨_, _, pending⟩, _, stops, _⟩ := watches_until_stopped played
  obtain ⟨ending, final, plays, _, stopped, none, _⟩ := stops free
  refine ⟨last, played, made, ended, answered, refreshing, ?_, ending, final, plays, stopped, none⟩
  rw [pending.mpr refreshing, answered]

end Vigil

end CompletionServer.Project
