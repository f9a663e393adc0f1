import CompletionServer.Project.Watcher

/-!
# What a step of the watcher can do

`Watcher.step` decides by the loop's place which events can happen. `Transition` says the same as a
relation with one constructor for each kind of change.
-/

namespace CompletionServer.Project.Watcher

/-- Looking for the directory is no matter of status. -/
theorem look_status (watcher : Watcher) (directory : Path) (isThere : Bool) :
    (watcher.look directory isThere).status = watcher.status := by
  cases isThere <;> rfl

/-- Looking for the directory does not end the loop. -/
theorem look_isStopping (watcher : Watcher) (directory : Path) (isThere : Bool) :
    (watcher.look directory isThere).isStopping = watcher.isStopping := by
  cases isThere <;> rfl

/-- The ways in which an event changes a watcher. -/
inductive Transition (watcher : Watcher) : Event → Watcher → Prop
  /-- A watcher that was stopped gets a loop. -/
  | start (free : watcher.isStopping = false) (stopped : watcher.status = .stopped) :
      Transition watcher .start { watcher with status := .watching, loop := .created }
  /-- A watcher that is started stays as it is. -/
  | again (free : watcher.isStopping = false) (running : watcher.status ≠ .stopped) :
      Transition watcher .start watcher
  /-- A watcher without a loop is stopped at once. -/
  | halt (free : watcher.isStopping = false) (absent : watcher.loop = .absent) :
      Transition watcher .stop { watcher with status := .stopped }
  /-- A loop is told to end. -/
  | stop (free : watcher.isStopping = false) (present : watcher.loop ≠ .absent) :
      Transition watcher .stop { watcher with isStopping := true }
  /-- A loop that was told to end has ended. -/
  | unwind (stopping : watcher.isStopping = true) (present : watcher.loop ≠ .absent) :
      Transition watcher .unwind watcher.unwound
  /-- The loop has ended, and the request to stop is done. -/
  | stopped (stopping : watcher.isStopping = true) (absent : watcher.loop = .absent) :
      Transition watcher .stopped { watcher with status := .stopped, isStopping := false }
  /-- A new loop looks for its directory. -/
  | run (directory : Path) (isThere : Bool) (free : watcher.isStopping = false)
      (created : watcher.loop = .created) :
      Transition watcher (.run directory isThere) (watcher.look directory isThere)
  /-- A batch that concerns the definition asks for a refresh. -/
  | ask {directory : Path} (free : watcher.isStopping = false)
      (subscribed : watcher.loop = .subscribed directory) :
      Transition watcher (.deliver true)
        { watcher with
          status := .refreshing
          loop := .refreshing directory
          refreshes := watcher.refreshes + 1 }
  /-- A batch that does not concern it is passed over. -/
  | pass {directory : Path} (free : watcher.isStopping = false)
      (subscribed : watcher.loop = .subscribed directory) :
      Transition watcher (.deliver false) watcher
  /-- The refresh is over. -/
  | refreshed {directory : Path} (free : watcher.isStopping = false)
      (refreshing : watcher.loop = .refreshing directory) :
      Transition watcher .refreshed
        { watcher with status := .watching, loop := .subscribed directory }
  /-- The subscription breaks. -/
  | fail {directory : Path} (free : watcher.isStopping = false)
      (subscribed : watcher.loop = .subscribed directory) :
      Transition watcher .fail
        { watcher with status := .watching, loop := .retrying directory }
  /-- The subscription comes to its end, and the loop looks for its directory. -/
  | finish {directory : Path} (isThere : Bool) (free : watcher.isStopping = false)
      (subscribed : watcher.loop = .subscribed directory) :
      Transition watcher (.finish isThere) (watcher.look directory isThere)
  /-- A wait is over, and the loop looks for its directory. -/
  | retry {directory : Path} (isThere : Bool) (free : watcher.isStopping = false)
      (retrying : watcher.loop = .retrying directory) :
      Transition watcher (.retry isThere) (watcher.look directory isThere)

/-- What the loop does with an event is one of the transitions. -/
theorem transition_of_advance {watcher next : Watcher} {event : Event}
    (free : watcher.isStopping = false)
    (advances : watcher.advance watcher.loop event = some next) :
    Transition watcher event next := by
  unfold advance at advances
  split at advances
  · next created =>
    obtain rfl := Option.some.inj advances
    exact .run _ _ free created
  · next subscribed =>
    obtain rfl := Option.some.inj advances
    exact .ask free subscribed
  · next subscribed =>
    obtain rfl := Option.some.inj advances
    exact .pass free subscribed
  · next refreshing =>
    obtain rfl := Option.some.inj advances
    exact .refreshed free refreshing
  · next subscribed =>
    obtain rfl := Option.some.inj advances
    exact .fail free subscribed
  · next subscribed =>
    obtain rfl := Option.some.inj advances
    exact .finish _ free subscribed
  · next retrying =>
    obtain rfl := Option.some.inj advances
    exact .retry _ free retrying
  · contradiction

/-- Whatever a step does is one of the transitions. -/
theorem transition_of_step {watcher next : Watcher} {event : Event}
    (happens : watcher.step event = some next) : Transition watcher event next := by
  unfold step at happens
  split at happens
  · next stopping =>
    split at happens
    · split at happens
      · contradiction
      · next present =>
        obtain rfl := Option.some.inj happens
        exact .unwind stopping present
    · split at happens
      · next absent =>
        obtain rfl := Option.some.inj happens
        exact .stopped stopping absent
      · contradiction
    · contradiction
  · next goes =>
    have free : watcher.isStopping = false := Bool.eq_false_iff.mpr goes
    split at happens
    · split at happens
      · next running =>
        obtain rfl := Option.some.inj happens
        exact .again free (by simpa [isRunning] using running)
      · next stopped =>
        obtain rfl := Option.some.inj happens
        exact .start free (by simpa [isRunning] using stopped)
    · split at happens
      · next absent =>
        obtain rfl := Option.some.inj happens
        exact .halt free absent
      · next present =>
        obtain rfl := Option.some.inj happens
        exact .stop free present
    · exact transition_of_advance free happens

end CompletionServer.Project.Watcher
