import CompletionServer.Proofs.Project.History
import Mathlib.Data.List.Nodup

/-!
# What is published

However loads and refreshes overlap, fail and are given up, what a manager publishes, counts and
remembers is what the operations did one after another in the order in which they got the lock.
-/

namespace CompletionServer.Project.Manager

/-! ## What an end leaves behind -/

/-- The error that is remembered of a refresh. -/
def errorOf (file : Path) : Except LoadFailure State → Option LoadError
  | .ok _ => none
  | .error failure => some (refreshError file failure)

/-- The end of an operation changes what is published, counted and remembered: a state replaces
the one before it, and a refresh is counted if it gave one and remembered if not. -/
theorem record_eq (manager : Manager) (task : Task) (outcome : Except LoadFailure State) :
    manager.record task outcome =
      { manager with
        state := outcome.toOption.or manager.state
        refreshCount := manager.refreshCount + if task = .refresh && outcome.isOk then 1 else 0
        lastError :=
          if task = .refresh then errorOf manager.file outcome else manager.lastError } := by
  cases task <;> cases outcome <;> rfl

/-! ## A manager that is what its events say -/

/-- The manager of a file is what its events say. -/
structure Follows (definition : Path) (events : List Event) (manager : Manager) : Prop where
  file : manager.file = definition
  next : manager.next = (tasks events).length
  operations : ∀ operation ∈ manager.operations,
    (tasks events)[operation.number]? = some operation.task ∧
      isOver events operation.number = false
  ended : ∀ number, isOver events number = true → number < (tasks events).length
  turned : ∀ number ∈ turns events, number < (tasks events).length
  distinct : (turns events).Nodup
  inside : inside events = manager.holder.toList
  latest : ∀ number, manager.holder = some number → (turns events).getLast? = some number
  state : manager.state = (published events).getLast?
  refreshCount : manager.refreshCount = (refreshed events).countP Except.isOk
  lastError : manager.lastError = (refreshed events).getLast?.bind (errorOf definition)

namespace Follows

variable {definition : Path} {events : List Event} {manager : Manager} {operation : Operation}

/-- A new manager has taken no events. -/
theorem create (definition : Path) : Follows definition [] (create definition) where
  file := rfl
  next := rfl
  operations := by simp [Manager.create]
  ended := by simp [isOver]
  turned := by simp [turns]
  distinct := List.nodup_nil
  inside := rfl
  latest := by simp [Manager.create]
  state := rfl
  refreshCount := rfl
  lastError := rfl

/-- An event that tells no outcome leaves what is known of the refreshes. -/
theorem refreshed_silent (follows : Follows definition events manager) {event : Event}
    (silent : ∀ number, event.outcome? number = none)
    (fresh : ∀ number, event.turn? = some number → isOver events number = false) :
    refreshed (events ++ [event]) = refreshed events := by
  rw [refreshed, outcomesOf_concat silent fresh]
  exact outcomesOf_congr fun number member =>
    isRefresh_concat event (follows.turned number member)

/-- An operation begins. -/
theorem begin (follows : Follows definition events manager) (task : Task) :
    Follows definition (events ++ [.begin task])
      { manager with
        operations := manager.operations ++ [⟨manager.next, task⟩]
        next := manager.next + 1 } := by
  have longer : tasks (events ++ [.begin task]) = tasks events ++ [task] := tasks_concat events _
  have sameTurns : turns (events ++ [.begin task]) = turns events := by
    rw [turns_concat]
    exact List.append_nil _
  have sameOver : isOver (events ++ [.begin task]) = isOver events := by
    funext number
    rw [isOver_concat]
    exact Bool.or_false _
  have fresh : ∀ number, (Event.begin task).turn? = some number → isOver events number = false :=
    nofun
  have same : refreshed (events ++ [.begin task]) = refreshed events :=
    follows.refreshed_silent (fun _ => rfl) fresh
  have fits {number : Nat} (below : number < (tasks events).length) :
      number < (tasks (events ++ [.begin task])).length := by
    rw [longer, List.length_append]
    omega
  exact
    { file := follows.file
      next := by simp [longer, follows.next]
      operations := by
        intro operation member
        rw [longer, sameOver]
        rcases List.mem_append.mp member with old | new
        · obtain ⟨begun, lasts⟩ := follows.operations operation old
          obtain ⟨below, _⟩ := List.getElem?_eq_some_iff.mp begun
          exact ⟨(List.getElem?_append_left below).trans begun, lasts⟩
        · obtain rfl := List.mem_singleton.mp new
          refine ⟨by simp [follows.next], Bool.eq_false_iff.mpr fun ended => ?_⟩
          have below := follows.ended manager.next ended
          have same := follows.next
          omega
      ended := fun number ended => fits (follows.ended number (sameOver ▸ ended))
      turned := fun number member => fits (follows.turned number (sameTurns ▸ member))
      distinct := sameTurns ▸ follows.distinct
      inside := by
        rw [Manager.inside, sameTurns, sameOver]
        exact follows.inside
      latest := sameTurns ▸ follows.latest
      state := by
        rw [published, outcomesOf_concat (fun _ => rfl) fresh]
        exact follows.state
      refreshCount := same ▸ follows.refreshCount
      lastError := same ▸ follows.lastError }

/-- An operation in flight gets the lock. -/
theorem acquire (follows : Follows definition events manager)
    (member : operation ∈ manager.operations) (free : manager.holder = none) :
    Follows definition (events ++ [.acquire operation.number])
      { manager with holder := some operation.number } := by
  obtain ⟨begun, lasts⟩ := follows.operations operation member
  have sameTasks : tasks (events ++ [.acquire operation.number]) = tasks events := by
    rw [tasks_concat]
    exact List.append_nil _
  have sameOver : isOver (events ++ [.acquire operation.number]) = isOver events := by
    funext number
    rw [isOver_concat]
    exact Bool.or_false _
  have longer : turns (events ++ [.acquire operation.number]) =
      turns events ++ [operation.number] := turns_concat events _
  have fresh : ∀ number, (Event.acquire operation.number).turn? = some number →
      isOver events number = false := by
    rintro number ⟨⟩
    exact lasts
  have same : refreshed (events ++ [.acquire operation.number]) = refreshed events :=
    follows.refreshed_silent (fun _ => rfl) fresh
  -- Nobody is inside, so an operation that has had its turn is over.
  have nobody : Manager.inside events = [] := by rw [follows.inside, free, Option.toList_none]
  have absent : operation.number ∉ turns events := by
    intro turned
    have within : operation.number ∈ Manager.inside events :=
      List.mem_filter.mpr ⟨turned, by rw [lasts]; rfl⟩
    rw [nobody] at within
    contradiction
  exact
    { file := follows.file
      next := by rw [sameTasks, follows.next]
      operations := by rw [sameTasks, sameOver]; exact follows.operations
      ended := by rw [sameTasks, sameOver]; exact follows.ended
      turned := by
        intro number turned
        rw [longer] at turned
        rw [sameTasks]
        rcases List.mem_append.mp turned with old | new
        · exact follows.turned number old
        · rw [List.mem_singleton.mp new]
          exact (List.getElem?_eq_some_iff.mp begun).1
      distinct := by
        rw [longer]
        exact follows.distinct.append (List.nodup_singleton _)
          (List.disjoint_singleton.mpr absent)
      inside := by
        rw [Manager.inside, longer, sameOver, List.filter_append]
        change Manager.inside events ++ _ = _
        rw [nobody]
        simp [lasts]
      latest := by
        rintro number ⟨⟩
        rw [longer, List.getLast?_concat]
      state := by
        rw [published, outcomesOf_concat (fun _ => rfl) fresh]
        exact follows.state
      refreshCount := same ▸ follows.refreshCount
      lastError := same ▸ follows.lastError }

/-- After an operation has ended, the others are inside that were. -/
theorem inside_ended {event : Event} (waits : event.turn? = none)
    (ends : ∀ number, event.ends number = decide (operation.number = number)) :
    Manager.inside (events ++ [event]) =
      (Manager.inside events).filter (· ≠ operation.number) := by
  rw [Manager.inside, turns_concat, waits, Option.toList_none, List.append_nil, Manager.inside,
    List.filter_filter]
  refine List.filter_congr fun number _ => ?_
  rw [isOver_concat, ends]
  by_cases same : operation.number = number
  · simp [same]
  · simp [same, Ne.symm same]

/-- An operation in flight ends and leaves something behind, about which the events agree. -/
theorem close (follows : Follows definition events manager)
    (member : operation ∈ manager.operations) (answer : Answer) {event : Event}
    {state : Option State} {refreshCount : Nat} {lastError : Option LoadError}
    (begins : event.task? = none) (waits : event.turn? = none)
    (ends : ∀ number, event.ends number = decide (operation.number = number))
    (states : state = (published (events ++ [event])).getLast?)
    (counts : refreshCount = (refreshed (events ++ [event])).countP Except.isOk)
    (errors : lastError =
      (refreshed (events ++ [event])).getLast?.bind (errorOf definition)) :
    Follows definition (events ++ [event])
      ({ manager with state, refreshCount, lastError }.close operation answer) := by
  have sameTasks : tasks (events ++ [event]) = tasks events := by
    rw [tasks_concat, begins]
    exact List.append_nil _
  have sameTurns : turns (events ++ [event]) = turns events := by
    rw [turns_concat, waits]
    exact List.append_nil _
  have begun := (follows.operations operation member).1
  exact
    { file := follows.file
      next := by rw [sameTasks]; exact follows.next
      operations := by
        intro other inFlight
        obtain ⟨old, apart⟩ := List.mem_filter.mp inFlight
        obtain ⟨othersBegun, lasts⟩ := follows.operations other old
        have ne : ¬operation.number = other.number := fun same => by simp [same] at apart
        rw [sameTasks, isOver_concat, ends, lasts, decide_eq_false ne]
        exact ⟨othersBegun, rfl⟩
      ended := by
        intro number ended
        rw [isOver_concat, ends, Bool.or_eq_true, decide_eq_true_eq] at ended
        rw [sameTasks]
        rcases ended with old | rfl
        · exact follows.ended number old
        · exact (List.getElem?_eq_some_iff.mp begun).1
      turned := by rw [sameTasks, sameTurns]; exact follows.turned
      distinct := sameTurns ▸ follows.distinct
      inside := by
        rw [inside_ended waits ends, follows.inside, Manager.close]
        cases held : manager.holder with
        | none => simp
        | some number => by_cases same : number = operation.number <;> simp [same]
      latest := by
        intro number holds
        rw [sameTurns]
        refine follows.latest number ?_
        simp only [Manager.close] at holds
        split at holds
        · contradiction
        · exact holds
      state := states
      refreshCount := counts
      lastError := errors }

/-- An operation is given up. -/
theorem cancel (follows : Follows definition events manager)
    (member : operation ∈ manager.operations) :
    Follows definition (events ++ [.cancel operation.number])
      (manager.close operation .cancelled) := by
  have fresh : ∀ number, (Event.cancel operation.number).turn? = some number →
      isOver events number = false := nofun
  have same : refreshed (events ++ [.cancel operation.number]) = refreshed events :=
    follows.refreshed_silent (fun _ => rfl) fresh
  refine follows.close member .cancelled rfl rfl (fun _ => rfl) ?_ ?_ ?_
  · rw [published, outcomesOf_concat (fun _ => rfl) fresh]
    exact follows.state
  · exact same ▸ follows.refreshCount
  · exact same ▸ follows.lastError

/-- The operation that holds the lock finishes. -/
theorem finish (follows : Follows definition events manager)
    (member : operation ∈ manager.operations) (holds : manager.holder = some operation.number)
    (outcome : Except LoadFailure State) :
    Follows definition (events ++ [.finish operation.number outcome])
      ((manager.record operation.task outcome).close operation
        (.of operation.task outcome)) := by
  obtain ⟨begun, lasts⟩ := follows.operations operation member
  have told (counts : Nat → Bool) := outcomesOf_finish counts outcome follows.distinct
    (follows.latest operation.number holds) lasts
  have isRefresh_eq : isRefresh events operation.number = decide (operation.task = .refresh) := by
    rw [isRefresh, begun]
    simp
  have refreshes : refreshed (events ++ [.finish operation.number outcome]) =
      refreshed events ++ if operation.task = .refresh then [outcome] else [] := by
    have same : outcomesOf (isRefresh (events ++ [.finish operation.number outcome])) events =
        refreshed events :=
      outcomesOf_congr fun number turned => isRefresh_concat _ (follows.turned number turned)
    rw [refreshed, told, same, isRefresh_concat _ (List.getElem?_eq_some_iff.mp begun).1,
      isRefresh_eq]
    simp
  rw [record_eq]
  refine follows.close member (.of operation.task outcome) rfl rfl (fun _ => rfl) ?_ ?_ ?_
  · rw [published, told, if_pos rfl, List.filterMap_append, follows.state]
    cases outcome with
    | ok state => simp [Except.toOption]
    | error failure => simp [Except.toOption, published]
  · rw [refreshes, follows.refreshCount, List.countP_append]
    by_cases refresh : operation.task = .refresh
    · simp [refresh, List.countP_cons]
    · simp [refresh]
  · rw [refreshes, follows.lastError, follows.file]
    by_cases refresh : operation.task = .refresh
    · simp [refresh]
    · simp [refresh]

/-- A manager goes on to be what its events say. -/
theorem transition (follows : Follows definition events manager) {event : Event} {next : Manager}
    (change : Transition manager event next) : Follows definition (events ++ [event]) next := by
  cases change with
  | begin task => exact follows.begin task
  | acquire first free => exact follows.acquire (List.mem_of_mem_head? first) free
  | finish outcome member holds => exact follows.finish member holds outcome
  | cancel member => exact follows.cancel member

/-- A manager is what the events of its run say. -/
theorem of_play (played : (Manager.create definition).play events = some manager) :
    Follows definition events manager :=
  Machine.invariant_of_play played (Follows definition) (create definition)
    fun _ follows happens => follows.transition (transition_of_step happens)

end Follows

/-! ## Whether anything is published -/

/-- A state is published exactly if an operation has given one. -/
theorem isLoaded_iff_of_play {definition : Path} {events : List Event} {manager : Manager}
    (played : (create definition).play events = some manager) :
    manager.isLoaded = true ↔ ∃ number state, .finish number (.ok state) ∈ events := by
  refine Machine.invariant_of_play played
    (fun events manager => manager.isLoaded = true ↔
      ∃ number state, .finish number (.ok state) ∈ events)
    (by simp [create, isLoaded]) fun _ earlier happens => ?_
  cases transition_of_step happens with
  | begin task => simpa [isLoaded] using earlier
  | acquire first free => simpa [isLoaded] using earlier
  | cancel member => simpa [isLoaded, close] using earlier
  | finish outcome member holds =>
    rw [record_eq]
    cases outcome with
    | ok state => simp [isLoaded, close, Except.toOption, exists_or]
    | error failure => simpa [isLoaded, close, Except.toOption] using earlier

/-! ## Runs -/

/-- An operation on a manager that nobody else uses runs to its end. -/
theorem perform_eq {manager : Manager} (idle : manager.operations = [])
    (free : manager.holder = none) (task : Task) (outcome : Except LoadFailure State) :
    manager.perform task outcome =
      { manager.record task outcome with
        next := manager.next + 1
        ended := manager.ended ++ [(⟨manager.next, task⟩, .of task outcome)] } := by
  obtain ⟨file, state, count, error, operations, holder, next, ended⟩ := manager
  dsimp only at idle free
  subst idle free
  cases task <;> cases outcome <;> simp [perform, play, step, operation?, record, close]

/-- In every run of loads and refreshes, however they overlap, fail and are given up:

- at most one operation has got the lock and has not ended, and the manager says that it refreshes
  exactly while there is one;
- readers get the state of the last operation, in the order of the lock, that gave one, and a fault
  if there is none; a state is published exactly once an operation has given one, and from then on
  there always is one;
- the count is the number of refreshes that gave a state;
- the error is that of the last refresh in the order of the lock, if that failed;
- an operation that fails or is given up leaves the published state and the count and frees the
  lock if it held it. The caller of a refresh that failed is told so, and the failure is raised to
  the caller of a load. -/
theorem publishes_in_lock_order {definition : Path} {events : List Event} {manager : Manager}
    (played : (create definition).play events = some manager) :
    ((inside events).length ≤ 1 ∧
        (manager.isRefreshing = true ↔ ∃ number, number ∈ inside events)) ∧
    (manager.current = (published events).getLast?.elim (.error .notLoaded) .ok ∧
      (manager.isLoaded = true ↔ ∃ number state, .finish number (.ok state) ∈ events) ∧
      ∀ before later earlier, events = before ++ later →
        (create definition).play before = some earlier → earlier.isLoaded = true →
        manager.isLoaded = true) ∧
    manager.refreshCount = (refreshed events).countP Except.isOk ∧
    manager.lastError = (refreshed events).getLast?.bind (errorOf definition) ∧
    (∀ number failure next, manager.step (.finish number (.error failure)) = some next →
      next.state = manager.state ∧ next.refreshCount = manager.refreshCount ∧
        next.isRefreshing = false ∧
        ∃ operation ∈ manager.operations, operation.number = number ∧
          next.ended = manager.ended ++
            [(operation, if operation.task = .refresh then .flag false else .raised failure)]) ∧
    (∀ number next, manager.step (.cancel number) = some next →
      next.state = manager.state ∧ next.refreshCount = manager.refreshCount ∧
        next.lastError = manager.lastError ∧
        next.holder = if manager.holder = some number then none else manager.holder) ∧
    (manager.operations = [] → manager.isRefreshing = false → ∀ outcome,
      (manager.refresh outcome).2.ended =
          manager.ended ++ [(⟨manager.next, .refresh⟩, .flag (manager.refresh outcome).1)] ∧
        (manager.load outcome).2.ended =
          manager.ended ++ [(⟨manager.next, .load⟩,
            match (manager.load outcome).1 with
            | .ok state => .state state
            | .error failure => .raised failure)]) := by
  have follows := Follows.of_play played
  have loaded := isLoaded_iff_of_play played
  refine ⟨⟨?_, ?_⟩, ⟨?_, loaded, ?_⟩, follows.refreshCount, follows.lastError, ?_, ?_, ?_⟩
  · rw [follows.inside]
    cases manager.holder <;> simp
  · rw [follows.inside, isRefreshing]
    cases manager.holder <;> simp
  · rw [current, follows.state]
    cases (published events).getLast? <;> rfl
  · rintro before later earlier rfl playedBefore wasLoaded
    obtain ⟨number, state, member⟩ := (isLoaded_iff_of_play playedBefore).mp wasLoaded
    exact loaded.mpr ⟨number, state, List.mem_append_left _ member⟩
  · intro number failure next happens
    cases transition_of_step happens with
    | @finish operation _ member holds =>
      rw [record_eq]
      refine ⟨rfl, by simp [close, Except.isOk, Except.toBool],
        by simp [isRefreshing, close, holds],
        operation, member, rfl, ?_⟩
      cases operation.task with
      | load => simp [close, Answer.of]
      | refresh => simp [close, Answer.of]
  · intro number next happens
    cases transition_of_step happens with
    | cancel member => exact ⟨rfl, rfl, rfl, rfl⟩
  · intro idle free outcome
    have unlocked : manager.holder = none := by simpa [isRefreshing] using free
    constructor
    · change (manager.perform .refresh outcome).ended = _
      rw [perform_eq idle unlocked]
      cases outcome <;> rfl
    · change (manager.perform .load outcome).ended = _
      rw [perform_eq idle unlocked]
      cases outcome <;> rfl

/-- A run in which two refreshes come while the project is loaded; the first of them gets the lock
and fails, and the second is given up while it waits. -/
def overlappingRun : List Event :=
  [.begin .load, .acquire 0, .begin .refresh, .begin .refresh, .finish 0 (.ok default), .acquire 1,
    .cancel 2, .finish 1 (.error (.refused ⟨"App.yaml", .noModule⟩))]

/-- After that run the loaded state is published, no refresh is counted, and the failure is
remembered. -/
theorem publishes_in_lock_order_overlapping :
    ∃ manager, (create (.ofString "App.yaml")).play overlappingRun = some manager ∧
      manager.current = .ok default ∧ manager.refreshCount = 0 ∧
      manager.lastError = some ⟨"App.yaml", .noModule⟩ ∧ manager.isRefreshing = false := by
  obtain ⟨manager, played⟩ :
      ∃ manager, (create (.ofString "App.yaml")).play overlappingRun = some manager := ⟨_, rfl⟩
  obtain ⟨⟨_, refreshing⟩, ⟨readers, _, _⟩, count, error, _⟩ := publishes_in_lock_order played
  refine ⟨manager, played, readers, count, error, ?_⟩
  have nobody : inside overlappingRun = [] := rfl
  rw [Bool.eq_false_iff, ne_eq, refreshing, nobody]
  simp

end CompletionServer.Project.Manager
