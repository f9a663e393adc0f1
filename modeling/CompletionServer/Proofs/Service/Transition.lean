import CompletionServer.Service.Step

/-!
# What a step of the service can do

`Service.step` decides whether an event can happen and what it does. `Transition` says the same as a
relation with one constructor for each kind of change, so that a property of all services that come
about is proved by looking at ten changes and never at the step function again. Nothing is lost by
that: each of the changes is a step.

A call that ends does so in one of two ways: it filters its candidates, or it fails before that.
Only the first way puts anything into the cache.
-/

namespace CompletionServer.Service

/-! ## Parts of a step -/

/-- A call in flight that is found by a number has that number and is one of the calls. -/
theorem mem_of_call?_eq_some {service : Service} {number : CallNumber} {call : Call}
    (found : service.call? number = some call) : call ∈ service.calls ∧ call.number = number := by
  unfold call? at found
  exact ⟨List.mem_of_find?_eq_some found, by simpa using List.find?_some found⟩

/-- What an event on a call in flight does, it does to a call that is found by its number. -/
theorem exists_call_of_bind {service next : Service} {number : CallNumber}
    {act : Call → Option Service} (happens : (service.call? number).bind act = some next) :
    ∃ call, service.call? call.number = some call ∧ call.number = number ∧
      act call = some next := by
  obtain ⟨call, found, acted⟩ := Option.bind_eq_some_iff.mp happens
  obtain ⟨_, rfl⟩ := mem_of_call?_eq_some found
  exact ⟨call, found, rfl, acted⟩

/-- The call that a request makes. -/
def arrival (service : Service) (state : Project.State) (request : Request) : Call :=
  ⟨service.next, request, state, Signature.ofRequest request,
    (service.guards.enter (Signature.ofRequest request)).2, .waiting, none⟩

/-- A request adds a call that waits, and the guards know of it. -/
theorem enter_eq (service : Service) (state : Project.State) (request : Request) :
    service.enter state request =
      { service with
        guards := (service.guards.enter (Signature.ofRequest request)).1
        calls := service.calls ++ [service.arrival state request]
        next := service.next + 1 } :=
  rfl

/-- A call can end exactly when its guards let it go, and then the guards, the calls, the ended
calls and the log change. -/
theorem finish?_eq_some_iff {service next : Service} {call : Call}
    {result : Except Failure (List Item)} :
    service.finish? call result = some next ↔
      ∃ guards, (service.guards.release call.lock call.number).leave? call.signature = some guards ∧
        next =
          { service with
            guards
            calls := service.calls.filter (·.number ≠ call.number)
            ended := service.ended ++ [⟨call, result⟩]
            log := service.log ++
              [.completed call.number (.ofResult result) (call.hit? == some true)] } := by
  rw [finish?, Option.map_eq_some_iff]
  exact exists_congr fun guards => and_congr_right fun _ => eq_comm

/-- A call that has looked into the cache and found something, or nothing. -/
def Call.looked (call : Call) (found : Option (List Candidate)) : Call :=
  { call with
    phase := found.elim .reading .filtering
    hit? := some found.isSome }

/-- A call that takes its lock is marked with what it found, which is counted as a hit or as a miss
and written down. -/
theorem acquire_eq_counted (service : Service) (call : Call) :
    service.acquire call =
      ({ service with
          guards := service.guards.hold call.lock call.number
          hits := service.hits + (service.cache.get? call.signature).isSome.toNat
          misses := service.misses + (service.cache.get? call.signature).isNone.toNat }.withCall
        (call.looked (service.cache.get? call.signature))).note
        [.looked call.number (service.cache.get? call.signature).isSome] := by
  unfold acquire
  cases service.cache.get? call.signature with
  | none => rfl
  | some candidates => rfl

/-- A call that takes its lock is marked with what it found. -/
theorem acquire_eq (service : Service) (call : Call) :
    ∃ hits misses, service.acquire call =
      ({ service with guards := service.guards.hold call.lock call.number, hits, misses }.withCall
        (call.looked (service.cache.get? call.signature))).note
        [.looked call.number (service.cache.get? call.signature).isSome] :=
  ⟨_, _, acquire_eq_counted service call⟩

/-- New candidates change the cache and the log. -/
theorem store_eq (service : Service) (call : Call) (candidates : List Candidate) :
    ∃ cache log, service.store call candidates = { service with cache, log } := by
  unfold store
  split
  · exact ⟨service.cache, service.log, rfl⟩
  · exact ⟨_, _, rfl⟩

/-- A call that filters ends with the fault of the pipeline, or stores its candidates and ends with
the items. -/
theorem filter?_eq_some_iff {service next : Service} {call : Call} {candidates : List Candidate} :
    service.filter? call candidates = some next ↔
      (∃ fault, service.pipeline.apply candidates call.request call.state.moduleName =
          .error fault ∧ service.finish? call (.error (.fault fault)) = some next) ∨
        ∃ items, service.pipeline.apply candidates call.request call.state.moduleName = .ok items ∧
          (service.store call candidates).finish? call
            (resultOf service.setup.emptyIsError items) = some next := by
  unfold filter?
  cases applied : service.pipeline.apply candidates call.request call.state.moduleName with
  | error fault => simp
  | ok items => simp

/-- A call that filters ends, after the note of a store if there was one. -/
theorem exists_of_filter?_eq_some {service next : Service} {call : Call}
    {candidates : List Candidate} (ends : service.filter? call candidates = some next) :
    ∃ cache guards notes result, (notes = [] ∨ notes = [.stored call.signature candidates]) ∧
      next =
        { service with
          cache
          guards
          calls := service.calls.filter (·.number ≠ call.number)
          ended := service.ended ++ [⟨call, result⟩]
          log := service.log ++ notes ++
            [.completed call.number (.ofResult result) (call.hit? == some true)] } := by
  rcases filter?_eq_some_iff.mp ends with ⟨fault, _, ends⟩ | ⟨items, _, ends⟩
  · obtain ⟨guards, _, rfl⟩ := finish?_eq_some_iff.mp ends
    refine ⟨service.cache, guards, [], .error (.fault fault), .inl rfl, ?_⟩
    rw [List.append_nil]
  · unfold store at ends
    split at ends
    · obtain ⟨guards, _, rfl⟩ := finish?_eq_some_iff.mp ends
      refine ⟨service.cache, guards, [], resultOf service.setup.emptyIsError items, .inl rfl, ?_⟩
      rw [List.append_nil]
    · obtain ⟨guards, _, rfl⟩ := finish?_eq_some_iff.mp ends
      exact ⟨_, guards, _, _, .inr rfl, rfl⟩

/-- The service after a child was killed for a call, which waits for its end. -/
def killed (service : Service) (call : Call) (child : ChildNumber) (failure : Failure) : Service :=
  ({ service with
    children := service.children.modify child fun one =>
      { one with killed := true, waited := true } }.withCall
    { call with phase := .reaping child failure }).note [.killed child, .waited child]

/-- A running call that is given up ends if its child has ended, and otherwise has it killed. -/
theorem interrupt?_eq_some_iff {service next : Service} {call : Call} {child : ChildNumber}
    {failure : Failure} :
    service.interrupt? call child failure = some next ↔
      ((service.codeOf child).isSome ∧ service.finish? call (.error failure) = some next) ∨
        (service.codeOf child = none ∧ next = service.killed call child failure) := by
  unfold interrupt?
  cases ended : service.codeOf child with
  | some code => simp
  | none => simp [killed, eq_comm]

/-! ## Why calls are given up and fail -/

/-- A call is given up, with a failure: its time is over, or whoever made it gives it up. -/
inductive GivesUp (service : Service) (call : Call) : Event → Failure → Prop
  | expire : GivesUp service call (.expire call.number) service.timeoutFailure
  | cancel : GivesUp service call (.cancel call.number) .cancelled

/-- A call fails by an event, with a failure and after some notes. -/
inductive Fails (service : Service) (call : Call) : Event → List Note → Failure → Prop
  /-- Its buffer cannot be read. -/
  | unread {failure : Failure} (reads : call.phase = .reading) :
      Fails service call (.read call.number (.error failure)) [] failure
  /-- Its child cannot be started. -/
  | unstarted {contents : String} {fault : Fault} (starts : call.phase = .starting contents)
      (allows : service.allowsStart = true) :
      Fails service call (.spawn call.number (.error fault))
        [.spawned call.number (service.commandFor call contents)]
        (Introspection.startFailure service.setup.binary fault)
  /-- What its child has printed is of no use. -/
  | unusable {child : ChildNumber} {code : Int} {stdout stderr : List UInt8} {failure : Failure}
      (runs : call.phase = .running child) (ended : service.codeOf child = some code)
      (printed : (Introspection.Exit.mk code stdout stderr).candidates = .error failure) :
      Fails service call (.output call.number stdout stderr) [] failure
  /-- Its time is over before its child is started. -/
  | late {contents : String} (starts : call.phase = .starting contents) :
      Fails service call (.expire call.number) [] service.timeoutFailure
  /-- It is given up after its child has ended. -/
  | settled {child : ChildNumber} {event : Event} {failure : Failure}
      (runs : call.phase = .running child) (ended : (service.codeOf child).isSome = true)
      (cause : service.GivesUp call event failure) : Fails service call event [] failure
  /-- It is given up while it is concerned with no child. -/
  | cancelled (running : ∀ child, call.phase ≠ .running child)
      (reaping : ∀ child failure, call.phase ≠ .reaping child failure) :
      Fails service call (.cancel call.number) [] .cancelled
  /-- It is given up once more. -/
  | abandoned {child : ChildNumber} {failure : Failure}
      (waits : call.phase = .reaping child failure) :
      Fails service call (.abandon call.number) [] .cancelled
  /-- The end of its killed child has been waited for. -/
  | reaped {child : ChildNumber} {failure : Failure} (waits : call.phase = .reaping child failure)
      (ended : (service.codeOf child).isSome = true) :
      Fails service call (.reaped call.number) [] failure

/-! ## The relation -/

/-- The ways in which an event changes a service. -/
inductive Transition (service : Service) : Event → Service → Prop
  /-- A request comes. -/
  | enter (state : Project.State) (request : Request) :
      Transition service (.enter state request) (service.enter state request)
  /-- A waiting call takes its lock and looks into the cache. -/
  | acquire {call : Call} (found : service.call? call.number = some call)
      (waits : call.phase = .waiting) (free : service.guards.isFree call.lock = true) :
      Transition service (.acquire call.number) (service.acquire call)
  /-- The buffer of a call has been read. -/
  | read {call : Call} {contents : String} (found : service.call? call.number = some call)
      (reads : call.phase = .reading) :
      Transition service (.read call.number (.ok contents))
        (service.withCall { call with phase := .starting contents })
  /-- A child has been started for a call. -/
  | spawn {call : Call} {contents : String} (found : service.call? call.number = some call)
      (starts : call.phase = .starting contents) (allows : service.allowsStart = true) :
      Transition service (.spawn call.number (.ok ()))
        ((service.note [.spawned call.number (service.commandFor call contents)]).spawned call)
  /-- A child ends. -/
  | exit {child : ChildNumber} {one : Child} (code : Int)
      (there : service.children[child]? = some one) (runs : one.code = none) :
      Transition service (.exit child code) (service.exited child code)
  /-- A call has the candidates that its child printed. -/
  | output {call : Call} {child : ChildNumber} {code : Int} {stdout stderr : List UInt8}
      {candidates : List Candidate} (found : service.call? call.number = some call)
      (runs : call.phase = .running child) (ended : service.codeOf child = some code)
      (printed : (Introspection.Exit.mk code stdout stderr).candidates = .ok candidates) :
      Transition service (.output call.number stdout stderr)
        (service.withCall { call with phase := .filtering candidates })
  /-- A child is killed, and its call waits for its end. -/
  | kill {call : Call} {child : ChildNumber} {event : Event} (failure : Failure)
      (found : service.call? call.number = some call) (runs : call.phase = .running child)
      (lives : service.codeOf child = none) (cause : service.GivesUp call event failure) :
      Transition service event (service.killed call child failure)
  /-- A call ends without a result. One that has its candidates does so only when it is given up,
  one that runs a child only after that has ended; one that asked for a child in vain has this in
  the log. -/
  | fail {call : Call} {event : Event} {next : Service} (notes : List Note) (failure : Failure)
      (found : service.call? call.number = some call)
      (asked : notes = [] ∨ ∃ contents, call.phase = .starting contents ∧
        notes = [.spawned call.number (service.commandFor call contents)])
      (unfiltered : ∀ candidates, call.phase = .filtering candidates → failure = .cancelled)
      (settled : ∀ child, call.phase = .running child → (service.codeOf child).isSome = true)
      (happens : (service.note notes).finish? call (.error failure) = some next)
      (cause : service.Fails call event notes failure) :
      Transition service event next
  /-- A call filters its candidates and ends. -/
  | filter {call : Call} {candidates : List Candidate} {next : Service}
      (found : service.call? call.number = some call)
      (filters : call.phase = .filtering candidates)
      (happens : service.filter? call candidates = some next) :
      Transition service (.filter call.number) next
  /-- The workers are sent home. -/
  | close : Transition service .close service.close

namespace Transition

variable {service next : Service} {call : Call} {event : Event}

/-- A call fails. -/
theorem of_fails {notes : List Note} {failure : Failure}
    (found : service.call? call.number = some call)
    (cause : service.Fails call event notes failure)
    (happens : (service.note notes).finish? call (.error failure) = some next) :
    Transition service event next := by
  refine .fail notes failure found ?_ ?_ ?_ happens cause
  · cases cause with
    | @unstarted contents _ starts => exact .inr ⟨contents, starts, rfl⟩
    | _ => exact .inl rfl
  · intro candidates filters
    cases cause with
    | cancelled => rfl
    | unread phase | unstarted phase | unusable phase | late phase | settled phase
    | abandoned phase | reaped phase => simp [filters] at phase
  · intro child running
    cases cause with
    | unusable runs ended =>
      obtain rfl := Phase.running.inj (runs.symm.trans running)
      rw [ended, Option.isSome_some]
    | settled runs ended =>
      obtain rfl := Phase.running.inj (runs.symm.trans running)
      exact ended
    | cancelled notRunning => exact absurd running (notRunning child)
    | unread phase | unstarted phase | late phase | abandoned phase | reaped phase =>
      simp [running] at phase

/-- A call fails without a note. -/
theorem of_fails_plain {failure : Failure} (found : service.call? call.number = some call)
    (cause : service.Fails call event [] failure)
    (happens : service.finish? call (.error failure) = some next) :
    Transition service event next :=
  of_fails found cause (by simpa [note] using happens)

/-- Giving up a running call is one of two changes. -/
theorem of_interrupt? {child : ChildNumber} {failure : Failure}
    (found : service.call? call.number = some call) (runs : call.phase = .running child)
    (cause : service.GivesUp call event failure)
    (happens : service.interrupt? call child failure = some next) :
    Transition service event next := by
  rcases interrupt?_eq_some_iff.mp happens with ⟨ended, ends⟩ | ⟨lives, rfl⟩
  · exact of_fails_plain found (.settled runs ended cause) ends
  · exact .kill failure found runs lives cause

end Transition

/-! ## Calls at work -/

/-- A call that needs the tool comes into another phase of its work, and notes are written about its
child. Nothing else changes but the children. -/
structure Advances (service next : Service) (call : Call) (phase : Phase) (notes : List Note) :
    Prop where
  member : call ∈ service.calls
  worked : call.phase ≠ .waiting
  unfiltered : ∀ candidates, call.phase ≠ .filtering candidates
  about : ∀ note ∈ notes,
    (∃ contents, note = .spawned call.number (service.commandFor call contents)) ∨
      ∃ child, note = .killed child ∨ note = .waited child
  frame : next =
    { service.withCall { call with phase } with
      children := next.children
      log := service.log ++ notes }

namespace Advances

variable {service : Service} {call : Call}

/-- The buffer of a call has been read. -/
theorem read {contents : String} (found : service.call? call.number = some call)
    (reads : call.phase = .reading) :
    service.Advances (service.withCall { call with phase := .starting contents }) call
      (.starting contents) [] where
  member := (mem_of_call?_eq_some found).1
  worked := by simp [reads]
  unfiltered := by simp [reads]
  about := by simp
  frame := by
    rw [List.append_nil]
    rfl

/-- A child has been started for a call. -/
theorem spawn {contents : String} (found : service.call? call.number = some call)
    (starts : call.phase = .starting contents) :
    service.Advances
      ((service.note [.spawned call.number (service.commandFor call contents)]).spawned call) call
      (.running service.children.length)
      [.spawned call.number (service.commandFor call contents)] where
  member := (mem_of_call?_eq_some found).1
  worked := by simp [starts]
  unfiltered := by simp [starts]
  about := by
    intro note noted
    exact .inl ⟨contents, List.mem_singleton.mp noted⟩
  frame := rfl

/-- A call has the candidates that its child printed. -/
theorem output {child : ChildNumber} (found : service.call? call.number = some call)
    (runs : call.phase = .running child) (candidates : List Candidate) :
    service.Advances (service.withCall { call with phase := .filtering candidates }) call
      (.filtering candidates) [] where
  member := (mem_of_call?_eq_some found).1
  worked := by simp [runs]
  unfiltered := by simp [runs]
  about := by simp
  frame := by
    rw [List.append_nil]
    rfl

/-- A child is killed, and its call waits for its end. -/
theorem kill {child : ChildNumber} (found : service.call? call.number = some call)
    (runs : call.phase = .running child) (failure : Failure) :
    service.Advances (service.killed call child failure) call (.reaping child failure)
      [.killed child, .waited child] where
  member := (mem_of_call?_eq_some found).1
  worked := by simp [runs]
  unfiltered := by simp [runs]
  about := by simp
  frame := rfl

end Advances

/-! ## Every step is one of them -/

/-- Whatever a step does is one of the transitions. -/
theorem transition_of_step {service next : Service} {event : Event}
    (happens : service.step event = some next) : Transition service event next := by
  cases event with
  | enter state request =>
    obtain rfl : service.enter state request = next := by simpa [step] using happens
    exact .enter state request
  | close =>
    obtain rfl : service.close = next := by simpa [step] using happens
    exact .close
  | exit child code =>
    simp only [step] at happens
    split at happens
    · next one there =>
      split at happens
      · next runs =>
        obtain rfl := Option.some.inj happens
        exact .exit code there (by simpa using runs)
      · contradiction
    · contradiction
  | acquire number =>
    obtain ⟨call, found, rfl, acts⟩ := exists_call_of_bind happens
    split at acts
    · next waits =>
      split at acts
      · next free =>
        obtain rfl := Option.some.inj acts
        exact .acquire found waits free
      · contradiction
    · contradiction
  | read number outcome =>
    obtain ⟨call, found, rfl, acts⟩ := exists_call_of_bind happens
    split at acts
    · next reads =>
      obtain rfl := Option.some.inj acts
      exact .read found reads
    · next reads => exact .of_fails_plain found (.unread reads) acts
    · contradiction
  | spawn number outcome =>
    obtain ⟨call, found, rfl, acts⟩ := exists_call_of_bind happens
    split at acts
    · next contents starts =>
      split at acts
      · next allows =>
        split at acts
        · obtain rfl := Option.some.inj acts
          exact .spawn found starts allows
        · exact .of_fails found (.unstarted starts allows) acts
      · contradiction
    · contradiction
  | output number stdout stderr =>
    obtain ⟨call, found, rfl, acts⟩ := exists_call_of_bind happens
    split at acts
    · next child runs =>
      obtain ⟨code, ended, acts⟩ := Option.bind_eq_some_iff.mp acts
      split at acts
      · next candidates printed =>
        obtain rfl := Option.some.inj acts
        exact .output found runs ended printed
      · next failure printed => exact .of_fails_plain found (.unusable runs ended printed) acts
    · contradiction
  | expire number =>
    obtain ⟨call, found, rfl, acts⟩ := exists_call_of_bind happens
    split at acts
    · next starts => exact .of_fails_plain found (.late starts) acts
    · next runs => exact .of_interrupt? found runs .expire acts
    · contradiction
  | cancel number =>
    obtain ⟨call, found, rfl, acts⟩ := exists_call_of_bind happens
    split at acts
    · next runs => exact .of_interrupt? found runs .cancel acts
    · contradiction
    · next notRunning notReaping =>
      exact .of_fails_plain found (.cancelled notRunning notReaping) acts
  | abandon number =>
    obtain ⟨call, found, rfl, acts⟩ := exists_call_of_bind happens
    split at acts
    · next waits => exact .of_fails_plain found (.abandoned waits) acts
    · contradiction
  | reaped number =>
    obtain ⟨call, found, rfl, acts⟩ := exists_call_of_bind happens
    split at acts
    · next waits =>
      split at acts
      · next ended => exact .of_fails_plain found (.reaped waits ended) acts
      · contradiction
    · contradiction
  | filter number =>
    obtain ⟨call, found, rfl, acts⟩ := exists_call_of_bind happens
    split at acts
    · next filters => exact .filter found filters acts
    · contradiction

/-- A call that fails ends by its event. -/
theorem step_of_fails {service next : Service} {call : Call} {event : Event} {notes : List Note}
    {failure : Failure} (found : service.call? call.number = some call)
    (cause : service.Fails call event notes failure)
    (happens : (service.note notes).finish? call (.error failure) = some next) :
    service.step event = some next := by
  have plain (none : notes = []) : service.finish? call (.error failure) = some next := by
    simpa [none, note] using happens
  cases cause with
  | unread reads => simpa [step, found, reads] using plain rfl
  | unstarted starts allows => simpa [step, found, starts, allows] using happens
  | unusable runs ended printed => simpa [step, found, runs, ended, printed] using plain rfl
  | late starts => simpa [step, found, starts] using plain rfl
  | settled runs ended cause =>
    have given := interrupt?_eq_some_iff.mpr (.inl ⟨ended, plain rfl⟩)
    cases cause with
    | expire => simpa [step, found, runs] using given
    | cancel => simpa [step, found, runs] using given
  | cancelled running reaping =>
    cases phase : call.phase with
    | running child => exact absurd phase (running child)
    | reaping child failure => exact absurd phase (reaping child failure)
    | _ => simpa [step, found, phase] using plain rfl
  | abandoned waits => simpa [step, found, waits] using plain rfl
  | reaped waits ended => simpa [step, found, waits, ended] using plain rfl

/-- Each of the transitions is what a step does. -/
theorem step_of_transition {service next : Service} {event : Event}
    (change : Transition service event next) : service.step event = some next := by
  cases change with
  | enter state request => rfl
  | acquire found waits free => simp [step, found, waits, free]
  | read found reads => simp [step, found, reads]
  | spawn found starts allows => simp [step, found, starts, allows]
  | exit code there runs => simp [step, there, runs]
  | output found runs ended printed => simp [step, found, runs, ended, printed]
  | @kill call child _ failure found runs lives cause =>
    have given : service.interrupt? call child failure =
        some (service.killed call child failure) :=
      interrupt?_eq_some_iff.mpr (.inr ⟨lives, rfl⟩)
    cases cause with
    | expire => simpa [step, found, runs] using given
    | cancel => simpa [step, found, runs] using given
  | fail notes failure found _ _ _ happens cause => exact step_of_fails found cause happens
  | filter found filters happens => simpa [step, found, filters] using happens
  | close => rfl

/-- What holds of a service and is kept by every transition holds of all services that come
about. -/
theorem Reachable.invariant {start service : Service} (reachable : Reachable start service)
    (property : Service → Prop) (initial : property start)
    (kept : ∀ {service next : Service} {event : Event}, property service →
      Transition service event next → property next) : property service := by
  induction reachable with
  | start => exact initial
  | step event _ happens holds => exact kept holds (transition_of_step happens)

/-- What a service plays through comes about. -/
theorem Reachable.of_play {start service last : Service} {events : List Event}
    (before : Reachable start service) (played : service.play events = some last) :
    Reachable start last := by
  induction events generalizing service with
  | nil =>
    obtain rfl := Option.some.inj played
    exact before
  | cons event rest ih =>
    obtain ⟨next, happens, played⟩ := Option.bind_eq_some_iff.mp played
    exact ih (before.step event happens) played

/-- What holds of a service before any event, and is kept by every transition of a service that
comes about from it, holds of every run and the service it leads to. -/
theorem invariant_of_play {start last : Service} {events : List Event}
    (played : start.play events = some last) (property : List Event → Service → Prop)
    (initial : property [] start)
    (kept : ∀ {front : List Event} {service next : Service} {event : Event},
      Reachable start service → property front service → Transition service event next →
        property (front ++ [event]) next) : property events last := by
  refine Machine.invariant_of_play played property initial fun begun holds happens => ?_
  exact kept (Reachable.start.of_play begun) holds (transition_of_step happens)

end CompletionServer.Service
