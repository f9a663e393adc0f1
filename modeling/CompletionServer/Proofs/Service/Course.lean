import CompletionServer.Proofs.Service.Provenance
import CompletionServer.Proofs.Service.Transparency
import CompletionServer.Service.Run

/-!
# The course of a call

`Service.drive` takes a call through its phases, among files and children that behave as they are
given. `outcome` says from every phase what the call will end with, without taking a step. One round
of events ends a call with its outcome, or takes it into a phase that is nearer to the end and has
the same outcome. So a call always ends, and `complete` answers a request with the outcome of the
call that it makes.
-/

namespace CompletionServer.Service

/-! ## Outcomes -/

/-- The candidates that a run of the tool gives, which is over in time if it ever ends. -/
def candidatesFrom (service : Service) :
    Introspection.Behaviour → Except Failure (List Candidate)
  | .refuses fault => .error (Introspection.startFailure service.setup.binary fault)
  | .answers exit => exit.candidates
  | .hangs _ => .error service.timeoutFailure

/-- The candidates that the next run of the tool gives, if there is time for one. -/
def introspected (surroundings : Surroundings) (service : Service) :
    Except Failure (List Candidate) :=
  if service.allowsStart then service.candidatesFrom surroundings.next.1
  else .error service.timeoutFailure

/-- The candidates of a buffer, which has to be read first. -/
def candidatesAt (surroundings : Surroundings) (service : Service) (filePath : String) :
    Except Failure (List Candidate) := do
  let _ ← readBuffer surroundings.system filePath
  introspected surroundings service

/-- The candidates that a call is going to have, or why it will have none. -/
def prospect (surroundings : Surroundings) (service : Service) (call : Call) :
    Except Failure (List Candidate) :=
  match call.phase with
  | .waiting =>
    match service.cache.get? call.signature with
    | some candidates => .ok candidates
    | none => candidatesAt surroundings service call.request.filePath
  | .reading => candidatesAt surroundings service call.request.filePath
  | .starting _ => introspected surroundings service
  | .running child => service.candidatesFrom ((surroundings.started.get? child).getD (.hangs false))
  | .reaping _ failure => .error failure
  | .filtering candidates => .ok candidates

/-- What a call is going to end with. -/
def outcome (surroundings : Surroundings) (service : Service) (call : Call) :
    Except Failure (List Item) :=
  (prospect surroundings service call).bind (service.answer · call.request call.state)

/-! ## Calls on their way -/

/-- A call is in flight and has not ended before. -/
structure InFlight (service : Service) (call : Call) : Prop where
  guarded : service.Guarded
  member : call ∈ service.calls
  unended : ∀ one ∈ service.ended, one.call.number ≠ call.number

/-- A call is over, with a result. -/
structure HasEnded (service : Service) (number : CallNumber) (result : Except Failure (List Item)) :
    Prop where
  gone : service.call? number = none
  result : service.result? number = some result

/-- A child has not ended. -/
def Lives (service : Service) (child : ChildNumber) : Prop :=
  ∃ one, service.children[child]? = some one ∧ one.code = none

/-- The surroundings have what a call needs in its phase: a free lock, or a child that lives and is
known to behave in some way. -/
def IsReady (surroundings : Surroundings) (service : Service) (call : Call) : Prop :=
  match call.phase with
  | .waiting => service.guards.isFree call.lock = true
  | .running child => service.Lives child ∧
      ∃ behaviour, surroundings.started.get? child = some behaviour ∧
        ∀ fault, behaviour ≠ .refuses fault
  | .reaping child _ => service.Lives child
  | .reading | .starting _ | .filtering _ => True

/-- How many rounds of events a phase is from the end at most. -/
def Phase.remaining : Phase → Nat
  | .waiting => 5
  | .reading => 4
  | .starting _ => 3
  | .running _ => 2
  | .reaping _ _ | .filtering _ => 1

/-- A call is nearer to the end than another was, with the same outcome. -/
structure Nears (surroundings : Surroundings) (service : Service) (call : Call)
    (later : Surroundings) (next : Service) (moved : Call) : Prop where
  number : moved.number = call.number
  inFlight : next.InFlight moved
  ready : IsReady later next moved
  shorter : moved.phase.remaining < call.phase.remaining
  outcome : outcome later next moved = outcome surroundings service call

/-- One round of events ends a call with its outcome or takes it nearer to it. -/
def Proceeds (surroundings : Surroundings) (service : Service) (call : Call) : Prop :=
  ∃ next, service.play (surroundings.respond service call).1 = some next ∧
    (next.HasEnded call.number (outcome surroundings service call) ∨
      ∃ moved, Nears surroundings service call (surroundings.respond service call).2 next moved)

variable {surroundings : Surroundings} {service next : Service} {call : Call}

/-- A call that has left the calls in flight and stands at the end of the others is over. -/
theorem HasEnded.of_left {result : Except Failure (List Item)}
    (unended : ∀ one ∈ service.ended, one.call.number ≠ call.number)
    (calls : next.calls = service.calls.filter (·.number ≠ call.number))
    (ended : next.ended = service.ended ++ [⟨call, result⟩]) :
    next.HasEnded call.number result where
  gone := by
    rw [call?, calls, List.find?_eq_none]
    intro other remains
    simpa using (List.mem_filter.mp remains).2
  result := by
    have earlier : service.ended.find? (·.call.number = call.number) = none := by
      rw [List.find?_eq_none]
      intro one inEnded
      simpa using unended one inEnded
    simp [result?, ended, List.find?_append, earlier]

/-- What a call ends with depends on its candidates, its request and project, and the set-up. -/
theorem outcome_congr {later : Surroundings} {moved : Call} (setup : next.setup = service.setup)
    (pipeline : next.pipeline = service.pipeline) (request : moved.request = call.request)
    (state : moved.state = call.state)
    (same : prospect later next moved = prospect surroundings service call) :
    outcome later next moved = outcome surroundings service call := by
  simp only [outcome, same, answer, setup, pipeline, request, state]

/-- What a run gives depends on the set-up. -/
theorem candidatesFrom_congr (setup : next.setup = service.setup)
    (behaviour : Introspection.Behaviour) :
    next.candidatesFrom behaviour = service.candidatesFrom behaviour := by
  cases behaviour with
  | refuses fault => simp only [candidatesFrom, setup]
  | answers exit => rfl
  | hangs hasExited => simp only [candidatesFrom, timeoutFailure, setup]

/-- The candidates of a buffer depend on the surroundings and the set-up. -/
theorem candidatesAt_congr (setup : next.setup = service.setup) (filePath : String) :
    candidatesAt surroundings next filePath = candidatesAt surroundings service filePath := by
  have allowed : next.allowsStart = service.allowsStart := by rw [allowsStart, allowsStart, setup]
  simp only [candidatesAt, introspected, allowed, timeoutFailure, setup,
    candidatesFrom_congr setup]

/-! ## Children -/

/-- A start that is refused. -/
theorem respond_of_refused {contents : String} {fault : Fault}
    (starts : call.phase = .starting contents) (allowed : service.allowsStart = true)
    (refused : surroundings.next.1 = .refuses fault) :
    (surroundings.respond service call).1 = [.spawn call.number (.error fault)] := by
  rcases choice : surroundings.next with ⟨behaviour, later⟩
  obtain rfl : behaviour = .refuses fault := by rw [← refused, choice]
  simp [Surroundings.respond, starts, allowed, choice]

/-- A start that is not refused: what the child does is known from then on. -/
theorem respond_of_started {contents : String} (starts : call.phase = .starting contents)
    (allowed : service.allowsStart = true)
    (accepted : ∀ fault, surroundings.next.1 ≠ .refuses fault) :
    surroundings.respond service call =
      ([.spawn call.number (.ok ())],
        { surroundings.next.2 with
          started := surroundings.next.2.started.set service.children.length
            surroundings.next.1 }) := by
  rcases choice : surroundings.next with ⟨behaviour, later⟩
  rw [choice] at accepted
  cases behaviour with
  | refuses fault => exact absurd rfl (accepted fault)
  | answers exit => simp [Surroundings.respond, starts, allowed, choice]
  | hangs hasExited => simp [Surroundings.respond, starts, allowed, choice]

namespace Lives

variable {child : ChildNumber}

/-- A child that lives can end, and then something else can happen. -/
theorem play_exit (lives : service.Lives child) (code : Int) (event : Event) :
    service.play [.exit child code, event] = (service.exited child code).step event := by
  obtain ⟨one, there, running⟩ := lives
  have exits : service.step (.exit child code) = some (service.exited child code) := by
    simp [step, there, running]
  simp [play, exits]

/-- A child that has ended has its return code. -/
theorem codeOf_exited (lives : service.Lives child) (code : Int) :
    (service.exited child code).codeOf child = some code := by
  obtain ⟨one, there, _⟩ := lives
  simp [codeOf, exited, there]

/-- A child that lives has no return code. -/
theorem codeOf_eq_none (lives : service.Lives child) : service.codeOf child = none := by
  obtain ⟨one, there, running⟩ := lives
  simp [codeOf, there, running]

/-- A child that was just started lives. -/
theorem spawned (service : Service) (call : Call) :
    (service.spawned call).Lives service.children.length :=
  ⟨⟨call.signature, none, false, false⟩, by simp [Service.spawned, withCall], rfl⟩

/-- A child that is killed lives until it ends. -/
theorem killed (lives : service.Lives child) (call : Call) (failure : Failure) :
    (service.killed call child failure).Lives child := by
  obtain ⟨one, there, running⟩ := lives
  exact ⟨{ one with killed := true, waited := true },
    by simp [Service.killed, note, withCall, there], running⟩

end Lives

namespace InFlight

/-- A call in flight is found by its number. -/
theorem found (inFlight : service.InFlight call) : service.call? call.number = some call :=
  inFlight.guarded.call?_eq_some inFlight.member

/-- Where guards, calls, numbers and ended calls are the same, a call is in flight all the same. -/
theorem of_same (inFlight : service.InFlight call) (guards : next.guards = service.guards)
    (calls : next.calls = service.calls) (number : next.next = service.next)
    (ended : next.ended = service.ended) : next.InFlight call where
  guarded := by
    refine ⟨?_, ?_⟩
    · rw [guards, calls]
      exact inFlight.guarded.serves
    · rw [calls, number]
      exact inFlight.guarded.number_lt
  member := by
    rw [calls]
    exact inFlight.member
  unended := by
    rw [ended]
    exact inFlight.unended

/-- A call in flight can end with any result, and is over then. -/
theorem finish (inFlight : service.InFlight call) (result : Except Failure (List Item)) :
    ∃ next, service.finish? call result = some next ∧ next.HasEnded call.number result := by
  obtain ⟨guards, left⟩ :=
    Option.isSome_iff_exists.mp (inFlight.guarded.leave?_isSome inFlight.member)
  exact ⟨_, finish?_eq_some_iff.mpr ⟨guards, left, rfl⟩, .of_left inFlight.unended rfl rfl⟩

/-- A call that comes into another phase of its work is in flight. -/
theorem advance {phase : Phase} {notes : List Note} (inFlight : service.InFlight call)
    (advances : service.Advances next call phase notes) (works : phase ≠ .waiting) :
    next.InFlight { call with phase } where
  guarded := inFlight.guarded.advance advances works
  member := by
    rw [advances.frame]
    exact self_mem_replaced inFlight.member { call with phase } rfl
  unended := by
    rw [advances.frame]
    exact inFlight.unended

/-- A call that has looked into the cache is in flight. -/
theorem acquire (inFlight : service.InFlight call) (free : service.guards.isFree call.lock = true) :
    (service.acquire call).InFlight (call.looked (service.cache.get? call.signature)) where
  guarded := inFlight.guarded.acquire inFlight.member free
  member := by
    obtain ⟨hits, misses, acquired⟩ := acquire_eq service call
    rw [acquired]
    exact self_mem_replaced inFlight.member (call.looked _) rfl
  unended := by
    obtain ⟨hits, misses, acquired⟩ := acquire_eq service call
    rw [acquired]
    exact inFlight.unended

/-- The end of a child leaves a call in flight. -/
theorem exited (inFlight : service.InFlight call) (child : ChildNumber) (code : Int) :
    (service.exited child code).InFlight call :=
  inFlight.of_same rfl rfl rfl rfl

/-! ## One round of events -/

/-- A call that will have no candidates ends with the reason. -/
theorem proceeds_of_failure {other : Service} {failure : Failure} (inFlight : other.InFlight call)
    (fails : prospect surroundings service call = .error failure)
    (plays : service.play (surroundings.respond service call).1 =
      other.finish? call (.error failure)) :
    Proceeds surroundings service call := by
  obtain ⟨next, ends, hasEnded⟩ := inFlight.finish (.error failure)
  refine ⟨next, plays.trans ends, .inl ?_⟩
  rw [outcome, fails]
  exact hasEnded

/-- A call at work that comes into a nearer phase with the same prospect proceeds. -/
theorem proceeds_of_advance {other : Service} {phase : Phase} {notes : List Note}
    (inFlight : other.InFlight call) (setup : other.setup = service.setup)
    (pipeline : other.pipeline = service.pipeline)
    (advances : other.Advances next call phase notes)
    (plays : service.play (surroundings.respond service call).1 = some next)
    (shorter : phase.remaining < call.phase.remaining)
    (ready : IsReady (surroundings.respond service call).2 next { call with phase })
    (same : prospect (surroundings.respond service call).2 next { call with phase } =
      prospect surroundings service call) :
    Proceeds surroundings service call := by
  have works : phase ≠ .waiting := by
    rintro rfl
    cases phases : call.phase <;> simp [phases, Phase.remaining] at shorter
  refine ⟨next, plays, .inr ⟨{ call with phase }, rfl, inFlight.advance advances works, ready,
    shorter, outcome_congr ?_ ?_ rfl rfl same⟩⟩
  · rw [advances.frame]
    exact setup
  · rw [advances.frame]
    exact pipeline

/-- Candidates that a call has are filtered. -/
theorem proceeds_of_filtering (inFlight : service.InFlight call) {candidates : List Candidate}
    (filters : call.phase = .filtering candidates) : Proceeds surroundings service call := by
  obtain ⟨next, ends⟩ := Option.isSome_iff_exists.mp
    (inFlight.guarded.filter?_isSome inFlight.member candidates)
  obtain ⟨_, _, _, calls, ended⟩ := of_filter? ends
  refine ⟨next, ?_, .inl ?_⟩
  · simp [Surroundings.respond, filters, play, step, inFlight.found, ends]
  · have hasEnded := HasEnded.of_left inFlight.unended calls ended
    simpa [outcome, prospect, filters, Except.bind] using hasEnded

/-- A killed child ends, and its call fails. -/
theorem proceeds_of_reaping (inFlight : service.InFlight call) {child : ChildNumber}
    {failure : Failure} (reaps : call.phase = .reaping child failure)
    (lives : service.Lives child) : Proceeds surroundings service call := by
  have exited := inFlight.exited child Introspection.killedCode
  have fails : prospect surroundings service call = .error failure := by simp [prospect, reaps]
  refine proceeds_of_failure exited fails ?_
  simp only [Surroundings.respond, reaps, lives.play_exit]
  simp [step, exited.found, reaps, lives.codeOf_exited]

/-- A child that hangs is given up, and killed if it has not ended. -/
theorem proceeds_of_hanging (inFlight : service.InFlight call) {child : ChildNumber}
    (runs : call.phase = .running child) (lives : service.Lives child) {hasExited : Bool}
    (known : surroundings.started.get? child = some (.hangs hasExited)) :
    Proceeds surroundings service call := by
  have fails : prospect surroundings service call = .error service.timeoutFailure := by
    simp [prospect, runs, known, candidatesFrom]
  cases hasExited with
  | true =>
    have exited := inFlight.exited child 0
    have late : (service.exited child 0).timeoutFailure = service.timeoutFailure := rfl
    refine proceeds_of_failure exited fails ?_
    simp only [Surroundings.respond, runs, known, lives.play_exit]
    simp [step, exited.found, runs, interrupt?, lives.codeOf_exited, late]
  | false =>
    refine inFlight.proceeds_of_advance rfl rfl
      (.kill inFlight.found runs service.timeoutFailure) ?_ ?_ (lives.killed call _) ?_
    · simp [Surroundings.respond, runs, known, play, step, inFlight.found, interrupt?,
        lives.codeOf_eq_none, killed]
    · simp [runs, Phase.remaining]
    · rw [fails]
      rfl

/-- A child that answers ends, and its output is read. -/
theorem proceeds_of_answering (inFlight : service.InFlight call) {child : ChildNumber}
    (runs : call.phase = .running child) (lives : service.Lives child) {exit : Introspection.Exit}
    (known : surroundings.started.get? child = some (.answers exit)) :
    Proceeds surroundings service call := by
  have exited := inFlight.exited child exit.code
  have gives : prospect surroundings service call = exit.candidates := by
    simp [prospect, runs, known, candidatesFrom]
  cases printed : exit.candidates with
  | error failure =>
    refine proceeds_of_failure exited (gives.trans printed) ?_
    simp only [Surroundings.respond, runs, known, lives.play_exit]
    simp [step, exited.found, runs, lives.codeOf_exited, printed]
  | ok candidates =>
    refine exited.proceeds_of_advance rfl rfl (.output exited.found runs candidates) ?_ ?_
      trivial ?_
    · simp only [Surroundings.respond, runs, known, lives.play_exit]
      simp [step, exited.found, runs, lives.codeOf_exited, printed]
    · simp [runs, Phase.remaining]
    · rw [gives, printed]
      rfl

/-- The tool is started, unless it is refused or there is no time for it. -/
theorem proceeds_of_starting (inFlight : service.InFlight call) {contents : String}
    (starts : call.phase = .starting contents) : Proceeds surroundings service call := by
  have gives : prospect surroundings service call = introspected surroundings service := by
    simp [prospect, starts]
  cases allowed : service.allowsStart with
  | false =>
    have late : prospect surroundings service call = .error service.timeoutFailure := by
      rw [gives, introspected, allowed]
      rfl
    refine proceeds_of_failure inFlight late ?_
    simp [Surroundings.respond, starts, allowed, play, step, inFlight.found]
  | true =>
    rw [introspected, if_pos allowed] at gives
    by_cases refusal : ∃ fault, surroundings.next.1 = .refuses fault
    · obtain ⟨fault, refused⟩ := refusal
      have noted : (service.note [.spawned call.number (service.commandFor call contents)]).InFlight
          call := inFlight.of_same rfl rfl rfl rfl
      rw [refused] at gives
      refine proceeds_of_failure noted gives ?_
      rw [respond_of_refused starts allowed refused]
      simp [play, step, inFlight.found, starts, allowed]
    · have accepted : ∀ fault, surroundings.next.1 ≠ .refuses fault := not_exists.mp refusal
      have responds := respond_of_started starts allowed accepted
      refine inFlight.proceeds_of_advance rfl rfl (.spawn inFlight.found starts) ?_ ?_ ?_ ?_
      · rw [responds]
        simp [play, step, inFlight.found, starts, allowed]
      · simp [starts, Phase.remaining]
      · rw [responds]
        exact ⟨.spawned _ call, _, Table.get?_set_self _ _ _, accepted⟩
      · rw [responds, gives]
        simp only [prospect, Table.get?_set_self, Option.getD_some]
        exact candidatesFrom_congr rfl _

/-- The buffer is read. -/
theorem proceeds_of_reading (inFlight : service.InFlight call) (reads : call.phase = .reading) :
    Proceeds surroundings service call := by
  have gives : prospect surroundings service call =
      candidatesAt surroundings service call.request.filePath := by
    simp [prospect, reads]
  cases buffer : readBuffer surroundings.system call.request.filePath with
  | error failure =>
    have unread : prospect surroundings service call = .error failure := by
      rw [gives, candidatesAt, buffer]
      rfl
    refine proceeds_of_failure inFlight unread ?_
    simp [Surroundings.respond, reads, buffer, play, step, inFlight.found]
  | ok contents =>
    have advances : service.Advances (service.withCall { call with phase := .starting contents })
        call (.starting contents) [] := .read inFlight.found reads
    refine inFlight.proceeds_of_advance rfl rfl advances ?_ ?_ trivial ?_
    · simp [Surroundings.respond, reads, buffer, play, step, inFlight.found]
    · simp [reads, Phase.remaining]
    · rw [gives, candidatesAt, buffer]
      simp only [prospect, Surroundings.respond, reads]
      rfl

/-- The lock is taken, and the cache is looked into. -/
theorem proceeds_of_waiting (inFlight : service.InFlight call) (waits : call.phase = .waiting)
    (free : service.guards.isFree call.lock = true) : Proceeds surroundings service call := by
  refine ⟨service.acquire call, ?_, .inr ⟨call.looked (service.cache.get? call.signature), ?_⟩⟩
  · simp [Surroundings.respond, waits, play, step, inFlight.found, free]
  · obtain ⟨setup, pipeline⟩ : (service.acquire call).setup = service.setup ∧
        (service.acquire call).pipeline = service.pipeline := by
      obtain ⟨hits, misses, acquired⟩ := acquire_eq service call
      rw [acquired]
      exact ⟨rfl, rfl⟩
    have looked := inFlight.acquire free
    cases found : service.cache.get? call.signature with
    | none =>
      rw [found] at looked
      refine ⟨rfl, looked, trivial, ?_, outcome_congr setup pipeline rfl rfl ?_⟩
      · simp [Call.looked, waits, Phase.remaining]
      · simp [prospect, Call.looked, waits, found, Surroundings.respond, candidatesAt_congr setup]
    | some candidates =>
      rw [found] at looked
      refine ⟨rfl, looked, trivial, ?_, outcome_congr setup pipeline rfl rfl ?_⟩
      · simp [Call.looked, waits, Phase.remaining]
      · simp [prospect, Call.looked, waits, found]

/-- A call that has what it needs proceeds from every phase. -/
theorem proceeds (inFlight : service.InFlight call) (ready : IsReady surroundings service call) :
    Proceeds surroundings service call := by
  rw [IsReady] at ready
  cases phase : call.phase with
  | waiting =>
    rw [phase] at ready
    exact inFlight.proceeds_of_waiting phase ready
  | reading => exact inFlight.proceeds_of_reading phase
  | starting contents => exact inFlight.proceeds_of_starting phase
  | running child =>
    rw [phase] at ready
    obtain ⟨lives, behaviour, known, accepted⟩ := ready
    cases behaviour with
    | refuses fault => exact absurd rfl (accepted fault)
    | answers exit => exact inFlight.proceeds_of_answering phase lives known
    | hangs hasExited => exact inFlight.proceeds_of_hanging phase lives known
  | reaping child failure =>
    rw [phase] at ready
    exact inFlight.proceeds_of_reaping phase ready
  | filtering candidates => exact inFlight.proceeds_of_filtering phase

end InFlight

/-! ## The whole course -/

/-- A call that is over is not driven any further. -/
theorem drive_of_gone {number : CallNumber} (gone : service.call? number = none) (phases : Nat) :
    drive surroundings service number phases = (surroundings, service) := by
  cases phases with
  | zero => rfl
  | succ phases => rw [drive, gone]

/-- A call that has what it needs ends with its outcome. -/
theorem InFlight.result?_drive {phases : Nat} (inFlight : service.InFlight call)
    (ready : IsReady surroundings service call) (enough : call.phase.remaining ≤ phases) :
    (drive surroundings service call.number phases).2.result? call.number =
      some (outcome surroundings service call) := by
  induction phases generalizing surroundings service call with
  | zero => cases phase : call.phase <;> simp [phase, Phase.remaining] at enough
  | succ phases ih =>
    obtain ⟨next, plays, hasEnded | ⟨moved, nears⟩⟩ := inFlight.proceeds ready
    · rw [drive, inFlight.found]
      simp only [plays]
      rw [drive_of_gone hasEnded.gone, hasEnded.result]
    · rw [drive, inFlight.found]
      simp only [plays]
      rw [← nears.number, ih nears.inFlight nears.ready, nears.outcome]
      exact Nat.le_of_lt_succ (Nat.lt_of_lt_of_le nears.shorter enough)

/-! ## A request taken to its end -/

/-- The candidates that a request gets, from the cache or else from a run of the tool. -/
def candidatesFor (surroundings : Surroundings) (service : Service) (request : Request) :
    Except Failure (List Candidate) :=
  match service.cache.get? (Signature.ofRequest request) with
  | some candidates => .ok candidates
  | none => candidatesAt surroundings service request.filePath

/-- A call that comes while no call on its signature works finds its lock free. -/
theorem Guarded.isFree_of_arrival (guarded : service.Guarded) {state : Project.State}
    {request : Request}
    (free : ∀ other ∈ service.calls, other.signature = Signature.ofRequest request →
      ¬ other.Works) :
    (service.enter state request).guards.isFree (service.arrival state request).lock = true := by
  have serves := (guarded.enter state request).serves
  have member : service.arrival state request ∈ (service.enter state request).calls := by
    simp [enter_eq]
  rw [Guards.isFree, Table.has_eq_isSome]
  cases held : (service.enter state request).guards.holders.get?
      (service.arrival state request).lock with
  | none => rfl
  | some number =>
    obtain ⟨other, inCalls, _, lock, works⟩ := (serves.holder_iff _ _).mp held
    have same : other.signature = Signature.ofRequest request :=
      serves.lock_inj (serves.lock_eq other inCalls)
        (lock ▸ serves.lock_eq (service.arrival state request) member)
    rw [enter_eq] at inCalls
    rcases List.mem_append.mp inCalls with old | new
    · exact absurd works (free other old same)
    · rw [List.mem_singleton.mp new] at works
      exact absurd rfl works

/-- The call that a request makes is in flight. -/
theorem InFlight.of_arrival (guarded : service.Guarded) (numbered : service.Numbered)
    (state : Project.State) (request : Request) :
    (service.enter state request).InFlight (service.arrival state request) :=
  ⟨guarded.enter state request, by simp [enter_eq],
    fun one inEnded => Nat.ne_of_lt (numbered.ended one inEnded)⟩

/-- A request that comes while no call on its signature works is answered from its candidates. -/
theorem complete_eq (guarded : service.Guarded) (numbered : service.Numbered)
    (surroundings : Surroundings) (state : Project.State) (request : Request)
    (free : ∀ other ∈ service.calls, other.signature = Signature.ofRequest request →
      ¬ other.Works) :
    (complete surroundings service (some state) request).1 =
      (candidatesFor surroundings service request).bind (service.answer · request state) := by
  have inFlight := InFlight.of_arrival guarded numbered state request
  have taken : (complete surroundings service (some state) request).1 =
      ((drive surroundings (service.enter state request) service.next phaseLimit).2.result?
        service.next).getD (.error .cancelled) := by
    simp [complete, completeAll]
  have result : (drive surroundings (service.enter state request) service.next phaseLimit).2.result?
      service.next = some (outcome surroundings (service.enter state request)
        (service.arrival state request)) :=
    inFlight.result?_drive (guarded.isFree_of_arrival free) (Nat.le_succ 5)
  rw [taken, result, Option.getD_some]
  rfl

end CompletionServer.Service
