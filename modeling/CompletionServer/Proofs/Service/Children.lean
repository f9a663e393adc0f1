import CompletionServer.Proofs.Service.Accounts

/-!
# The children of a service

A call that finds nothing in the cache has a child started. The child ends by itself, or the call is
given up while it runs: then it is killed, and the call ends after the child has. `Tended` says of a
run and of the service it leads to whose the children are and what became of them. It holds as long
as no call is given up twice: a call that is given up while it waits for the end of its killed child
does not wait any longer.
-/

namespace CompletionServer.Service

/-! ## Who had children started, and who was given up -/

/-- The call that an event has a child started for. -/
def Event.spawner? : Event → Option CallNumber
  | .spawn call (.ok ()) => some call
  | _ => none

/-- The calls that children were started for, by the numbers of the children. -/
def spawners (events : List Event) : List CallNumber := events.filterMap Event.spawner?

/-- Whether an event gives a call up. -/
def Event.givesUp (number : CallNumber) : Event → Bool
  | .expire call | .cancel call | .abandon call => call = number
  | _ => false

/-- The children that were killed, in order. -/
def killsIn (log : List Note) : List ChildNumber :=
  log.filterMap fun
    | .killed child => some child
    | _ => none

/-- Notes that are added add the children that were killed. -/
theorem killsIn_append (log notes : List Note) :
    killsIn (log ++ notes) = killsIn log ++ killsIn notes :=
  List.filterMap_append

/-- An event that starts no child adds no call. -/
theorem spawners_concat_of_none (events : List Event) {event : Event}
    (unasked : event.spawner? = none) : spawners (events ++ [event]) = spawners events := by
  rw [spawners, List.filterMap_append, List.filterMap_cons_none unasked]
  exact List.append_nil _

/-- An event that starts a child adds the call it is for. -/
theorem spawners_concat_of_some (events : List Event) {event : Event} {number : CallNumber}
    (asked : event.spawner? = some number) :
    spawners (events ++ [event]) = spawners events ++ [number] := by
  rw [spawners, List.filterMap_append, List.filterMap_cons_some asked]
  rfl

/-- Whoever is given up, an event says so. -/
theorem GivesUp.givesUp {service : Service} {call : Call} {event : Event} {failure : Failure}
    (cause : service.GivesUp call event failure) :
    event.givesUp call.number = true ∧ event.spawner? = none := by
  cases cause <;> simp [Event.givesUp, Event.spawner?]

/-- A call that fails has no child started and kills none. -/
theorem Fails.quiet {service : Service} {call : Call} {event : Event} {notes : List Note}
    {failure : Failure} (cause : service.Fails call event notes failure) :
    event.spawner? = none ∧ killsIn notes = [] := by
  cases cause with
  | settled _ _ cause => exact ⟨cause.givesUp.2, rfl⟩
  | _ => exact ⟨rfl, rfl⟩

/-- A call that waits for the end of its killed child fails after that, or because it is given up
once more. -/
theorem Fails.of_reaping {service : Service} {call : Call} {event : Event} {notes : List Note}
    {failure : Failure} (cause : service.Fails call event notes failure) {place : ChildNumber}
    {given : Failure} (waits : call.phase = .reaping place given) :
    (service.codeOf place).isSome = true ∨ event = .abandon call.number := by
  cases cause with
  | abandoned => exact .inr rfl
  | reaped reaping ended =>
    obtain ⟨rfl, _⟩ := Phase.reaping.inj (reaping.symm.trans waits)
    exact .inl ended
  | cancelled _ reaping => exact absurd waits (reaping place given)
  | unread phase | unstarted phase | unusable phase | late phase | settled phase =>
    simp [waits] at phase

/-! ## Changes that start and kill no child -/

/-- A call in this phase is still to have a child, if it needs one. -/
def Phase.IsEarly : Phase → Prop
  | .waiting | .reading | .starting _ => True
  | .running _ | .reaping _ _ | .filtering _ => False

/-- A change starts no child and kills none. -/
structure Quiet (service : Service) (event : Event) (next : Service) : Prop where
  unasked : event.spawner? = none
  length : next.children.length = service.children.length
  codes : ∀ place, (service.codeOf place).isSome = true → (next.codeOf place).isSome = true
  log : ∃ notes, next.log = service.log ++ notes ∧ killsIn notes = []
  next_le : service.next ≤ next.next
  /-- No call comes to be concerned with a child. -/
  calls : ∀ call ∈ next.calls, ∀ place, call.phase.Awaits place → call ∈ service.calls
  /-- A call that is still to have a child was so before, or has come. -/
  early : ∀ call ∈ next.calls, call.phase.IsEarly →
    (∃ old ∈ service.calls, old.number = call.number ∧ old.phase.IsEarly) ∨
      service.next ≤ call.number
  /-- A call that waited for the end of its killed child ended after that, or was given up. -/
  ended : ∀ one ∈ next.ended, ∀ place failure, one.call.phase = .reaping place failure →
    one ∈ service.ended ∨ (service.codeOf place).isSome = true ∨
      (one.call ∈ service.calls ∧ event = .abandon one.call.number)

namespace Quiet

variable {service next : Service} {call : Call} {event : Event}

/-- A call comes into a phase that is concerned with no child. -/
theorem replace (member : call ∈ service.calls) (new : Call) (same : new.number = call.number)
    (idle : ∀ place, ¬ new.phase.Awaits place) (early : new.phase.IsEarly → call.phase.IsEarly)
    (unasked : event.spawner? = none) (notes : List Note) (silent : killsIn notes = [])
    (log : next.log = service.log ++ notes) (children : next.children = service.children)
    (number : next.next = service.next) (ended : next.ended = service.ended)
    (calls : next.calls = replaced service.calls new) : Quiet service event next where
  unasked := unasked
  length := congrArg List.length children
  codes place exited := by rwa [codeOf, children]
  log := ⟨notes, log, silent⟩
  next_le := Nat.le_of_eq number.symm
  early := by
    intro other inCalls first
    rw [calls] at inCalls
    rcases (mem_replaced member same).mp inCalls with rfl | ⟨old, _⟩
    · exact .inl ⟨call, member, same.symm, early first⟩
    · exact .inl ⟨other, old, rfl, first⟩
  calls := by
    intro other inCalls place awaits
    rw [calls] at inCalls
    rcases (mem_replaced member same).mp inCalls with rfl | ⟨old, _⟩
    · exact absurd awaits (idle place)
    · exact old
  ended one inEnded place failure _ := .inl (ended ▸ inEnded)

/-- A call ends. -/
theorem finish (member : call ∈ service.calls) (unasked : event.spawner? = none)
    (notes : List Note) (silent : killsIn notes = [])
    (settled : ∀ place failure, call.phase = .reaping place failure →
      (service.codeOf place).isSome = true ∨ event = .abandon call.number)
    {result : Except Failure (List Item)} (log : next.log = service.log ++ notes ++
      [.completed call.number (.ofResult result) (call.hit? == some true)])
    (children : next.children = service.children) (number : next.next = service.next)
    (ended : next.ended = service.ended ++ [⟨call, result⟩])
    (calls : next.calls = service.calls.filter (·.number ≠ call.number)) :
    Quiet service event next where
  unasked := unasked
  length := congrArg List.length children
  codes place exited := by rwa [codeOf, children]
  log := by
    rw [List.append_assoc] at log
    refine ⟨_, log, ?_⟩
    rw [killsIn_append, silent]
    rfl
  next_le := Nat.le_of_eq number.symm
  calls other inCalls _ _ := List.mem_of_mem_filter (calls ▸ inCalls)
  early other inCalls first := .inl ⟨other, List.mem_of_mem_filter (calls ▸ inCalls), rfl, first⟩
  ended := by
    intro one inEnded place failure waits
    rw [ended] at inEnded
    rcases List.mem_append.mp inEnded with old | new
    · exact .inl old
    · obtain rfl := List.mem_singleton.mp new
      exact .inr ((settled place failure waits).imp_right fun given => ⟨member, given⟩)

/-- A call filters its candidates and ends. -/
theorem filter (member : call ∈ service.calls) {candidates : List Candidate}
    (filters : call.phase = .filtering candidates)
    (ends : service.filter? call candidates = some next) (unasked : event.spawner? = none) :
    Quiet service event next := by
  have settled (place : ChildNumber) (failure : Failure)
      (waits : call.phase = .reaping place failure) :
      (service.codeOf place).isSome = true ∨ event = .abandon call.number := by
    simp [filters] at waits
  obtain ⟨cache, guards, notes, result, kinds, rfl⟩ := exists_of_filter?_eq_some ends
  have silent : killsIn notes = [] := by rcases kinds with rfl | rfl <;> rfl
  exact finish member unasked notes silent settled rfl rfl rfl rfl rfl

/-- A child that ends gets a return code, and the others keep theirs. -/
theorem exit (place : ChildNumber) (code : Int) :
    Quiet service (.exit place code) (service.exited place code) where
  unasked := rfl
  length := List.length_modify _ _ _
  codes := by
    intro other exited
    rw [codeOf] at exited ⊢
    rw [Service.exited, List.getElem?_modify]
    split
    · cases there : service.children[other]? with
      | none => simp [there] at exited
      | some one => simp
    · simpa using exited
  log := ⟨[], (List.append_nil _).symm, rfl⟩
  next_le := Nat.le_refl _
  calls _ inCalls _ _ := inCalls
  early call inCalls first := .inl ⟨call, inCalls, rfl, first⟩
  ended _ inEnded _ _ _ := .inl inEnded

/-- Only the calls in flight and the guards matter to a request that comes. -/
theorem enter (state : Project.State) (request : Request) :
    Quiet service (.enter state request) (service.enter state request) where
  unasked := rfl
  length := rfl
  codes _ exited := exited
  log := ⟨[], (List.append_nil _).symm, rfl⟩
  next_le := Nat.le_succ _
  calls := by
    intro call member place awaits
    rcases List.mem_append.mp member with old | new
    · exact old
    · rw [List.mem_singleton.mp new] at awaits
      simp [Phase.Awaits] at awaits
  early := by
    intro call member first
    rcases List.mem_append.mp member with old | new
    · exact .inl ⟨call, old, rfl, first⟩
    · rw [List.mem_singleton.mp new]
      exact .inr (Nat.le_refl _)
  ended _ inEnded _ _ _ := .inl inEnded

/-- The workers have nothing to do with the children. -/
theorem close : Quiet service .close service.close := by
  unfold Service.close
  split
  all_goals exact
    { unasked := rfl
      length := rfl
      codes := fun _ exited => exited
      log := ⟨[], (List.append_nil _).symm, rfl⟩
      next_le := Nat.le_refl _
      calls := fun _ inCalls _ _ => inCalls
      early := fun call inCalls first => .inl ⟨call, inCalls, rfl, first⟩
      ended := fun _ inEnded _ _ _ => .inl inEnded }

end Quiet

/-- Every transition starts no child and kills none, or it starts one for a call that is to have
one, or it kills the living child of a call that is given up. -/
theorem Transition.quiet_or {service next : Service} {event : Event}
    (change : Transition service event next) :
    Quiet service event next ∨
      (∃ call contents, call ∈ service.calls ∧ call.phase = .starting contents ∧
        event = .spawn call.number (.ok ()) ∧
        next = (service.note
          [.spawned call.number (service.commandFor call contents)]).spawned call) ∨
      ∃ call child failure, call ∈ service.calls ∧ call.phase = .running child ∧
        service.codeOf child = none ∧ service.GivesUp call event failure ∧
        next = service.killed call child failure := by
  cases change with
  | enter state request => exact .inl (.enter state request)
  | @acquire call found waits =>
    have member := (mem_of_call?_eq_some found).1
    left
    rw [acquire_eq_counted]
    refine .replace member (call.looked (service.cache.get? call.signature)) rfl ?_
      (fun _ => by simp [waits, Phase.IsEarly]) rfl
      [.looked call.number (service.cache.get? call.signature).isSome] rfl rfl rfl rfl rfl rfl
    cases service.cache.get? call.signature <;> simp [Phase.Awaits, Call.looked]
  | @read call contents found reads =>
    have member := (mem_of_call?_eq_some found).1
    exact .inl (.replace member { call with phase := .starting contents } rfl
      (by simp [Phase.Awaits]) (fun _ => by simp [reads, Phase.IsEarly]) rfl [] rfl
      (List.append_nil _).symm rfl rfl rfl rfl)
  | @spawn call contents found starts =>
    exact .inr (.inl ⟨call, contents, (mem_of_call?_eq_some found).1, starts, rfl, rfl⟩)
  | exit code => exact .inl (.exit _ code)
  | @output call _ _ _ _ candidates found =>
    have member := (mem_of_call?_eq_some found).1
    exact .inl (.replace member { call with phase := .filtering candidates } rfl
      (by simp [Phase.Awaits]) False.elim rfl [] rfl (List.append_nil _).symm rfl rfl rfl rfl)
  | @kill call child _ failure found runs lives cause =>
    have member := (mem_of_call?_eq_some found).1
    exact .inr (.inr ⟨call, child, failure, member, runs, lives, cause, rfl⟩)
  | fail notes failure found _ _ _ happens cause =>
    obtain ⟨guards, _, rfl⟩ := finish?_eq_some_iff.mp happens
    exact .inl (.finish (mem_of_call?_eq_some found).1 cause.quiet.1 notes cause.quiet.2
      (fun _ _ waits => cause.of_reaping waits) rfl rfl rfl rfl rfl)
  | filter found filters happens =>
    exact .inl (.filter (mem_of_call?_eq_some found).1 filters happens rfl)
  | close => exact .inl .close

/-! ## Whose the children are -/

/-- The children after a run belong to calls: each was started for one call, and no call had two. -/
structure Owned (events : List Event) (service : Service) : Prop where
  length : (spawners events).length = service.children.length
  nodup : (spawners events).Nodup
  number_lt : ∀ number ∈ spawners events, number < service.next
  /-- A child is the concern of no other call than the one that it was started for. -/
  owner : ∀ call ∈ service.calls, ∀ place, call.phase.Awaits place →
    (spawners events)[place]? = some call.number
  /-- A call that is still to have a child has had none. -/
  early : ∀ call ∈ service.calls, call.phase.IsEarly → call.number ∉ spawners events

namespace Owned

variable {events : List Event} {service next : Service} {call : Call} {event : Event}

/-- An idle service has no children. -/
theorem create (settings : Settings) (overrides : Overrides) :
    Owned [] (create settings overrides) where
  length := rfl
  nodup := .nil
  number_lt := by simp [spawners]
  owner := by simp [Service.create]
  early := by simp [spawners]

/-- A change that starts and kills no child leaves the children to their calls. -/
theorem quiet (owned : Owned events service) (quiet : Quiet service event next) :
    Owned (events ++ [event]) next := by
  have started := spawners_concat_of_none events quiet.unasked
  exact
    { length := by rw [started, quiet.length, owned.length]
      nodup := started ▸ owned.nodup
      number_lt := by
        rw [started]
        exact fun number among => Nat.lt_of_lt_of_le (owned.number_lt number among) quiet.next_le
      owner := by
        intro call inCalls place awaits
        rw [started]
        exact owned.owner call (quiet.calls call inCalls place awaits) place awaits
      early := by
        intro call inCalls first
        rw [started]
        rcases quiet.early call inCalls first with ⟨old, inOld, same, first⟩ | new
        · exact same ▸ owned.early old inOld first
        · exact fun among => Nat.lt_irrefl _ (Nat.lt_of_lt_of_le (owned.number_lt _ among) new) }

/-- A child that is started belongs to the call that it is started for. -/
theorem spawn (owned : Owned events service) (guarded : service.Guarded)
    (member : call ∈ service.calls) {contents : String} (starts : call.phase = .starting contents)
    (notes : List Note) :
    Owned (events ++ [.spawn call.number (.ok ())]) ((service.note notes).spawned call) := by
  have started : spawners (events ++ [.spawn call.number (.ok ())]) =
      spawners events ++ [call.number] := spawners_concat_of_some events rfl
  have unasked : call.number ∉ spawners events :=
    owned.early call member (by simp [starts, Phase.IsEarly])
  have same : ({ call with phase := .running service.children.length } : Call).number =
    call.number := rfl
  exact
    { length := by
        change _ = (service.children ++ [_]).length
        rw [started, List.length_append, List.length_append, owned.length]
        rfl
      nodup := by
        rw [started, List.nodup_append]
        refine ⟨owned.nodup, List.nodup_singleton _, ?_⟩
        rintro number among _ new rfl
        exact unasked (List.mem_singleton.mp new ▸ among)
      number_lt := by
        rw [started]
        intro number among
        rcases List.mem_append.mp among with old | new
        · exact owned.number_lt number old
        · rw [List.mem_singleton.mp new]
          exact guarded.number_lt call member
      owner := by
        intro other inCalls place awaits
        rw [started]
        rcases (mem_replaced member same).mp inCalls with rfl | ⟨old, _⟩
        · obtain rfl : service.children.length = place :=
            (Phase.Awaits.unique awaits (.inl rfl)).symm
          rw [← owned.length]
          exact List.getElem?_concat_length
        · have known := owned.owner other old place awaits
          rwa [List.getElem?_append_left (List.getElem?_eq_some_iff.mp known).1]
      early := by
        intro other inCalls first
        rw [started]
        rcases (mem_replaced member same).mp inCalls with rfl | ⟨old, differs⟩
        · exact False.elim first
        · rw [List.mem_append, List.mem_singleton]
          exact not_or.mpr ⟨owned.early other old first, differs⟩ }

/-- A child that is killed stays with its call. -/
theorem kill (owned : Owned events service) (member : call ∈ service.calls)
    {child : ChildNumber} (runs : call.phase = .running child) {failure : Failure}
    (cause : service.GivesUp call event failure) :
    Owned (events ++ [event]) (service.killed call child failure) := by
  have started := spawners_concat_of_none events cause.givesUp.2
  have same : ({ call with phase := .reaping child failure } : Call).number = call.number := rfl
  exact
    { length := by
        rw [started, owned.length]
        exact (List.length_modify _ _ _).symm
      nodup := started ▸ owned.nodup
      number_lt := started ▸ owned.number_lt
      owner := by
        intro other inCalls place awaits
        rw [started]
        rcases (mem_replaced member same).mp inCalls with rfl | ⟨old, _⟩
        · obtain rfl := Phase.Awaits.unique awaits (.inr ⟨failure, rfl⟩)
          exact owned.owner call member place (.inl runs)
        · exact owned.owner other old place awaits
      early := by
        intro other inCalls first
        rw [started]
        rcases (mem_replaced member same).mp inCalls with rfl | ⟨old, _⟩
        · exact False.elim first
        · exact owned.early other old first }

/-- Every transition leaves the children to their calls. -/
theorem transition (owned : Owned events service) (guarded : service.Guarded)
    (change : Transition service event next) : Owned (events ++ [event]) next := by
  rcases change.quiet_or with quiet | ⟨call, contents, member, starts, rfl, rfl⟩ |
    ⟨call, child, failure, member, runs, _, cause, rfl⟩
  · exact owned.quiet quiet
  · exact owned.spawn guarded member starts _
  · exact owned.kill member runs cause

end Owned

/-- After every run the children belong to calls. -/
theorem owned_of_play {settings : Settings} {overrides : Overrides} {last : Service}
    {events : List Event} (played : (create settings overrides).play events = some last) :
    Owned events last :=
  invariant_of_play played Owned (.create settings overrides) fun reachable owned change =>
    owned.transition reachable.guarded change

/-! ## What becomes of the children -/

/-- The children that belong to calls, none of which was given up twice. -/
structure Tended (events : List Event) (service : Service) : Prop where
  owned : Owned events service
  /-- A child that a call has not been given up on is not killed. -/
  unkilled : ∀ call ∈ service.calls, ∀ place, call.phase = .running place →
    place ∉ killsIn service.log
  waited : ∀ place ∈ killsIn service.log, [.killed place, .waited place] <:+: service.log
  once : (killsIn service.log).Nodup
  killed_lt : ∀ place ∈ killsIn service.log, place < service.children.length
  /-- A call that waits for the end of its killed child was given up. -/
  given : ∀ call ∈ service.calls, ∀ place failure, call.phase = .reaping place failure →
    0 < events.countP (·.givesUp call.number)
  /-- A call ended only after its killed child had. -/
  settled : ∀ one ∈ service.ended, ∀ place failure, one.call.phase = .reaping place failure →
    (service.codeOf place).isSome = true

namespace Tended

variable {events : List Event} {service next : Service} {call : Call} {event : Event}

/-- An idle service has no children. -/
theorem create (settings : Settings) (overrides : Overrides) :
    Tended [] (create settings overrides) where
  owned := .create settings overrides
  unkilled := by simp [Service.create]
  waited := by simp [Service.create, killsIn]
  once := .nil
  killed_lt := by simp [Service.create, killsIn]
  given := by simp [Service.create]
  settled := by simp [Service.create]

/-- Who was given up in a run was given up in a longer one. -/
theorem given_concat (tended : Tended events service) (event : Event) {place : ChildNumber}
    {failure : Failure} (member : call ∈ service.calls)
    (waits : call.phase = .reaping place failure) :
    0 < (events ++ [event]).countP (·.givesUp call.number) := by
  rw [List.countP_append]
  exact Nat.add_pos_left (tended.given call member place failure waits) _

/-- A change that starts and kills no child keeps what is said of the children. -/
theorem quiet (tended : Tended events service) (quiet : Quiet service event next)
    (once : ∀ number, (events ++ [event]).countP (·.givesUp number) ≤ 1) :
    Tended (events ++ [event]) next := by
  obtain ⟨notes, log, silent⟩ := quiet.log
  have kills : killsIn next.log = killsIn service.log := by
    rw [log, killsIn_append, silent, List.append_nil]
  exact
    { owned := tended.owned.quiet quiet
      unkilled := by
        intro call inCalls place runs
        rw [kills]
        exact tended.unkilled call (quiet.calls call inCalls place (.inl runs)) place runs
      waited := by
        intro place killed
        rw [kills] at killed
        rw [log]
        exact (tended.waited place killed).trans (List.prefix_append _ _).isInfix
      once := kills ▸ tended.once
      killed_lt := by
        rw [kills, quiet.length]
        exact tended.killed_lt
      given := by
        intro call inCalls place failure waits
        have old := quiet.calls call inCalls place (.inr ⟨failure, waits⟩)
        exact tended.given_concat event old waits
      settled := by
        intro one inEnded place failure waits
        rcases quiet.ended one inEnded place failure waits with old | exited | ⟨member, rfl⟩
        · exact quiet.codes place (tended.settled one old place failure waits)
        · exact quiet.codes place exited
        · -- It was given up before, and would be given up twice.
          have before := tended.given one.call member place failure waits
          have twice := once one.call.number
          have again : [Event.abandon one.call.number].countP (·.givesUp one.call.number) = 1 := by
            simp [Event.givesUp]
          rw [List.countP_append] at twice
          omega }

/-- A child that is started was not killed before. -/
theorem spawn (tended : Tended events service) (guarded : service.Guarded)
    (member : call ∈ service.calls) {contents : String} (starts : call.phase = .starting contents)
    (notes : List Note) (silent : killsIn notes = []) :
    Tended (events ++ [.spawn call.number (.ok ())]) ((service.note notes).spawned call) := by
  have log : ((service.note notes).spawned call).log = service.log ++ notes := rfl
  have kills : killsIn ((service.note notes).spawned call).log = killsIn service.log := by
    rw [log, killsIn_append, silent, List.append_nil]
  have same : ({ call with phase := .running service.children.length } : Call).number =
    call.number := rfl
  exact
    { owned := tended.owned.spawn guarded member starts notes
      unkilled := by
        intro other inCalls place runs
        rw [kills]
        rcases (mem_replaced member same).mp inCalls with rfl | ⟨old, _⟩
        · obtain rfl := Phase.running.inj runs
          exact fun killed => Nat.lt_irrefl _ (tended.killed_lt _ killed)
        · exact tended.unkilled other old place runs
      waited := by
        intro place killed
        rw [kills] at killed
        rw [log]
        exact (tended.waited place killed).trans (List.prefix_append _ _).isInfix
      once := kills ▸ tended.once
      killed_lt := by
        intro place killed
        rw [kills] at killed
        refine Nat.lt_of_lt_of_le (tended.killed_lt place killed) ?_
        exact (List.prefix_append service.children _).length_le
      given := by
        intro other inCalls place failure waits
        rcases (mem_replaced member same).mp inCalls with rfl | ⟨old, _⟩
        · simp at waits
        · exact tended.given_concat _ old waits
      settled := by
        intro one inEnded place failure waits
        have exited := tended.settled one inEnded place failure waits
        rw [codeOf] at exited ⊢
        change ((service.children ++ _)[place]?.bind _).isSome = true
        rw [List.getElem?_append_left]
        · exact exited
        · by_contra beyond
          rw [List.getElem?_eq_none (Nat.le_of_not_lt beyond)] at exited
          simp at exited }

/-- Killing a child leaves the return codes. -/
theorem codeOf_killed (service : Service) (call : Call) (child place : ChildNumber)
    (failure : Failure) :
    (service.killed call child failure).codeOf place = service.codeOf place := by
  rw [codeOf, codeOf]
  change (service.children.modify child _)[place]?.bind _ = _
  rw [List.getElem?_modify]
  split <;> cases service.children[place]? <;> rfl

/-- A child that is killed was not killed before, and its call was given up. -/
theorem kill (tended : Tended events service) (member : call ∈ service.calls)
    {child : ChildNumber} (runs : call.phase = .running child) {failure : Failure}
    (cause : service.GivesUp call event failure) :
    Tended (events ++ [event]) (service.killed call child failure) := by
  have log : (service.killed call child failure).log =
      service.log ++ [.killed child, .waited child] := rfl
  have kills : killsIn (service.killed call child failure).log = killsIn service.log ++ [child] :=
    killsIn_append _ _
  have same : ({ call with phase := .reaping child failure } : Call).number = call.number := rfl
  have owned := tended.owned.owner call member child (.inl runs)
  have length : (service.killed call child failure).children.length = service.children.length :=
    List.length_modify _ _ _
  exact
    { owned := tended.owned.kill member runs cause
      unkilled := by
        intro other inCalls place running
        rcases (mem_replaced member same).mp inCalls with rfl | ⟨old, differs⟩
        · simp at running
        · have known := tended.owned.owner other old place (.inl running)
          have apart : place ≠ child := by
            rintro rfl
            exact differs (Option.some.inj (known.symm.trans owned))
          rw [kills, List.mem_append, List.mem_singleton]
          exact not_or.mpr ⟨tended.unkilled other old place running, apart⟩
      waited := by
        intro place killed
        rw [kills, List.mem_append, List.mem_singleton] at killed
        rw [log]
        rcases killed with old | rfl
        · exact (tended.waited place old).trans (List.prefix_append _ _).isInfix
        · exact (List.suffix_append _ _).isInfix
      once := by
        rw [kills, List.nodup_append]
        refine ⟨tended.once, List.nodup_singleton _, ?_⟩
        rintro place killed _ new rfl
        rw [List.mem_singleton.mp new] at killed
        exact tended.unkilled call member child runs killed
      killed_lt := by
        intro place killed
        rw [kills, List.mem_append, List.mem_singleton] at killed
        rw [length]
        rcases killed with old | rfl
        · exact tended.killed_lt place old
        · rw [← tended.owned.length]
          exact (List.getElem?_eq_some_iff.mp owned).1
      given := by
        intro other inCalls place _ waits
        rcases (mem_replaced member same).mp inCalls with rfl | ⟨old, _⟩
        · rw [List.countP_append]
          refine Nat.add_pos_right _ ?_
          simp [cause.givesUp.1]
        · exact tended.given_concat _ old waits
      settled := by
        intro one inEnded place _ waits
        rw [codeOf_killed]
        exact tended.settled one inEnded place _ waits }

/-- Every transition keeps what is said of the children, as long as no call is given up twice. -/
theorem transition (tended : Tended events service) (guarded : service.Guarded)
    (once : ∀ number, (events ++ [event]).countP (·.givesUp number) ≤ 1)
    (change : Transition service event next) : Tended (events ++ [event]) next := by
  rcases change.quiet_or with quiet | ⟨call, contents, member, starts, rfl, rfl⟩ |
    ⟨call, child, failure, member, runs, _, cause, rfl⟩
  · exact tended.quiet quiet once
  · exact tended.spawn guarded member starts _ rfl
  · exact tended.kill member runs cause

/-- A child that lives is the concern of a call in flight for its signature. -/
theorem exists_call (tended : Tended events service) (attended : service.Attended)
    {place : ChildNumber} {child : Child} (there : service.children[place]? = some child)
    (lives : child.code = none) :
    ∃ call ∈ service.calls, call.phase.Awaits place ∧ call.signature = child.signature := by
  rcases attended there lives with inFlight | ⟨one, inEnded, failure, waits⟩
  · exact inFlight
  · have exited := tended.settled one inEnded place failure waits
    simp [codeOf, there, lives] at exited

/-- A child that was started for a call that has ended has ended itself. -/
theorem codeOf_isSome (tended : Tended events service) (attended : service.Attended)
    (accounted : service.Accounted) {one : Ended} (inEnded : one ∈ service.ended)
    {place : ChildNumber}
    (owned : (spawners events)[place]? = some one.call.number) :
    (service.codeOf place).isSome = true := by
  have known : place < service.children.length := by
    rw [← tended.owned.length]
    exact (List.getElem?_eq_some_iff.mp owned).1
  have there : service.children[place]? = some service.children[place] :=
    List.getElem?_eq_getElem known
  rw [codeOf, there, Option.bind_some]
  by_contra unset
  have lives : service.children[place].code = none := by simpa using unset
  obtain ⟨call, member, awaits, _⟩ := tended.exists_call attended there lives
  have alsoOwned := tended.owned.owner call member place awaits
  exact accounted.number_ne inEnded member (Option.some.inj (owned.symm.trans alsoOwned))

/-- No child of a signature lives while a call that works on it is concerned with none. -/
theorem code_isSome_of_idle (tended : Tended events service) (attended : service.Attended)
    (guarded : service.Guarded) (member : call ∈ service.calls) (works : call.Works)
    (idle : ∀ place, ¬ call.phase.Awaits place) {child : Child} (started : child ∈ service.children)
    (same : child.signature = call.signature) : child.code.isSome = true := by
  by_contra unset
  have lives : child.code = none := by simpa using unset
  obtain ⟨place, there⟩ := List.getElem?_of_mem started
  obtain ⟨other, inCalls, awaits, called⟩ := tended.exists_call attended there lives
  obtain rfl : other = call :=
    guarded.serves.works_unique inCalls member (called.trans same) awaits.works works
  exact idle place awaits

end Tended

/-- In a run in which no call is given up twice, the children are tended. -/
theorem tended_of_play {settings : Settings} {overrides : Overrides} {last : Service}
    {events : List Event} (played : (create settings overrides).play events = some last)
    (once : ∀ number, events.countP (·.givesUp number) ≤ 1) : Tended events last := by
  refine invariant_of_play played
    (fun events service => (∀ number, events.countP (·.givesUp number) ≤ 1) → Tended events service)
    (fun _ => .create settings overrides) (fun reachable tended change once => ?_) once
  have fewer (number : CallNumber) := Nat.le_trans (List.sublist_append_left _ _).countP_le
    (once number)
  exact (tended fewer).transition reachable.guarded once change

/-! ## The children of a run -/

/-- The log after a change shows one more kill at most, of a child without a return code. -/
theorem Transition.kills {service next : Service} {event : Event}
    (change : Transition service event next) :
    killsIn next.log = killsIn service.log ∨
      ∃ place, killsIn next.log = killsIn service.log ++ [place] ∧ service.codeOf place = none := by
  rcases change.quiet_or with quiet | ⟨call, contents, _, _, _, rfl⟩ |
    ⟨call, child, failure, _, _, lives, _, rfl⟩
  · obtain ⟨notes, log, silent⟩ := quiet.log
    left
    rw [log, killsIn_append, silent, List.append_nil]
  · left
    exact (killsIn_append _ _).trans (List.append_nil _)
  · exact .inr ⟨child, killsIn_append _ _, lives⟩

/-- A child is started for a call that works and is concerned with no child. -/
theorem Transition.of_spawner {service next : Service} {event : Event} {number : CallNumber}
    (change : Transition service event next) (asked : event.spawner? = some number) :
    ∃ call ∈ service.calls, call.number = number ∧ call.Works ∧
      (∀ place, ¬ call.phase.Awaits place) ∧
      next.children = service.children ++ [⟨call.signature, none, false, false⟩] := by
  rcases change.quiet_or with quiet | ⟨call, contents, member, starts, rfl, rfl⟩ |
    ⟨call, child, failure, _, _, _, cause, rfl⟩
  · simp [quiet.unasked] at asked
  · refine ⟨call, member, Option.some.inj asked, ?_, ?_, rfl⟩
    · simp [Call.Works, starts]
    · simp [Phase.Awaits, starts]
  · simp [cause.givesUp.2] at asked

/-- Let no call be given up more than once in a run. Then every child that was started for a call
that has ended has ended as well, by itself or after it was killed and waited for. No child is
killed twice, and none that has a return code. When a child is started, all earlier children of its
signature have ended. -/
theorem leaves_no_child {settings : Settings} {overrides : Overrides} {last : Service}
    {events : List Event} (played : (create settings overrides).play events = some last)
    (once : ∀ number, events.countP (·.givesUp number) ≤ 1) :
    (spawners events).length = last.children.length ∧
      (∀ one ∈ last.ended, ∀ place, (spawners events)[place]? = some one.call.number →
        (last.codeOf place).isSome = true ∧
          (.killed place ∉ last.log ∨ [.killed place, .waited place] <:+: last.log)) ∧
      (killsIn last.log).Nodup ∧
      ∀ front event back, events = front ++ event :: back →
        ∃ before after, (create settings overrides).play front = some before ∧
          before.step event = some after ∧
          (killsIn after.log = killsIn before.log ∨ ∃ place,
            killsIn after.log = killsIn before.log ++ [place] ∧ before.codeOf place = none) ∧
          ∀ number, event.spawner? = some number → ∃ call ∈ before.calls, call.number = number ∧
            after.children = before.children ++ [⟨call.signature, none, false, false⟩] ∧
            ∀ child ∈ before.children, child.signature = call.signature →
              child.code.isSome = true := by
  have tended := tended_of_play played once
  have reachable := Reachable.start.of_play played
  refine ⟨tended.owned.length, fun one inEnded place owned => ⟨?_, ?_⟩, tended.once, ?_⟩
  · exact tended.codeOf_isSome reachable.attended reachable.accounted inEnded owned
  · refine or_iff_not_imp_left.mpr fun killed => tended.waited place ?_
    exact List.mem_filterMap.mpr ⟨.killed place, not_not.mp killed, rfl⟩
  · rintro front event back rfl
    rw [play, Machine.play_append] at played
    obtain ⟨before, playedBefore, playedAfter⟩ := Option.bind_eq_some_iff.mp played
    obtain ⟨after, happens, _⟩ := Option.bind_eq_some_iff.mp playedAfter
    have change := transition_of_step happens
    refine ⟨before, after, playedBefore, happens, change.kills, fun number asked => ?_⟩
    obtain ⟨call, member, numbered, works, idle, started⟩ := change.of_spawner asked
    refine ⟨call, member, numbered, started, fun child inChildren same => ?_⟩
    have fewer (number : CallNumber) : front.countP (·.givesUp number) ≤ 1 :=
      Nat.le_trans (List.sublist_append_left _ _).countP_le (once number)
    have reached := Reachable.start.of_play playedBefore
    exact (tended_of_play playedBefore fewer).code_isSome_of_idle reached.attended reached.guarded
      member works idle inChildren same

/-- One call is given up when its time is over, its child is killed and waited for, and another
child is started for a second call of the same position. -/
def killRun : List Event :=
  [.enter default default, .enter default default, .acquire 0, .read 0 (.ok ""),
    .spawn 0 (.ok ()), .expire 0, .exit 0 (-9), .reaped 0, .acquire 1, .read 1 (.ok ""),
    .spawn 1 (.ok ())]

/-- The first of two children was killed and waited for before the second was started. -/
theorem leaves_no_child_killed :
    ∃ last, (create .standard {}).play killRun = some last ∧ last.children.length = 2 ∧
      (last.codeOf 0).isSome = true ∧ last.codeOf 1 = none ∧
      [.killed 0, .waited 0] <:+: last.log := by
  have shown : ((create .standard {}).play killRun).map (fun last =>
      (last.ended.map (·.call.number), last.codeOf 1, killsIn last.log)) =
      some ([0], none, [0]) := by
    decide +kernel
  obtain ⟨last, played, shown⟩ := Option.map_eq_some_iff.mp shown
  simp only [Prod.mk.injEq] at shown
  obtain ⟨ended, lives, kills⟩ := shown
  have once (number : CallNumber) : killRun.countP (·.givesUp number) ≤ 1 := by
    simp only [killRun, List.countP_cons, List.countP_nil, Event.givesUp, decide_eq_true_eq,
      Bool.false_eq_true, if_false, Nat.zero_add, Nat.add_zero]
    split <;> decide
  obtain ⟨children, settled, _⟩ := leaves_no_child played once
  have killed : Note.killed 0 ∈ last.log := by
    have inKills : 0 ∈ killsIn last.log := by simp [kills]
    obtain ⟨note, noted, isKill⟩ := List.mem_filterMap.mp inKills
    cases note <;> simp_all
  obtain ⟨one, inEnded, number⟩ : ∃ one ∈ last.ended, one.call.number = 0 :=
    List.mem_map.mp (by simp [ended])
  obtain ⟨exited, waited⟩ := settled one inEnded 0 (by rw [number]; rfl)
  exact ⟨last, played, children.symm, exited, lives, waited.resolve_left (not_not.mpr killed)⟩

end CompletionServer.Service
