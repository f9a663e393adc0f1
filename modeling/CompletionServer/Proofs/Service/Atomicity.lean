import CompletionServer.Proofs.Service.Absence
import CompletionServer.Proofs.Service.Closure
import CompletionServer.Proofs.Service.Retention

/-!
# Calls that fail and calls that store

A call that fails leaves nothing behind: the run without it leads to the same cache and the same
tables of locks, and it was counted as one look at most. This is not so of a call that is refused
because no item is left of its candidates. If it found nothing in the cache, it stores the
candidates that its child printed, as a call does that gives items.
-/

namespace CompletionServer.Service

/-! ## What a call that has ended has left -/

/-- A call that has ended holds no lock. -/
theorem Reachable.not_held {settings : Settings} {overrides : Overrides} {service : Service}
    (reachable : Reachable (create settings overrides) service) {one : Ended}
    (ended : one ∈ service.ended) (lock : LockNumber) :
    service.guards.holders.get? lock ≠ some one.call.number := by
  intro held
  obtain ⟨call, member, number, _⟩ := (reachable.guarded.serves.holder_iff _ _).mp held
  exact reachable.accounted.number_ne ended member number.symm

/-- The looks of one call are its hits and its misses. -/
theorem count_looks (looks : List (CallNumber × Bool)) (number : CallNumber) :
    looks.count (number, true) + looks.count (number, false) =
      (looks.map (·.1)).count number := by
  induction looks with
  | nil => rfl
  | cons look rest ih =>
    obtain ⟨other, hit⟩ := look
    rw [List.map_cons, List.count_cons, List.count_cons, List.count_cons, ← ih]
    by_cases same : other = number
    · cases hit <;> simp [same] <;> omega
    · simp [same]

/-- A call that has failed is the only one with its number that has ended. -/
theorem Accounted.futile {service : Service} (accounted : service.Accounted) {one : Ended}
    (ended : one ∈ service.ended) {failure : Failure} (fails : one.result = .error failure)
    (differs : failure ≠ .refused .emptyResult) : Futile one.call.number service := by
  intro other alsoEnded same
  have distinct := (List.nodup_append.mp accounted.nodup_numbersOf).1
  obtain rfl := List.inj_on_of_nodup_map distinct alsoEnded ended same
  exact ⟨failure, fails, differs⟩

namespace Alike

variable {gap : CallNumber} {own : ChildNumber} {service rest : Service}

/-- After the call that is left out has gone, the tables of locks are those of the others. -/
theorem tables_eq (alike : Alike gap own service rest) (guarded : service.Guarded)
    (restGuarded : rest.Guarded) (gone : ∀ call ∈ service.calls, call.number ≠ gap)
    (signature : String) :
    service.guards.users.get? signature = rest.guards.users.get? signature ∧
      service.guards.locks.has signature = rest.guards.locks.has signature := by
  have users := alike.calls.usersOf_eq gone signature
  constructor
  · rw [guarded.serves.users_eq, restGuarded.serves.users_eq, users]
  · have locked := guarded.serves.has_lock_iff signature
    have restLocked := restGuarded.serves.has_lock_iff signature
    rw [Bool.eq_iff_iff, locked, restLocked, users]

/-- The call that is left out was counted as one look at most. -/
theorem looks_le (alike : Alike gap own service rest) (accounted : service.Accounted) :
    rest.hits ≤ service.hits ∧ rest.misses ≤ service.misses ∧
      service.hits + service.misses ≤ rest.hits + rest.misses + 1 := by
  have once := List.nodup_iff_count_le_one.mp accounted.once gap
  rw [← count_looks] at once
  have hits := alike.hits
  have misses := alike.misses
  omega

end Alike

/-! ## Where candidates come from -/

/-- Candidates are what the child of a call has printed. -/
def Printed (events : List Event) (number : CallNumber) (candidates : List Candidate) : Prop :=
  ∃ code stdout stderr, .output number stdout stderr ∈ events ∧
    (Introspection.Exit.mk code stdout stderr).candidates = .ok candidates

/-- The calls in flight have their candidates from their children, unless the cache had them, and
those whose child was killed fail for another reason than a lack of items. -/
structure Sourced (events : List Event) (service : Service) : Prop where
  printed : ∀ call ∈ service.calls, call.hit? = some false →
    ∀ candidates, call.phase = .filtering candidates → Printed events call.number candidates
  reaping : ∀ call ∈ service.calls, ∀ place failure, call.phase = .reaping place failure →
    failure ≠ .refused .emptyResult

/-- A call is not given up for a lack of items. -/
theorem GivesUp.ne_emptyResult {service : Service} {call : Call} {event : Event} {failure : Failure}
    (cause : service.GivesUp call event failure) : failure ≠ .refused .emptyResult := by
  cases cause <;> simp [timeoutFailure]

namespace Sourced

variable {events : List Event} {service next : Service} {call : Call} {event : Event}

/-- A call in flight is one of before, or comes into a phase with a source. -/
theorem of_calls (sourced : Sourced events service)
    (calls : ∀ call ∈ next.calls, call ∈ service.calls ∨
      (∀ candidates, call.hit? = some false → call.phase = .filtering candidates →
        Printed (events ++ [event]) call.number candidates) ∧
      ∀ place failure, call.phase = .reaping place failure → failure ≠ .refused .emptyResult) :
    Sourced (events ++ [event]) next where
  printed := by
    intro call inCalls missed candidates filters
    rcases calls call inCalls with old | ⟨printed, _⟩
    · obtain ⟨code, stdout, stderr, listed, parsed⟩ :=
        sourced.printed call old missed candidates filters
      exact ⟨code, stdout, stderr, List.mem_append_left _ listed, parsed⟩
    · exact printed candidates missed filters
  reaping := by
    intro call inCalls place failure waits
    rcases calls call inCalls with old | ⟨_, reaping⟩
    · exact sourced.reaping call old place failure waits
    · exact reaping place failure waits

/-- One call comes into a phase with a source. -/
theorem of_replaced (sourced : Sourced events service) (member : call ∈ service.calls) (new : Call)
    (same : new.number = call.number) (calls : next.calls = replaced service.calls new)
    (printed : ∀ candidates, new.hit? = some false → new.phase = .filtering candidates →
      Printed (events ++ [event]) new.number candidates)
    (reaping : ∀ place failure, new.phase = .reaping place failure →
      failure ≠ .refused .emptyResult) :
    Sourced (events ++ [event]) next := by
  refine sourced.of_calls fun other inCalls => ?_
  rw [calls] at inCalls
  rcases (mem_replaced member same).mp inCalls with rfl | ⟨old, _⟩
  · exact .inr ⟨printed, reaping⟩
  · exact .inl old

/-- Every transition keeps the sources of candidates. -/
theorem transition (sourced : Sourced events service) (change : Transition service event next) :
    Sourced (events ++ [event]) next := by
  cases change with
  | enter state request =>
    refine sourced.of_calls fun call inCalls => ?_
    rcases List.mem_append.mp inCalls with old | new
    · exact .inl old
    · rw [List.mem_singleton.mp new]
      exact .inr ⟨by simp, by simp⟩
  | @acquire call found =>
    have member := (mem_of_call?_eq_some found).1
    rw [acquire_eq_counted]
    refine sourced.of_replaced member (call.looked (service.cache.get? call.signature)) rfl rfl
      ?_ ?_
    all_goals cases service.cache.get? call.signature <;> simp [Call.looked]
  | @read call contents found =>
    have member := (mem_of_call?_eq_some found).1
    exact sourced.of_replaced member { call with phase := .starting contents } rfl rfl
      (by simp) (by simp)
  | @spawn call _ found =>
    have member := (mem_of_call?_eq_some found).1
    exact sourced.of_replaced member { call with phase := .running service.children.length } rfl rfl
      (by simp) (by simp)
  | exit => exact sourced.of_calls fun call inCalls => .inl inCalls
  | @output call _ code stdout stderr candidates found _ _ parsed =>
    have member := (mem_of_call?_eq_some found).1
    refine sourced.of_replaced member { call with phase := .filtering candidates } rfl rfl ?_
      (by simp)
    intro others _ filters
    obtain rfl := Phase.filtering.inj filters
    exact ⟨code, stdout, stderr, List.mem_append_right _ List.mem_cons_self, parsed⟩
  | @kill call child _ failure found _ _ cause =>
    have member := (mem_of_call?_eq_some found).1
    refine sourced.of_replaced member { call with phase := .reaping child failure } rfl rfl
      (by simp) ?_
    intro place given waits
    obtain ⟨_, rfl⟩ := Phase.reaping.inj waits
    exact cause.ne_emptyResult
  | fail _ _ _ _ _ _ happens =>
    obtain ⟨guards, _, rfl⟩ := finish?_eq_some_iff.mp happens
    exact sourced.of_calls fun call inCalls => .inl (List.mem_of_mem_filter inCalls)
  | filter _ _ happens =>
    obtain ⟨cache, guards, notes, result, _, rfl⟩ := exists_of_filter?_eq_some happens
    exact sourced.of_calls fun call inCalls => .inl (List.mem_of_mem_filter inCalls)
  | close =>
    refine sourced.of_calls fun call inCalls => .inl ?_
    unfold Service.close at inCalls
    split at inCalls <;> exact inCalls

end Sourced

/-- After every run candidates have their sources. -/
theorem sourced_of_play {settings : Settings} {overrides : Overrides} {last : Service}
    {events : List Event} (played : (create settings overrides).play events = some last) :
    Sourced events last :=
  invariant_of_play played Sourced ⟨by simp [create], by simp [create]⟩
    fun _ sourced change => sourced.transition change

/-! ## How calls end -/

/-- A failing of a buffer to be read is one of a file. -/
def ReadsFiles (events : List Event) : Prop :=
  ∀ number failure, .read number (.error failure) ∈ events →
    ∃ system filePath, readBuffer system filePath = .error failure

/-- A call that fails before it filters does so for another reason than a lack of items. -/
theorem Fails.ne_emptyResult {service : Service} {call : Call} {events front : List Event}
    {event : Event} {notes : List Note} {failure : Failure}
    (cause : service.Fails call event notes failure) (files : ReadsFiles events)
    (happens : event ∈ events) (sourced : Sourced front service)
    (member : call ∈ service.calls) : failure ≠ .refused .emptyResult := by
  cases cause with
  | @unread failure =>
    rintro rfl
    obtain ⟨system, filePath, read⟩ := files _ _ happens
    simpa using (closes_readBuffer system filePath).refused _ read
  | @unstarted _ fault => cases fault <;> simp [Introspection.startFailure]
  | unusable _ _ printed =>
    rintro rfl
    simpa using (closes_candidates _).refused _ printed
  | late => simp [timeoutFailure]
  | settled _ _ cause => exact cause.ne_emptyResult
  | cancelled | abandoned => simp
  | reaped waits => exact sourced.reaping call member _ _ waits

/-- A call that filters ends with a fault, or puts its candidates into the cache if they are new. -/
theorem of_filter?_eq_some {service next : Service} {call : Call} {candidates : List Candidate}
    (ends : service.filter? call candidates = some next) :
    (∃ fault, next.ended = service.ended ++ [⟨call, .error (.fault fault)⟩]) ∨
      ∃ result, next.ended = service.ended ++ [⟨call, result⟩] ∧
        (call.hit? = some false → next.cache = service.cache.put call.signature candidates) := by
  rcases filter?_eq_some_iff.mp ends with ⟨fault, _, ends⟩ | ⟨items, _, ends⟩
  · obtain ⟨guards, _, rfl⟩ := finish?_eq_some_iff.mp ends
    exact .inl ⟨fault, rfl⟩
  · unfold store at ends
    split at ends
    · next hit =>
      obtain ⟨guards, _, rfl⟩ := finish?_eq_some_iff.mp ends
      exact .inr ⟨_, rfl, fun missed => by simp [missed] at hit⟩
    · obtain ⟨guards, _, rfl⟩ := finish?_eq_some_iff.mp ends
      exact .inr ⟨_, rfl, fun _ => rfl⟩

/-- A result with items, or without any that would be left. -/
def IsFiltered (result : Except Failure (List Item)) : Prop :=
  (∃ items, result = .ok items) ∨ result = .error (.refused .emptyResult)

/-- A call that found nothing and ends with items, or for lack of items, puts its candidates into
the cache. -/
theorem Transition.stores {service next : Service} {events front : List Event} {event : Event}
    {one : Ended} (change : Transition service event next) (files : ReadsFiles events)
    (happens : event ∈ events) (sourced : Sourced front service) (before : one ∉ service.ended)
    (ended : one ∈ next.ended) (missed : one.call.hit? = some false)
    (filtered : IsFiltered one.result) :
    ∃ candidates, event = .filter one.call.number ∧ one.call ∈ service.calls ∧
      one.call.phase = .filtering candidates ∧ next.ended = service.ended ++ [one] ∧
      next.cache = service.cache.put one.call.signature candidates := by
  have last {result : Except Failure (List Item)} {call : Call}
      (among : one ∈ service.ended ++ [⟨call, result⟩]) : one = ⟨call, result⟩ :=
    List.mem_singleton.mp ((List.mem_append.mp among).resolve_left before)
  cases change with
  | @acquire call =>
    rw [acquire_eq_counted] at ended
    exact absurd ended before
  | enter | read | spawn | exit | output | kill => exact absurd ended before
  | fail notes failure found _ _ _ ends cause =>
    obtain ⟨guards, _, rfl⟩ := finish?_eq_some_iff.mp ends
    obtain rfl := last ended
    have member := (mem_of_call?_eq_some found).1
    rcases filtered with ⟨items, given⟩ | refused
    · cases given
    · exact absurd (Except.error.inj refused) (cause.ne_emptyResult files happens sourced member)
  | @filter call candidates _ found filters ends =>
    have member := (mem_of_call?_eq_some found).1
    rcases of_filter?_eq_some ends with ⟨fault, grown⟩ | ⟨result, grown, stored⟩
    · rw [grown] at ended
      obtain rfl := last ended
      rcases filtered with ⟨items, given⟩ | refused
      · cases given
      · cases refused
    · rw [grown] at ended
      obtain rfl := last ended
      exact ⟨candidates, rfl, member, filters, grown, stored missed⟩
  | close =>
    unfold Service.close at ended
    split at ended <;> exact absurd ended before

/-- Every call that has ended did so by one of the events of a run. -/
theorem exists_end_of_play {settings : Settings} {overrides : Overrides} {last : Service}
    {events : List Event} (played : (create settings overrides).play events = some last)
    {one : Ended} (ended : one ∈ last.ended) :
    ∃ front event back before after, events = front ++ event :: back ∧
      (create settings overrides).play front = some before ∧ before.step event = some after ∧
      one ∉ before.ended ∧ one ∈ after.ended := by
  refine Machine.invariant_of_play played
    (fun events last => one ∈ last.ended → ∃ front event back before after,
      events = front ++ event :: back ∧ (create settings overrides).play front = some before ∧
        before.step event = some after ∧ one ∉ before.ended ∧ one ∈ after.ended)
    (fun none => by cases none) ?_ ended
  intro events before last event playedBefore ih happens ended
  by_cases earlier : one ∈ before.ended
  · obtain ⟨front, cause, back, first, second, rfl, rest⟩ := ih earlier
    exact ⟨front, cause, back ++ [event], first, second, by simp, rest⟩
  · exact ⟨events, event, [], before, last, rfl, playedBefore, happens, earlier, ended⟩

/-! ## Failures and refusals -/

/-- A call that fails for another reason than a lack of items leaves nothing behind. At any time the
run without its events leads to the same cache and to the same results of the other calls, and the
call was counted as one look at most; from its end on it holds no lock, and the tables of locks are
those of the run without it.

If a call ends for lack of items after it found nothing in the cache, just as if it ends with items,
its last step puts the candidates that its child printed into the cache, where its signature then
finds them, unless a cache was given that no operations make. -/
theorem failures_leave_nothing {settings : Settings} {overrides : Overrides} {last : Service}
    {events : List Event} (played : (create settings overrides).play events = some last) :
    (∀ one ∈ last.ended, ∀ failure, one.result = .error failure →
      failure ≠ .refused .emptyResult → ∀ front back, events = front ++ back →
        ∃ service rest, (create settings overrides).play front = some service ∧
          (create settings overrides).play
            (without one.call.number (childOf one.call.number events) 0 front) = some rest ∧
          rest.cache = service.cache ∧
          rest.ended.map (·.result) =
            (service.ended.filter (·.call.number ≠ one.call.number)).map (·.result) ∧
          (rest.hits ≤ service.hits ∧ rest.misses ≤ service.misses ∧
            service.hits + service.misses ≤ rest.hits + rest.misses + 1) ∧
          (one ∈ service.ended →
            (∀ lock, service.guards.holders.get? lock ≠ some one.call.number) ∧
            ∀ signature,
              service.guards.users.get? signature = rest.guards.users.get? signature ∧
                service.guards.locks.has signature = rest.guards.locks.has signature)) ∧
      (ReadsFiles events → ∀ one ∈ last.ended, one.call.hit? = some false →
        IsFiltered one.result → ∃ front back before after candidates,
          events = front ++ .filter one.call.number :: back ∧
          (create settings overrides).play front = some before ∧
          before.step (.filter one.call.number) = some after ∧ one.call ∈ before.calls ∧
          after.ended = before.ended ++ [one] ∧
          Printed front one.call.number candidates ∧
          after.cache = before.cache.put one.call.signature candidates ∧
          ((∀ cache, overrides.cache = some cache →
              ∃ capacity operations, cache = (Cache.create capacity).after operations) →
            after.cache.get? one.call.signature = some candidates)) := by
  constructor
  · intro one ended failure fails differs front back parts
    have futile := (Reachable.start.of_play played).accounted.futile ended fails differs
    obtain ⟨service, rest, playedFront, playedRest, alike⟩ :=
      exists_without played futile front back parts
    have reachable := Reachable.start.of_play playedFront
    have restGuarded := (Reachable.start.of_play playedRest).guarded
    refine ⟨service, rest, playedFront, playedRest, alike.cache, alike.results,
      alike.looks_le reachable.accounted, fun gone => ⟨reachable.not_held gone, ?_⟩⟩
    exact alike.tables_eq reachable.guarded restGuarded fun call member =>
      (reachable.accounted.number_ne gone member).symm
  · intro files one ended missed filtered
    obtain ⟨front, event, back, before, after, rfl, playedFront, happens, earlier, later⟩ :=
      exists_end_of_play played ended
    have sourced := sourced_of_play playedFront
    have among : event ∈ front ++ event :: back := List.mem_append_right _ List.mem_cons_self
    obtain ⟨candidates, rfl, member, filters, grown, stored⟩ :=
      (transition_of_step happens).stores files among sourced earlier later missed filtered
    refine ⟨front, back, before, after, candidates, rfl, playedFront, happens, member, grown,
      sourced.printed one.call member missed candidates filters, stored, fun made => ?_⟩
    have retains := (Reachable.start.of_play playedFront).retains
      (ordered_startCache settings made)
    rw [stored]
    exact retains.ordered.get?_put_self one.call.signature candidates

/-- Two calls wait for one position. The first is given up after its child was started, the second
finds nothing and is refused because it has no items. -/
def spoiledRun : List Event :=
  [.enter default default, .enter default default, .acquire 0, .read 0 (.ok ""),
    .spawn 0 (.ok ()), .expire 0, .exit 0 (-9), .reaped 0, .acquire 1, .read 1 (.ok ""),
    .spawn 1 (.ok ()), .exit 1 0, .output 1 [] [], .filter 1]

/-- What the second of two calls does alone. -/
theorem without_spoiledRun : without 0 (childOf 0 spoiledRun) 0 spoiledRun =
    [.enter default default, .acquire 0, .read 0 (.ok ""), .spawn 0 (.ok ()), .exit 0 0,
      .output 0 [] [], .filter 0] := by
  rfl

/-- The first of two calls leaves nothing behind, and the second stores what its child printed by
the last event of the run. -/
theorem failures_leave_nothing_spoiled :
    ∃ last rest before : Service, (create .standard {}).play spoiledRun = some last ∧
      (create .standard {}).play
        [.enter default default, .acquire 0, .read 0 (.ok ""), .spawn 0 (.ok ()), .exit 0 0,
          .output 0 [] [], .filter 0] = some rest ∧
      rest.cache = last.cache ∧ last.hits + last.misses = 2 ∧
      (create .standard {}).play (spoiledRun.take 13) = some before ∧
      ∃ candidates, Printed (spoiledRun.take 13) 1 candidates ∧
        last.cache = before.cache.put (Signature.make 0 "" "") candidates ∧
        last.cache.get? (Signature.make 0 "" "") = some candidates := by
  have shown : ((create .standard {}).play spoiledRun).map (fun last => last.ended.map fun one =>
      (one.call.number, one.call.signature, one.call.hit?, Outcome.ofResult one.result)) =
      some [(0, Signature.make 0 "" "", some false, .error),
        (1, Signature.make 0 "" "", some false, .empty)] := by
    decide +kernel
  obtain ⟨last, played, shown⟩ := Option.map_eq_some_iff.mp shown
  have looks : last.hits + last.misses = 2 := by
    have counted : ((create .standard {}).play spoiledRun).map
        (fun last => last.hits + last.misses) = some 2 := by
      decide +kernel
    rw [played] at counted
    exact Option.some.inj counted
  obtain ⟨nothing, stores⟩ := failures_leave_nothing played
  have ends (number : CallNumber) (outcome : Outcome)
      (listed : (number, Signature.make 0 "" "", some false, outcome) ∈
        last.ended.map fun one =>
          (one.call.number, one.call.signature, one.call.hit?, Outcome.ofResult one.result)) :
      ∃ one ∈ last.ended, one.call.number = number ∧ one.call.signature = Signature.make 0 "" "" ∧
        one.call.hit? = some false ∧ Outcome.ofResult one.result = outcome := by
    simpa using listed
  obtain ⟨first, firstEnded, firstNumber, _, _, fails⟩ := ends 0 .error (by simp [shown])
  obtain ⟨second, secondEnded, secondNumber, signature, missed, empty⟩ :=
    ends 1 .empty (by simp [shown])
  obtain ⟨failure, failed, differs⟩ : ∃ failure, first.result = .error failure ∧
      failure ≠ .refused .emptyResult := by
    cases result : first.result with
    | ok items => simp [result, Outcome.ofResult] at fails
    | error failure =>
      refine ⟨failure, rfl, ?_⟩
      rintro rfl
      simp [result, Outcome.ofResult] at fails
  obtain ⟨service, rest, playedAll, playedRest, cache, _⟩ :=
    nothing first firstEnded failure failed differs spoiledRun [] (List.append_nil _).symm
  obtain rfl := Option.some.inj (playedAll.symm.trans played)
  rw [firstNumber, without_spoiledRun] at playedRest
  have files : ReadsFiles spoiledRun := by
    intro number failure listed
    simp [spoiledRun] at listed
  obtain ⟨front, back, before, after, candidates, parts, begun, happens, _, _, printed, stored,
    found⟩ := stores files second secondEnded missed (.inr (Outcome.ofResult_eq_empty_iff.mp empty))
  rw [secondNumber] at parts happens printed
  rw [signature] at stored found
  obtain ⟨rfl, _⟩ : front = spoiledRun.take 13 ∧ back = [] := by
    simpa [spoiledRun, List.cons_eq_append_iff] using parts
  have whole : (create .standard {}).play spoiledRun = some after :=
    Machine.play_concat_eq_some_iff.mpr ⟨before, begun, happens⟩
  obtain rfl := Option.some.inj (whole.symm.trans played)
  exact ⟨after, rest, before, whole, playedRest, cache, looks, begun, candidates, printed, stored,
    found (by simp)⟩

end CompletionServer.Service
