import CompletionServer.Proofs.Service.Exclusion
import CompletionServer.Telemetry

/-!
# The counters of a service

A service counts three times: it keeps its own hits and misses, it records every look into the
cache, and it records every call that ends, with its outcome and with what it found in the cache.
The counts are made at different moments of a call, and a call can end between any two of them.
`Accounted` says how they agree at all times.
-/

namespace CompletionServer.Service

/-! ## What is recorded -/

/-- The looks into the cache, in order: who looked, and whether something was found. -/
def lookedIn (log : List Note) : List (CallNumber × Bool) :=
  log.filterMap fun
    | .looked call hit => some (call, hit)
    | _ => none

/-- The calls that ended, in order: with their outcome and whether the cache counts as hit. -/
def completedIn (log : List Note) : List (CallNumber × Outcome × Bool) :=
  log.filterMap fun
    | .completed call outcome hit => some (call, outcome, hit)
    | _ => none

/-- What is recorded of a call that has ended. -/
def Ended.entry (one : Ended) : CallNumber × Outcome × Bool :=
  (one.call.number, .ofResult one.result, one.call.hit? == some true)

/-- The numbers of the calls that came: first those that have ended. -/
def numbersOf (service : Service) : List CallNumber :=
  service.ended.map (·.call.number) ++ service.calls.map (·.number)

/-- Notes that are added add their looks into the cache. -/
theorem lookedIn_append (log notes : List Note) :
    lookedIn (log ++ notes) = lookedIn log ++ lookedIn notes :=
  List.filterMap_append

/-- Notes that are added add the calls that ended. -/
theorem completedIn_append (log notes : List Note) :
    completedIn (log ++ notes) = completedIn log ++ completedIn notes :=
  List.filterMap_append

/-- Notes about children and stores count nothing. -/
def Silent (notes : List Note) : Prop := lookedIn notes = [] ∧ completedIn notes = []

/-- The notes of a call that advances count nothing. -/
theorem Advances.silent {service next : Service} {call : Call} {phase : Phase} {notes : List Note}
    (advances : service.Advances next call phase notes) : Silent notes := by
  constructor
  · refine List.filterMap_eq_nil_iff.mpr fun note noted => ?_
    rcases advances.about note noted with ⟨contents, rfl⟩ | ⟨child, rfl | rfl⟩ <;> rfl
  · refine List.filterMap_eq_nil_iff.mpr fun note noted => ?_
    rcases advances.about note noted with ⟨contents, rfl⟩ | ⟨child, rfl | rfl⟩ <;> rfl

/-- The notes of a call that fails count nothing before it ends. -/
theorem Fails.silent {service : Service} {call : Call} {event : Event} {notes : List Note}
    {failure : Failure} (cause : service.Fails call event notes failure) : Silent notes := by
  cases cause <;> exact ⟨rfl, rfl⟩

/-! ## How the counts agree -/

/-- The counts of a service agree. -/
structure Accounted (service : Service) : Prop where
  hits : (lookedIn service.log).countP (·.2) = service.hits
  misses : (lookedIn service.log).countP (!·.2) = service.misses
  /-- No call looks twice. -/
  once : ((lookedIn service.log).map (·.1)).Nodup
  /-- A call looks after it has come. -/
  looked_lt : ∀ entry ∈ lookedIn service.log, entry.1 < service.next
  /-- A call that waits has not looked. -/
  unmarked : ∀ call ∈ service.calls, call.phase = .waiting → call.hit? = none
  /-- A call in flight is marked with what it found. -/
  marked : ∀ call ∈ service.calls, ∀ hit,
    call.hit? = some hit ↔ (call.number, hit) ∈ lookedIn service.log
  /-- A call that has ended is marked with what it found. -/
  marked_ended : ∀ one ∈ service.ended, ∀ hit,
    one.call.hit? = some hit ↔ (one.call.number, hit) ∈ lookedIn service.log
  /-- Each call that has ended is recorded once. -/
  recorded : completedIn service.log = service.ended.map Ended.entry
  /-- Each call that came is in flight or has ended. -/
  numbers : service.numbersOf.Perm (List.range service.next)

namespace Accounted

variable {service next : Service} {call : Call}

/-- The counts of an idle service agree. -/
theorem create (settings : Settings) (overrides : Overrides) :
    (create settings overrides).Accounted where
  hits := rfl
  misses := rfl
  once := .nil
  looked_lt := by simp [lookedIn, Service.create]
  unmarked := by simp [Service.create]
  marked := by simp [Service.create]
  marked_ended := by simp [Service.create]
  recorded := rfl
  numbers := .nil

/-- All calls that came have different numbers. -/
theorem nodup_numbersOf (accounted : service.Accounted) : service.numbersOf.Nodup :=
  accounted.numbers.nodup_iff.mpr List.nodup_range

/-- A call that has ended has not the number of a call in flight. -/
theorem number_ne (accounted : service.Accounted) {one : Ended} (ended : one ∈ service.ended)
    (member : call ∈ service.calls) : one.call.number ≠ call.number := by
  have apart := (List.nodup_append.mp accounted.nodup_numbersOf).2.2
  exact apart _ (List.mem_map_of_mem ended) _ (List.mem_map_of_mem member)

/-- The counts agree after a change that counts nothing, if it leaves the numbers and marks of calls
as they are. -/
theorem of_silent (accounted : service.Accounted) {notes : List Note} (silent : Silent notes)
    (log : next.log = service.log ++ notes) (hits : next.hits = service.hits)
    (misses : next.misses = service.misses) (number : next.next = service.next)
    (ended : next.ended = service.ended)
    (numbers : next.calls.map (·.number) = service.calls.map (·.number))
    (calls : ∀ call ∈ next.calls, ∃ old ∈ service.calls, old.number = call.number ∧
      old.hit? = call.hit? ∧ (call.phase = .waiting → old.phase = .waiting)) :
    next.Accounted := by
  have looked : lookedIn next.log = lookedIn service.log := by
    rw [log, lookedIn_append, silent.1, List.append_nil]
  have completed : completedIn next.log = completedIn service.log := by
    rw [log, completedIn_append, silent.2, List.append_nil]
  exact
    { hits := by rw [looked, hits, accounted.hits]
      misses := by rw [looked, misses, accounted.misses]
      once := looked ▸ accounted.once
      looked_lt := by
        rw [looked, number]
        exact accounted.looked_lt
      unmarked := by
        intro call member waits
        obtain ⟨old, inCalls, _, mark, waited⟩ := calls call member
        exact mark.symm.trans (accounted.unmarked old inCalls (waited waits))
      marked := by
        intro call member hit
        obtain ⟨old, inCalls, same, mark, _⟩ := calls call member
        rw [looked, ← same, ← mark]
        exact accounted.marked old inCalls hit
      marked_ended := by
        rw [looked, ended]
        exact accounted.marked_ended
      recorded := by rw [completed, ended, accounted.recorded]
      numbers := by
        rw [numbersOf, ended, numbers, number]
        exact accounted.numbers }

/-- The counts agree after a change that does not touch them, nor the calls. -/
theorem of_untouched (accounted : service.Accounted) (log : next.log = service.log)
    (hits : next.hits = service.hits) (misses : next.misses = service.misses)
    (number : next.next = service.next) (ended : next.ended = service.ended)
    (calls : next.calls = service.calls) : next.Accounted := by
  refine accounted.of_silent ⟨rfl, rfl⟩ (log.trans (List.append_nil _).symm) hits misses number
    ended (by rw [calls]) fun call member => ?_
  rw [calls] at member
  exact ⟨call, member, rfl, rfl, id⟩

/-- A call that has come waits and has not looked. -/
theorem enter (accounted : service.Accounted) (state : Project.State) (request : Request) :
    (service.enter state request).Accounted where
  hits := accounted.hits
  misses := accounted.misses
  once := accounted.once
  looked_lt entry inLooked := Nat.lt_succ_of_lt (accounted.looked_lt entry inLooked)
  unmarked := by
    intro call member waits
    rcases List.mem_append.mp member with old | new
    · exact accounted.unmarked call old waits
    · rw [List.mem_singleton.mp new]
  marked := by
    intro call member hit
    rcases List.mem_append.mp member with old | new
    · exact accounted.marked call old hit
    · rw [List.mem_singleton.mp new]
      refine iff_of_false (by simp) fun inLooked => ?_
      exact Nat.lt_irrefl _ (accounted.looked_lt _ inLooked)
  marked_ended := accounted.marked_ended
  recorded := accounted.recorded
  numbers := by
    have more : (service.enter state request).numbersOf = service.numbersOf ++ [service.next] := by
      rw [numbersOf, enter_eq, numbersOf, List.map_append, List.append_assoc]
      rfl
    rw [more, show (service.enter state request).next = service.next + 1 from rfl,
      List.range_succ]
    exact accounted.numbers.append_right _

/-- A call that replaces another keeps the numbers of the calls in flight. -/
theorem map_number_replaced (guarded : service.Guarded) (member : call ∈ service.calls) (new : Call)
    (same : new.place = call.place) :
    (replaced service.calls new).map (·.number) = service.calls.map (·.number) := by
  have places := map_place_replaced guarded.serves.numbers member same
  have numbers := congrArg (List.map Prod.fst) places
  rwa [List.map_map, List.map_map] at numbers

/-- A call at work comes into another phase. -/
theorem advance {phase : Phase} {notes : List Note} (accounted : service.Accounted)
    (guarded : service.Guarded) (advances : service.Advances next call phase notes)
    (works : phase ≠ .waiting) : next.Accounted := by
  rw [advances.frame]
  refine accounted.of_silent advances.silent rfl rfl rfl rfl rfl
    (map_number_replaced guarded advances.member { call with phase } rfl) ?_
  intro other inCalls
  have same : ({ call with phase } : Call).number = call.number := rfl
  rcases (mem_replaced advances.member same).mp inCalls with rfl | ⟨old, _⟩
  · exact ⟨call, advances.member, rfl, rfl, fun waits => absurd waits works⟩
  · exact ⟨other, old, rfl, rfl, id⟩

/-- A call in flight that has not looked looks, is counted and marked. -/
theorem of_looked (accounted : service.Accounted) (guarded : service.Guarded)
    (member : call ∈ service.calls) (unmarked : call.hit? = none) (new : Call) {hit : Bool}
    (same : new.place = call.place) (works : new.phase ≠ .waiting) (mark : new.hit? = some hit)
    (log : next.log = service.log ++ [.looked call.number hit])
    (hits : next.hits = service.hits + hit.toNat)
    (misses : next.misses = service.misses + (!hit).toNat) (number : next.next = service.next)
    (ended : next.ended = service.ended) (calls : next.calls = replaced service.calls new) :
    next.Accounted := by
  have looked : lookedIn next.log = lookedIn service.log ++ [(call.number, hit)] := by
    rw [log, lookedIn_append]
    rfl
  have completed : completedIn next.log = completedIn service.log := by
    rw [log, completedIn_append]
    exact List.append_nil _
  have unlooked (found : Bool) : (call.number, found) ∉ lookedIn service.log := by
    rw [← accounted.marked call member found, unmarked]
    simp
  -- The new entry says nothing of other numbers.
  have others {other : CallNumber} (differs : other ≠ call.number) (found : Bool) :
      (other, found) ∈ lookedIn next.log ↔ (other, found) ∈ lookedIn service.log := by
    simp [looked, differs]
  have numbered : new.number = call.number := congrArg Prod.fst same
  exact
    { hits := by
        rw [looked, hits, List.countP_append, accounted.hits]
        cases hit <;> rfl
      misses := by
        rw [looked, misses, List.countP_append, accounted.misses]
        cases hit <;> rfl
      once := by
        rw [looked, List.map_append, List.nodup_append]
        refine ⟨accounted.once, by simp, ?_⟩
        rintro other inLooked _ new rfl
        obtain ⟨⟨_, found⟩, entry, rfl⟩ := List.mem_map.mp inLooked
        obtain rfl := List.mem_singleton.mp new
        exact unlooked found entry
      looked_lt := by
        intro entry inLooked
        rw [looked] at inLooked
        rw [number]
        rcases List.mem_append.mp inLooked with old | new
        · exact accounted.looked_lt entry old
        · rw [List.mem_singleton.mp new]
          exact guarded.number_lt call member
      unmarked := by
        intro other inCalls waits
        rw [calls] at inCalls
        rcases (mem_replaced member numbered).mp inCalls with rfl | ⟨old, _⟩
        · exact absurd waits works
        · exact accounted.unmarked other old waits
      marked := by
        intro other inCalls found
        rw [calls] at inCalls
        rcases (mem_replaced member numbered).mp inCalls with rfl | ⟨old, differs⟩
        · rw [mark, looked, numbered]
          simp [unlooked, eq_comm]
        · rw [numbered] at differs
          rw [others differs]
          exact accounted.marked other old found
      marked_ended := by
        intro one inEnded found
        rw [ended] at inEnded
        rw [others (accounted.number_ne inEnded member)]
        exact accounted.marked_ended one inEnded found
      recorded := by rw [completed, ended, accounted.recorded]
      numbers := by
        rw [numbersOf, ended, calls, map_number_replaced guarded member new same, number]
        exact accounted.numbers }

/-- A call ends after notes that count nothing, and is recorded. -/
theorem finish (accounted : service.Accounted) (guarded : service.Guarded)
    (member : call ∈ service.calls) (notes : List Note) (silent : Silent notes)
    {result : Except Failure (List Item)} (log : next.log = service.log ++ notes ++
      [.completed call.number (.ofResult result) (call.hit? == some true)])
    (hits : next.hits = service.hits) (misses : next.misses = service.misses)
    (number : next.next = service.next) (ended : next.ended = service.ended ++ [⟨call, result⟩])
    (calls : next.calls = service.calls.filter (·.number ≠ call.number)) : next.Accounted := by
  have looked : lookedIn next.log = lookedIn service.log := by
    rw [log, lookedIn_append, lookedIn_append, silent.1, List.append_nil]
    exact List.append_nil _
  have completed : completedIn next.log =
      completedIn service.log ++ [Ended.entry ⟨call, result⟩] := by
    rw [log, completedIn_append, completedIn_append, silent.2, List.append_nil]
    rfl
  exact
    { hits := by rw [looked, hits, accounted.hits]
      misses := by rw [looked, misses, accounted.misses]
      once := looked ▸ accounted.once
      looked_lt := by
        rw [looked, number]
        exact accounted.looked_lt
      unmarked := by
        intro other inCalls
        rw [calls] at inCalls
        exact accounted.unmarked other (List.mem_filter.mp inCalls).1
      marked := by
        intro other inCalls
        rw [calls] at inCalls
        rw [looked]
        exact accounted.marked other (List.mem_filter.mp inCalls).1
      marked_ended := by
        intro one inEnded
        rw [ended] at inEnded
        rw [looked]
        rcases List.mem_append.mp inEnded with old | new
        · exact accounted.marked_ended one old
        · rw [List.mem_singleton.mp new]
          exact accounted.marked call member
      recorded := by rw [completed, ended, List.map_append, accounted.recorded, List.map_singleton]
      numbers := by
        have parts := (perm_cons_filter guarded.serves.numbers member).map (·.number)
        rw [number]
        refine List.Perm.trans ?_ accounted.numbers
        rw [numbersOf, numbersOf, ended, calls, List.map_append, List.append_assoc]
        exact parts.symm.append_left _ }

/-- A call that filters its candidates ends, after notes that count nothing. -/
theorem filter (accounted : service.Accounted) (guarded : service.Guarded)
    (member : call ∈ service.calls) {candidates : List Candidate}
    (ends : service.filter? call candidates = some next) : next.Accounted := by
  obtain ⟨cache, guards, notes, result, kinds, rfl⟩ := exists_of_filter?_eq_some ends
  have silent : Silent notes := by rcases kinds with rfl | rfl <;> exact ⟨rfl, rfl⟩
  exact accounted.finish guarded member notes silent rfl rfl rfl rfl rfl rfl

/-- Every transition keeps the counts in agreement. -/
theorem transition {event : Event} (accounted : service.Accounted) (guarded : service.Guarded)
    (change : Transition service event next) : next.Accounted := by
  cases change with
  | enter state request => exact accounted.enter state request
  | @acquire call found waits _ =>
    have member := (mem_of_call?_eq_some found).1
    rw [acquire_eq_counted]
    refine accounted.of_looked guarded member (accounted.unmarked call member waits)
      (call.looked (service.cache.get? call.signature)) rfl (Call.works_looked call _) rfl rfl rfl
      ?_ rfl rfl rfl
    cases service.cache.get? call.signature <;> rfl
  | read found reads => exact accounted.advance guarded (.read found reads) (by simp)
  | spawn found starts => exact accounted.advance guarded (.spawn found starts) (by simp)
  | exit => exact accounted.of_untouched rfl rfl rfl rfl rfl rfl
  | output found runs => exact accounted.advance guarded (.output found runs _) (by simp)
  | kill failure found runs => exact accounted.advance guarded (.kill found runs failure) (by simp)
  | fail notes failure found _ _ _ happens cause =>
    obtain ⟨guards, _, rfl⟩ := finish?_eq_some_iff.mp happens
    exact accounted.finish guarded (mem_of_call?_eq_some found).1 notes cause.silent rfl rfl rfl
      rfl rfl rfl
  | filter found _ happens => exact accounted.filter guarded (mem_of_call?_eq_some found).1 happens
  | close =>
    unfold Service.close
    split
    · exact accounted.of_untouched rfl rfl rfl rfl rfl rfl
    · exact accounted

end Accounted

/-- The counts of every service that comes about from an idle one agree. -/
theorem Reachable.accounted {settings : Settings} {overrides : Overrides} {service : Service}
    (reachable : Reachable (create settings overrides) service) : service.Accounted := by
  have both := reachable.invariant (fun service => service.Guarded ∧ service.Accounted)
    ⟨.create settings overrides, .create settings overrides⟩
    fun holds change => ⟨holds.1.transition change, holds.2.transition holds.1 change⟩
  exact both.2

/-! ## Who has looked -/

/-- Whether a call has looked into the cache. -/
def hasLooked (service : Service) (number : CallNumber) : Bool :=
  decide (number ∈ (lookedIn service.log).map (·.1))

/-- Each look was made by one of the calls that came. -/
theorem Accounted.hits_add_misses {service : Service} (accounted : service.Accounted) :
    service.hits + service.misses =
      service.ended.countP (fun one => service.hasLooked one.call.number) +
        service.calls.countP (fun call => service.hasLooked call.number) := by
  have lookers : ((lookedIn service.log).map (·.1)).Perm
      (service.numbersOf.filter service.hasLooked) := by
    rw [List.perm_ext_iff_of_nodup accounted.once (accounted.nodup_numbersOf.filter _)]
    intro number
    rw [List.mem_filter, hasLooked, decide_eq_true_eq, accounted.numbers.mem_iff, List.mem_range]
    refine ⟨fun looked => ⟨?_, looked⟩, And.right⟩
    obtain ⟨entry, inLooked, rfl⟩ := List.mem_map.mp looked
    exact accounted.looked_lt entry inLooked
  calc service.hits + service.misses
    _ = (lookedIn service.log).length := by
      rw [← accounted.hits, ← accounted.misses, List.length_eq_countP_add_countP (·.2)]
      simp
    _ = (service.numbersOf.filter service.hasLooked).length := by
      rw [← lookers.length_eq, List.length_map]
    _ = service.numbersOf.countP service.hasLooked := List.countP_eq_length_filter.symm
    _ = _ := by
      rw [numbersOf, List.countP_append, List.countP_map, List.countP_map]
      rfl

/-! ## What telemetry is told -/

/-- The word under which an outcome is counted. -/
def Outcome.word : Outcome → String
  | .success => "success"
  | .empty => "empty"
  | .error => "error"

/-- Different outcomes are counted under different words. -/
theorem Outcome.word_inj {outcome other : Outcome} :
    outcome.word = other.word ↔ outcome = other := by
  cases outcome <;> cases other <;> decide

/-- Found and not found are counted under different words. -/
theorem lookupWord_inj {hit other : Bool} :
    Telemetry.lookupWord hit = Telemetry.lookupWord other ↔ hit = other := by
  cases hit <;> cases other <;> decide

/-- What telemetry does for a note, where each call took some time. -/
def measured (telemetry : Telemetry) (time : CallNumber → Float) : Note → List (Telemetry.Call Unit)
  | .looked _ hit => telemetry.lookup hit
  | .completed call outcome hit =>
    (telemetry.completion outcome.word (.ok (time call)) hit).toOption.getD []
  | _ => []

/-- Where counts go. -/
inductive Channel
  | collector
  | exposition

namespace Channel

/-- Whether telemetry uses a channel. -/
def isOpen (telemetry : Telemetry) : Channel → Bool
  | .collector => telemetry.isEnabled
  | .exposition => telemetry.isExposed

/-- Whether one is added to a count by what telemetry does on a channel. -/
def adds (metric : Telemetry.Metric) (labels : Telemetry.Labels) :
    Channel → Telemetry.Call Unit → Bool
  | .collector, .add one own => one = metric && own = labels
  | .exposition, .increment one own => one = metric && own = labels
  | _, _ => false

variable {telemetry : Telemetry} {channel : Channel} {time : CallNumber → Float}

/-- A call is counted on a channel it belongs to. -/
theorem adds_collector (metric count : Telemetry.Metric) (labels own : Telemetry.Labels) :
    adds metric labels .collector (.add count own) = decide ((count, own) = (metric, labels)) := by
  simp [adds]

/-- An increment adds one to the count of its metric and labels only. -/
theorem adds_exposition (metric count : Telemetry.Metric) (labels own : Telemetry.Labels) :
    adds metric labels .exposition (.increment count own) =
      decide ((count, own) = (metric, labels)) := by
  simp [adds]

/-- What is counted on both channels, besides what is only timed, is counted once on an open one. -/
theorem countP_calls (opened : channel.isOpen telemetry = true) (metric count : Telemetry.Metric)
    (labels own : Telemetry.Labels) (sent exposed : List (Telemetry.Call Unit))
    (timed : sent.countP (channel.adds metric labels) = 0)
    (observed : exposed.countP (channel.adds metric labels) = 0) :
    (telemetry.calls (.add count own :: sent) (.increment count own :: exposed)).countP
        (channel.adds metric labels) =
      if (count, own) = (metric, labels) then 1 else 0 := by
  rw [Telemetry.calls, List.countP_append]
  cases channel with
  | collector =>
    rw [isOpen] at opened
    have none : (if telemetry.isExposed then Telemetry.Call.increment count own :: exposed
        else []).countP (collector.adds metric labels) = 0 := by
      split
      · simpa [adds] using observed
      · rfl
    rw [none, if_pos opened, List.countP_cons, timed, adds_collector]
    simp
  | exposition =>
    rw [isOpen] at opened
    have none : (if telemetry.isEnabled then Telemetry.Call.add count own :: sent
        else []).countP (exposition.adds metric labels) = 0 := by
      split
      · simpa [adds] using timed
      · rfl
    rw [none, if_pos opened, List.countP_cons, observed, adds_exposition]
    simp

/-- What a note is counted as. -/
def countOf : Note → Option (Telemetry.Metric × Telemetry.Labels)
  | .looked _ hit => some (.cacheLookups, [("result", Telemetry.lookupWord hit)])
  | .completed _ outcome hit =>
    some (.completions, [("result", outcome.word), ("cache", Telemetry.lookupWord hit)])
  | _ => none

/-- A completion is counted and timed. -/
theorem completion_eq (opened : channel.isOpen telemetry = true) (outcome : Outcome) (hit : Bool)
    (milliseconds : Float) : ∃ taken,
    (telemetry.completion outcome.word (.ok milliseconds) hit).toOption.getD [] =
      telemetry.calls (α := Unit)
        [.add .completions [("result", outcome.word), ("cache", Telemetry.lookupWord hit)],
          .record .completionLatency taken [("result", outcome.word)]]
        [.increment .completions [("result", outcome.word), ("cache", Telemetry.lookupWord hit)],
          .observe .completionLatency [("result", outcome.word)] taken] := by
  have named : Telemetry.recordedResult outcome.word = outcome.word := by cases outcome <;> decide
  have used : (telemetry.isEnabled || telemetry.isExposed) = true := by
    cases channel <;> simp_all [isOpen]
  refine ⟨Telemetry.recordedTime milliseconds, ?_⟩
  rw [Telemetry.completion, Telemetry.countAndTime, named, if_pos used]
  rfl

/-- On an open channel one is added for a note to what it is counted as. -/
theorem countP_measured (opened : channel.isOpen telemetry = true) (metric : Telemetry.Metric)
    (labels : Telemetry.Labels) (note : Note) :
    (measured telemetry time note).countP (channel.adds metric labels) =
      if countOf note = some (metric, labels) then 1 else 0 := by
  cases note with
  | looked call hit =>
    rw [measured, Telemetry.lookup, countP_calls opened _ _ _ _ [] [] rfl rfl]
    simp [countOf]
  | completed call outcome hit =>
    obtain ⟨taken, done⟩ := completion_eq opened outcome hit (time call)
    rw [measured, done, countP_calls opened]
    · simp [countOf]
    · cases channel <;> rfl
    · cases channel <;> rfl
  | _ => rfl

/-- On an open channel as much is counted as there are notes that are counted as it. -/
theorem countP_flatMap_measured (opened : channel.isOpen telemetry = true)
    (metric : Telemetry.Metric) (labels : Telemetry.Labels) (log : List Note) :
    (log.flatMap (measured telemetry time)).countP (channel.adds metric labels) =
      log.countP (fun note => countOf note = some (metric, labels)) := by
  induction log with
  | nil => rfl
  | cons note rest ih =>
    rw [List.flatMap_cons, List.countP_append, ih, countP_measured opened, List.countP_cons,
      Nat.add_comm]
    simp

/-- Looks are counted by what they found. -/
theorem countP_countOf_looks (hit : Bool) (log : List Note) :
    log.countP (fun note =>
        countOf note = some (.cacheLookups, [("result", Telemetry.lookupWord hit)])) =
      (lookedIn log).countP (·.2 == hit) := by
  rw [lookedIn, List.countP_filterMap]
  refine List.countP_congr fun note _ => ?_
  cases note <;> simp [countOf, lookupWord_inj]

/-- Calls that ended are counted by their outcome and by what the cache counts as. -/
theorem countP_countOf_completions (outcome : Outcome) (hit : Bool) (log : List Note) :
    log.countP (fun note => countOf note = some (.completions,
        [("result", outcome.word), ("cache", Telemetry.lookupWord hit)])) =
      (completedIn log).countP (fun entry => entry.2 = (outcome, hit)) := by
  rw [completedIn, List.countP_filterMap]
  refine List.countP_congr fun note _ => ?_
  cases note <;> simp [countOf, lookupWord_inj, Outcome.word_inj]

end Channel

/-! ## The counters together -/

/-- A result counts as a success exactly if it has items. -/
theorem Outcome.ofResult_eq_success_iff {result : Except Failure (List Item)} :
    Outcome.ofResult result = .success ↔ ∃ items, result = .ok items := by
  rw [Outcome.ofResult.eq_def]
  split <;> simp

/-- A result counts as empty exactly if it was refused for being empty. -/
theorem Outcome.ofResult_eq_empty_iff {result : Except Failure (List Item)} :
    Outcome.ofResult result = .empty ↔ result = .error (.refused .emptyResult) := by
  rw [Outcome.ofResult.eq_def]
  split <;> simp_all

/-- The cache counts as hit for a call that has ended exactly if its own look found something. -/
theorem Accounted.completedIn_eq {service : Service} (accounted : service.Accounted) :
    completedIn service.log = service.ended.map fun one =>
      (one.call.number, Outcome.ofResult one.result,
        decide ((one.call.number, true) ∈ lookedIn service.log)) := by
  rw [accounted.recorded]
  refine List.map_congr_left fun one ended => ?_
  have hit : (one.call.hit? == some true) =
      decide ((one.call.number, true) ∈ lookedIn service.log) := by
    rw [Bool.eq_iff_iff, beq_iff_eq, decide_eq_true_eq]
    exact accounted.marked_ended one ended true
  rw [Ended.entry, hit]

/-- The calls that ended and the looks differ by the calls that ended without a look, and by the
calls in flight that have looked. -/
theorem Accounted.ended_sub_looks {service : Service} (accounted : service.Accounted) :
    (service.ended.length : Int) - (service.hits + service.misses : Nat) =
      service.ended.countP (fun one => !service.hasLooked one.call.number) -
        (service.calls.countP (fun call => service.hasLooked call.number) : Nat) := by
  have looks := accounted.hits_add_misses
  have ends := service.ended.length_eq_countP_add_countP
    (fun one => service.hasLooked one.call.number)
  simp only [Bool.not_eq_true, Bool.decide_eq_false] at ends
  omega

/-- After each look that found something a hit is told on an open channel, and likewise a miss. -/
theorem Accounted.told_looks {service : Service} (accounted : service.Accounted)
    {telemetry : Telemetry} {channel : Channel} (opened : channel.isOpen telemetry = true)
    (time : CallNumber → Float) (hit : Bool) :
    (service.log.flatMap (measured telemetry time)).countP
        (channel.adds .cacheLookups [("result", Telemetry.lookupWord hit)]) =
      if hit then service.hits else service.misses := by
  rw [Channel.countP_flatMap_measured opened, Channel.countP_countOf_looks]
  cases hit with
  | false => simp [← accounted.misses]
  | true => simp [← accounted.hits]

/-- Each call that has ended is told on an open channel under its outcome and what it found. -/
theorem Accounted.told_completions {service : Service} (accounted : service.Accounted)
    {telemetry : Telemetry} {channel : Channel} (opened : channel.isOpen telemetry = true)
    (time : CallNumber → Float) (outcome : Outcome) (hit : Bool) :
    (service.log.flatMap (measured telemetry time)).countP (channel.adds .completions
        [("result", outcome.word), ("cache", Telemetry.lookupWord hit)]) =
      service.ended.countP fun one => Outcome.ofResult one.result = outcome ∧
        decide ((one.call.number, true) ∈ lookedIn service.log) = hit := by
  rw [Channel.countP_flatMap_measured opened, Channel.countP_countOf_completions,
    accounted.completedIn_eq, List.countP_map]
  refine List.countP_congr fun one _ => ?_
  simp

/-- At all times, whatever calls came and however they were interleaved, the looks that are recorded
as hits and as misses are as many as the service counts. No call looks twice. Every call that came
is in flight or has ended, and each that has ended is recorded once, in order: as a success if it
gave items, as empty if it was refused for an empty result, and as an error otherwise; the cache
counts as hit if its own look found something. Thus the calls that ended less the looks are those
that ended without a look less those in flight that have looked. Telemetry is told the same on every
channel it uses. -/
theorem counters_agree {settings : Settings} {overrides : Overrides} {service : Service}
    (reachable : Reachable (create settings overrides) service) :
    ((lookedIn service.log).countP (·.2) = service.hits ∧
        (lookedIn service.log).countP (!·.2) = service.misses) ∧
      ((lookedIn service.log).map (·.1)).Nodup ∧
      (service.ended.map (·.call.number) ++ service.calls.map (·.number)).Perm
        (List.range service.next) ∧
      completedIn service.log = service.ended.map (fun one =>
        (one.call.number, Outcome.ofResult one.result,
          decide ((one.call.number, true) ∈ lookedIn service.log))) ∧
      (∀ result, (Outcome.ofResult result = .success ↔ ∃ items, result = .ok items) ∧
        (Outcome.ofResult result = .empty ↔ result = .error (.refused .emptyResult))) ∧
      (service.ended.length : Int) - (service.hits + service.misses : Nat) =
        service.ended.countP (fun one => !service.hasLooked one.call.number) -
          (service.calls.countP (fun call => service.hasLooked call.number) : Nat) ∧
      ∀ (telemetry : Telemetry) (channel : Channel) (time : CallNumber → Float),
        channel.isOpen telemetry = true →
          (∀ hit, (service.log.flatMap (measured telemetry time)).countP
              (channel.adds .cacheLookups [("result", Telemetry.lookupWord hit)]) =
            if hit then service.hits else service.misses) ∧
          ∀ outcome hit, (service.log.flatMap (measured telemetry time)).countP
              (channel.adds .completions
                [("result", outcome.word), ("cache", Telemetry.lookupWord hit)]) =
            service.ended.countP fun one => Outcome.ofResult one.result = outcome ∧
              decide ((one.call.number, true) ∈ lookedIn service.log) = hit := by
  have accounted := reachable.accounted
  refine ⟨⟨accounted.hits, accounted.misses⟩, accounted.once, accounted.numbers,
    accounted.completedIn_eq, fun result => ?_, accounted.ended_sub_looks, ?_⟩
  · exact ⟨Outcome.ofResult_eq_success_iff, Outcome.ofResult_eq_empty_iff⟩
  · intro telemetry channel time opened
    exact ⟨accounted.told_looks opened time, accounted.told_completions opened time⟩

/-- One call finds nothing, is refused and stored, the next one of the same position finds that, a
third is cancelled while it waits, and a fourth is in flight after its look. -/
def fourCalls : List Event :=
  [.enter default default, .enter default default, .enter default default, .acquire 0,
    .read 0 (.ok ""), .cancel 2, .spawn 0 (.ok ()), .exit 0 0, .output 0 [] [], .filter 0,
    .acquire 1, .filter 1, .enter default default, .acquire 3]

/-- The counters after four calls. -/
theorem counters_agree_after_four_calls :
    ∃ service, Reachable (create .standard {}) service ∧
      (service.hits, service.misses) = (2, 1) ∧ service.ended.length = 3 ∧
      service.calls.countP (fun call => service.hasLooked call.number) = 1 ∧
      service.ended.countP (fun one => !service.hasLooked one.call.number) = 1 := by
  have counts : ((create .standard {}).play fourCalls).map (fun service =>
      (service.hits, service.misses, service.ended.length,
        service.calls.countP fun call => service.hasLooked call.number)) =
      some (2, 1, 3, 1) := by
    decide +kernel
  obtain ⟨service, played, counts⟩ := Option.map_eq_some_iff.mp counts
  have reachable := Reachable.start.of_play played
  obtain ⟨_, _, _, _, _, difference, _⟩ := counters_agree reachable
  simp only [Prod.mk.injEq] at counts
  obtain ⟨hits, misses, ended, looked⟩ := counts
  refine ⟨service, reachable, by rw [hits, misses], ended, looked, ?_⟩
  rw [hits, misses, ended, looked] at difference
  omega

end CompletionServer.Service
