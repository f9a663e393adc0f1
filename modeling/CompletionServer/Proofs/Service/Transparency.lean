import CompletionServer.Proofs.Cache.Order
import CompletionServer.Proofs.Outcome
import CompletionServer.Proofs.Service.Site

/-!
# The cache cannot be seen in the answers

A call is answered from the cache or by a run of the tool. If the tool reports the same candidates
whenever it is asked about a position, and different positions have different signatures, then the
answer is the same either way: the candidates of the position, filtered for this request in the
project as it was when the request came. What other requests filled the cache, what was driven out
of it and how often the project was refreshed in the meantime makes no difference.
-/

namespace CompletionServer

/-- Where candidates are asked for. -/
structure Position where
  offset : Nat
  path : String
  key : String
  deriving DecidableEq, Repr

/-- The position that a request is about. -/
def Request.position (request : Request) : Position :=
  ⟨request.byteOffset, request.filePath, request.cacheKey⟩

namespace Service

/-- What a service answers to a request whose candidates are known, in a project. -/
def answer (service : Service) (candidates : List Candidate) (request : Request)
    (state : Project.State) : Except Failure (List Item) :=
  match service.pipeline.apply candidates request state.moduleName with
  | .error fault => .error (.fault fault)
  | .ok items => resultOf service.setup.emptyIsError items

variable {service next : Service} {call : Call} {candidates : List Candidate}

/-! ## What filtering does -/

/-- A call that filters its candidates ends with the answer, and the cache is as before or has the
candidates. -/
theorem of_filter? (ends : service.filter? call candidates = some next) :
    next.setup = service.setup ∧ next.pipeline = service.pipeline ∧
      (next.cache = service.cache ∨ next.cache = service.cache.put call.signature candidates) ∧
      next.calls = service.calls.filter (·.number ≠ call.number) ∧
      next.ended = service.ended ++
        [⟨call, service.answer candidates call.request call.state⟩] := by
  rcases filter?_eq_some_iff.mp ends with ⟨fault, applied, ends⟩ | ⟨items, applied, ends⟩
  · obtain ⟨guards, _, rfl⟩ := finish?_eq_some_iff.mp ends
    exact ⟨rfl, rfl, .inl rfl, rfl, by simp [answer, applied]⟩
  · unfold store at ends
    split at ends
    · obtain ⟨guards, _, rfl⟩ := finish?_eq_some_iff.mp ends
      exact ⟨rfl, rfl, .inl rfl, rfl, by simp [answer, applied]⟩
    · obtain ⟨guards, _, rfl⟩ := finish?_eq_some_iff.mp ends
      exact ⟨rfl, rfl, .inr rfl, rfl, by simp [answer, applied, note]⟩

/-- A call that has its candidates can always filter them. -/
theorem Guarded.filter?_isSome (guarded : service.Guarded) (member : call ∈ service.calls)
    (candidates : List Candidate) : (service.filter? call candidates).isSome = true := by
  have leaves := guarded.leave?_isSome member
  unfold filter?
  split
  · rw [finish?, Option.isSome_map]
    exact leaves
  · obtain ⟨cache, log, stored⟩ := store_eq service call candidates
    rw [stored, finish?, Option.isSome_map]
    exact leaves

/-! ## The candidates of a position -/

/-- Requests that occur have different signatures if they are about different positions. -/
def SignedApart (occurs : Request → Prop) : Prop :=
  ∀ request, occurs request → ∀ other, occurs other →
    Signature.ofRequest request = Signature.ofRequest other → request.position = other.position

/-- All candidates that a service has are those of their positions, as far as the requests go that
occur, and every call that ended by filtering was given up or got its answer. -/
structure Faithful (reported : Position → List Candidate) (occurs : Request → Prop)
    (start service : Service) : Prop where
  setup : service.setup = start.setup
  pipeline : service.pipeline = start.pipeline
  requested : ∀ call ∈ service.calls,
    occurs call.request ∧ call.signature = Signature.ofRequest call.request
  cached : ∀ request, occurs request → ∀ candidates,
    service.cache.get? (Signature.ofRequest request) = some candidates →
    candidates = reported request.position
  filtering : ∀ call ∈ service.calls, ∀ candidates, call.phase = .filtering candidates →
    candidates = reported call.request.position
  ended : ∀ one ∈ service.ended, ∀ candidates, one.call.phase = .filtering candidates →
    one.result = .error .cancelled ∨
      one.result = start.answer (reported one.call.request.position) one.call.request one.call.state

namespace Faithful

variable {reported : Position → List Candidate} {occurs : Request → Prop} {start : Service}

/-- A service that has only what its cache was given is faithful to the candidates there. -/
theorem of_idle (cached : ∀ request, occurs request → ∀ candidates,
    start.cache.get? (Signature.ofRequest request) = some candidates →
    candidates = reported request.position) (calls : start.calls = []) (ended : start.ended = []) :
    Faithful reported occurs start start :=
  ⟨rfl, rfl, by simp [calls], cached, by simp [calls], by simp [ended]⟩

/-- A faithful service gives the answers that it gave at its start. -/
theorem answer_eq (faithful : Faithful reported occurs start service) (candidates : List Candidate)
    (request : Request) (state : Project.State) :
    service.answer candidates request state = start.answer candidates request state := by
  rw [answer, answer, faithful.setup, faithful.pipeline]

/-- A request that occurs leaves a service faithful. -/
theorem enter (faithful : Faithful reported occurs start service) (state : Project.State)
    {request : Request} (known : occurs request) :
    Faithful reported occurs start (service.enter state request) where
  setup := faithful.setup
  pipeline := faithful.pipeline
  requested := by
    intro call member
    rcases List.mem_append.mp member with old | new
    · exact faithful.requested call old
    · rw [List.mem_singleton.mp new]
      exact ⟨known, rfl⟩
  cached := faithful.cached
  filtering := by
    intro call member candidates filters
    rcases List.mem_append.mp member with old | new
    · exact faithful.filtering call old candidates filters
    · rw [List.mem_singleton.mp new] at filters
      contradiction
  ended := faithful.ended

/-- One call changes; if it has candidates then, they are those of its position. -/
theorem of_replaced (faithful : Faithful reported occurs start service) (new : Call)
    (member : call ∈ service.calls) (same : new.origin = call.origin)
    (filters : ∀ candidates, new.phase = .filtering candidates →
      candidates = reported call.request.position)
    (setup : next.setup = service.setup) (pipeline : next.pipeline = service.pipeline)
    (cache : next.cache = service.cache) (calls : next.calls = replaced service.calls new)
    (ended : next.ended = service.ended) : Faithful reported occurs start next := by
  obtain ⟨numbers, requests, _, signatures⟩ :
      new.number = call.number ∧ new.request = call.request ∧ new.state = call.state ∧
        new.signature = call.signature := by
    simpa [Call.origin] using same
  exact
    { setup := setup.trans faithful.setup
      pipeline := pipeline.trans faithful.pipeline
      requested := by
        intro other inCalls
        rw [calls, mem_replaced member numbers] at inCalls
        rcases inCalls with rfl | ⟨old, _⟩
        · rw [requests, signatures]
          exact faithful.requested call member
        · exact faithful.requested other old
      cached := by
        rw [cache]
        exact faithful.cached
      filtering := by
        intro other inCalls candidates phase
        rw [calls, mem_replaced member numbers] at inCalls
        rcases inCalls with rfl | ⟨old, _⟩
        · rw [requests]
          exact filters candidates phase
        · exact faithful.filtering other old candidates phase
      ended := by
        rw [ended]
        exact faithful.ended }

/-- A call at work comes into another phase; if it has candidates then, they are those of its
position. -/
theorem advance {phase : Phase} {notes : List Note}
    (faithful : Faithful reported occurs start service)
    (advances : service.Advances next call phase notes)
    (filters : ∀ candidates, phase = .filtering candidates →
      candidates = reported call.request.position) : Faithful reported occurs start next := by
  rw [advances.frame]
  exact faithful.of_replaced { call with phase } advances.member rfl filters rfl rfl rfl rfl rfl

/-- A call ends; if it had candidates, it was given up or got its answer. -/
theorem of_ended (faithful : Faithful reported occurs start service)
    {result : Except Failure (List Item)}
    (answers : ∀ candidates, call.phase = .filtering candidates → result = .error .cancelled ∨
      result = start.answer (reported call.request.position) call.request call.state)
    (setup : next.setup = service.setup) (pipeline : next.pipeline = service.pipeline)
    (cached : ∀ request, occurs request → ∀ candidates,
      next.cache.get? (Signature.ofRequest request) = some candidates →
      candidates = reported request.position)
    (calls : next.calls = service.calls.filter (·.number ≠ call.number))
    (ended : next.ended = service.ended ++ [⟨call, result⟩]) :
    Faithful reported occurs start next where
  setup := setup.trans faithful.setup
  pipeline := pipeline.trans faithful.pipeline
  requested := by
    intro other inCalls
    rw [calls] at inCalls
    exact faithful.requested other (List.mem_filter.mp inCalls).1
  cached := cached
  filtering := by
    intro other inCalls
    rw [calls] at inCalls
    exact faithful.filtering other (List.mem_filter.mp inCalls).1
  ended := by
    intro one inEnded
    rw [ended] at inEnded
    rcases List.mem_append.mp inEnded with old | new
    · exact faithful.ended one old
    · rw [List.mem_singleton.mp new]
      exact answers

/-- A call that has looked into the cache has what is there for its position. -/
theorem acquire (faithful : Faithful reported occurs start service)
    (member : call ∈ service.calls) :
    Faithful reported occurs start (service.acquire call) := by
  obtain ⟨known, signed⟩ := faithful.requested call member
  obtain ⟨hits, misses, acquired⟩ := acquire_eq service call
  rw [acquired]
  refine faithful.of_replaced (call.looked (service.cache.get? call.signature)) member rfl ?_ rfl
    rfl rfl rfl rfl
  intro candidates filters
  cases found : service.cache.get? call.signature with
  | none => simp [Call.looked, found] at filters
  | some held =>
    obtain rfl : held = candidates := by simpa [Call.looked, found] using filters
    rw [signed] at found
    exact faithful.cached call.request known held found

/-- What a call filters it may put into the cache: it is what all requests with its signature ask
for. -/
theorem filter (faithful : Faithful reported occurs start service)
    (apart : SignedApart occurs)
    (member : call ∈ service.calls) (filters : call.phase = .filtering candidates)
    (ends : service.filter? call candidates = some next) :
    Faithful reported occurs start next := by
  obtain ⟨known, signed⟩ := faithful.requested call member
  have own := faithful.filtering call member candidates filters
  obtain ⟨setup, pipeline, cache, calls, ended⟩ := of_filter? ends
  refine faithful.of_ended ?_ setup pipeline ?_ calls ended
  · intro _ _
    right
    rw [faithful.answer_eq, own]
  · intro request occurring held found
    rcases cache with same | stored
    · rw [same] at found
      exact faithful.cached request occurring held found
    · rw [stored, signed] at found
      rcases Cache.get?_put service.cache (Signature.ofRequest call.request)
        (Signature.ofRequest request) candidates with gone | there
      · rw [gone] at found
        contradiction
      · rw [there] at found
        split at found
        · next same =>
          rw [apart request occurring call.request known same, ← own]
          exact (Option.some.inj found).symm
        · exact faithful.cached request occurring held found

/-- A service stays faithful as calls proceed, if a run of the tool that succeeds reports the
candidates of its position. -/
theorem transition {event : Event} (faithful : Faithful reported occurs start service)
    (apart : SignedApart occurs)
    (inner : Site.isInner event = true)
    (steady : ∀ ⦃call child code stdout stderr candidates⦄,
      event = .output call.number stdout stderr → service.call? call.number = some call →
      call.phase = .running child → service.codeOf child = some code →
      (Introspection.Exit.mk code stdout stderr).candidates = .ok candidates →
      candidates = reported call.request.position)
    (change : Transition service event next) : Faithful reported occurs start next := by
  cases change with
  | enter | close => contradiction
  | acquire found => exact faithful.acquire (mem_of_call?_eq_some found).1
  | read found reads => exact faithful.advance (.read found reads) (by simp)
  | spawn found starts => exact faithful.advance (.spawn found starts) (by simp)
  | exit =>
    exact ⟨faithful.setup, faithful.pipeline, faithful.requested, faithful.cached,
      faithful.filtering, faithful.ended⟩
  | output found runs ended printed =>
    have own := steady rfl found runs ended printed
    refine faithful.advance (.output found runs _) ?_
    intro held filters
    exact (Phase.filtering.inj filters).symm.trans own
  | kill failure found runs => exact faithful.advance (.kill found runs failure) (by simp)
  | fail notes failure found _ unfiltered _ happens =>
    obtain ⟨guards, _, rfl⟩ := finish?_eq_some_iff.mp happens
    refine faithful.of_ended ?_ rfl rfl faithful.cached rfl rfl
    intro candidates filters
    exact .inl (congrArg Except.error (unfiltered candidates filters))
  | filter found filters happens =>
    exact faithful.filter apart (mem_of_call?_eq_some found).1 filters happens

end Faithful

end Service

/-! ## Runs -/

namespace Site

open Service (Faithful SignedApart)

/-- Every run of the tool that succeeds among some events reports the candidates of the position
that it was asked about. -/
def Steady (start : Site) (events : List Event) (reported : Position → List Candidate) : Prop :=
  ∀ before number stdout stderr later site call child code candidates,
    events = before ++ .proceed (.output number stdout stderr) :: later →
    start.play before = some site → site.service.call? number = some call →
    call.phase = .running child → site.service.codeOf child = some code →
    (Introspection.Exit.mk code stdout stderr).candidates = .ok candidates →
    candidates = reported call.request.position

/-- What is steady is so at every earlier time. -/
theorem Steady.of_append {start : Site} {events later : List Event}
    {reported : Position → List Candidate} (steady : start.Steady (events ++ later) reported) :
    start.Steady events reported := by
  rintro before number stdout stderr rest site call child code candidates rfl
  apply steady before number stdout stderr (rest ++ later)
  simp

/-- A site stays faithful through a run. -/
theorem faithful_of_play {start last : Site} {events : List Event}
    {reported : Position → List Candidate} {occurs : Request → Prop}
    (initial : Faithful reported occurs start.service start.service)
    (apart : SignedApart occurs)
    (occurring : ∀ request ∈ requests events, occurs request)
    (steady : start.Steady events reported) (played : start.play events = some last) :
    Faithful reported occurs start.service last.service := by
  -- The hypotheses on the events are part of what is kept: they are weaker for a shorter run.
  refine Machine.invariant_of_play played
    (fun events site => (∀ request ∈ requests events, occurs request) →
      start.Steady events reported → Faithful reported occurs start.service site.service)
    (fun _ _ => initial) ?_ occurring steady
  intro events site next event playedBefore ih happens occurring steady
  rw [requests, List.filterMap_append] at occurring
  have faithful := ih (fun request member => occurring request (List.mem_append_left _ member))
    steady.of_append
  rcases service_of_step happens with same | ⟨state, request, rfl, _, entered⟩ |
    ⟨inner, rfl, isInner, steps⟩
  · rw [same]
    exact faithful
  · rw [entered]
    exact faithful.enter state (occurring request (List.mem_append_right _ List.mem_cons_self))
  · refine faithful.transition apart isInner ?_ (Service.transition_of_step steps)
    rintro call child code stdout stderr candidates rfl found runs ended printed
    exact steady events call.number stdout stderr [] site call child code candidates rfl
      playedBefore found runs ended printed

/-- The call that a request makes goes on to stand for it and for the project at its beginning. -/
theorem startedWith_of_request {settings : Settings} {overrides : Service.Overrides}
    {manager : Project.Manager} {before later : List Event} {request : Request} {site last : Site}
    {state : Project.State}
    (playedBefore : (Site.mk manager (.create settings overrides)).play before = some site)
    (current : site.manager.current = .ok state)
    (played : (Site.mk manager (.create settings overrides)).play
      (before ++ .request request :: later) = some last) :
    last.service.StartedWith site.service.next request state := by
  have earlier := reachable_of_play .start playedBefore
  have goesOn := (Machine.play_append_of_play playedBefore _).symm.trans played
  rw [Machine.play_cons, step, current] at goesOn
  exact startedWith_of_play (.enter earlier.guarded earlier.numbered state request) goesOn

/-- In every run of requests and refreshes that starts with an idle service, whatever its cache
holds and has room for, suppose that the requests of the run have different signatures for different
positions, that what the cache was given is what the tool reports at its position, and that the
tool always reports this when it succeeds. Take any request that comes while the project is in a
state. Then, for the call that it makes:

- if the call ended when it had its candidates, it was given up, or its result is the answer to the
  candidates of its position, for its own request and in the project of that state;
- if it has its candidates and is still in flight, it can end, with that result;
- every command line that was run for it is built from that state.

And a call that gets its lock goes on with the candidates of its position exactly if the cache has
an entry for its signature, be it an empty one. -/
theorem answers_ignore_cache {settings : Settings} {overrides : Service.Overrides}
    {manager : Project.Manager} {events : List Event} {last : Site}
    {reported : Position → List Candidate}
    (played : (Site.mk manager (.create settings overrides)).play events = some last)
    (distinct : ∀ request ∈ requests events, ∀ other ∈ requests events,
      Signature.ofRequest request = Signature.ofRequest other → request.position = other.position)
    (cached : ∀ request ∈ requests events, ∀ candidates,
      (Service.create settings overrides).cache.get? (Signature.ofRequest request) =
        some candidates → candidates = reported request.position)
    (steady : (Site.mk manager (.create settings overrides)).Steady events reported) :
    (∀ before request later site state, events = before ++ .request request :: later →
      (Site.mk manager (.create settings overrides)).play before = some site →
      site.manager.current = .ok state →
      (∀ one ∈ last.service.ended, one.call.number = site.service.next →
        (∃ candidates, one.call.phase = .filtering candidates) →
        one.result = .error .cancelled ∨
          one.result = (Service.create settings overrides).answer (reported request.position)
            request state) ∧
      (∀ call ∈ last.service.calls, call.number = site.service.next →
        (∃ candidates, call.phase = .filtering candidates) →
        ∃ next, last.service.step (.filter call.number) = some next ∧
          next.ended = last.service.ended ++
            [⟨call, (Service.create settings overrides).answer (reported request.position)
              request state⟩]) ∧
      (∀ command, .spawned site.service.next command ∈ last.service.log → ∃ contents,
        command = Introspection.command (Service.create settings overrides).setup.binary contents
          request.byteOffset (Introspection.compilerArguments state request.filePath
            (Service.create settings overrides).setup.hint))) ∧
      (∀ call ∈ last.service.calls, call.phase = .waiting →
        last.service.guards.isFree call.lock = true →
        ∃ next, last.service.step (.acquire call.number) = some next ∧
          call.looked (if last.service.cache.contains call.signature then
            some (reported call.request.position) else none) ∈ next.calls) := by
  have reachable := reachable_of_play .start played
  have guarded := reachable.guarded
  have faithful := faithful_of_play (.of_idle cached rfl rfl) distinct (fun _ member => member)
    steady played
  refine ⟨?_, ?_⟩
  · rintro before request later site state rfl playedBefore current
    have started := startedWith_of_request playedBefore current played
    have spawned := started.spawned
    rw [faithful.setup] at spawned
    refine ⟨?_, ?_, spawned⟩
    · rintro one inEnded number ⟨candidates, filters⟩
      obtain ⟨requests, states⟩ := started.ended one inEnded number
      have result := faithful.ended one inEnded candidates filters
      rwa [requests, states] at result
    · rintro call member number ⟨candidates, filters⟩
      obtain ⟨requests, states⟩ := started.calls call member number
      obtain ⟨next, ends⟩ := Option.isSome_iff_exists.mp (guarded.filter?_isSome member candidates)
      obtain ⟨_, _, _, _, ended⟩ := Service.of_filter? ends
      rw [faithful.answer_eq, faithful.filtering call member candidates filters, requests, states]
        at ended
      refine ⟨next, ?_, ended⟩
      rw [Service.step, guarded.call?_eq_some member]
      simpa [filters] using ends
  · intro call member waits free
    obtain ⟨known, signed⟩ := faithful.requested call member
    refine ⟨last.service.acquire call, ?_, ?_⟩
    · rw [Service.step, guarded.call?_eq_some member]
      simp [waits, free]
    · have found : (if last.service.cache.contains call.signature then
          some (reported call.request.position) else none) =
          last.service.cache.get? call.signature := by
        rw [← Cache.get?_isSome]
        cases held : last.service.cache.get? call.signature with
        | none => rfl
        | some candidates =>
          rw [signed] at held
          rw [faithful.cached call.request known candidates held]
          rfl
      obtain ⟨hits, misses, acquired⟩ := Service.acquire_eq last.service call
      rw [acquired, found]
      exact Service.self_mem_replaced member (call.looked _) rfl

/-- A project with a module. -/
def moduleState (moduleName : String) : Project.State :=
  { (default : Project.State) with moduleName }

/-- A request at an offset in a session. -/
def requestAt (byteOffset : Nat) (sessionPrefix : String) : Request :=
  { (default : Request) with byteOffset, sessionPrefix }

/-- What the tool prints at the first position: a candidate of each of two modules, and one of
none. -/
def printedText : String :=
  "[\x7b\"sourcetext\":\"a\",\"moduleName\":\"App\"\x7d," ++
    "\x7b\"sourcetext\":\"b\",\"moduleName\":\"Kit\"\x7d,\x7b\"descriptionKey\":\"c\"\x7d]"

/-- The candidates of the positions: three at the first, and one at any other. -/
def reportedAt (position : Position) : List Candidate :=
  if position = (requestAt 0 "").position then
    [⟨"a", "", some "App", "", "", "", ""⟩, ⟨"b", "", some "Kit", "", "", "", ""⟩,
      ⟨"", "c", none, "", "", "", ""⟩]
  else [⟨"b", "", some "Kit", "", "", "", ""⟩]

/-- A cache that holds the candidate of the second position. -/
def heldCache : Service.Overrides :=
  { cache := some
      ⟨8, [⟨Signature.ofRequest (requestAt 1 ""), reportedAt (requestAt 1 "").position, 0⟩], 1⟩ }

/-- A site whose service starts with that cache. -/
def heldSite : Site := ⟨.create (.ofString ""), .create .standard heldCache⟩

/-- A run in which a request comes and the project is refreshed before its tool is run. A second
request at this position waits until the first has stored its candidates, and one at the other
position is answered from the cache in the meantime. -/
def refreshedRun : List Event :=
  [.project (.begin .load), .project (.acquire 0), .project (.finish 0 (.ok (moduleState "App"))),
    .request (requestAt 0 ""), .project (.begin .refresh), .project (.acquire 1),
    .project (.finish 1 (.ok (moduleState "Kit"))), .request (requestAt 0 "c"),
    .request (requestAt 1 ""), .proceed (.acquire 0), .proceed (.acquire 2), .proceed (.filter 2),
    .proceed (.read 0 (.ok "")), .proceed (.spawn 0 (.ok ())), .proceed (.exit 0 0),
    .proceed (.output 0 (Text.Utf8.encode printedText) []), .proceed (.filter 0),
    .proceed (.acquire 1), .proceed (.filter 1)]

/-- In that run the tool prints the candidates of the first position when it is asked about it. -/
theorem steady_refreshedRun : heldSite.Steady refreshedRun reportedAt := by
  intro before number stdout stderr later site call child code candidates parts played found _ _
    printed
  have reports : (Introspection.Exit.mk 0 (Text.Utf8.encode printedText) []).candidates =
      .ok (reportedAt (requestAt 0 "").position) :=
    Outcome.eq_ok_of_toOption (by decide +kernel)
  obtain ⟨rfl, ⟨rfl, rfl, rfl⟩, _⟩ : before = refreshedRun.take 15 ∧
      (number = 0 ∧ stdout = Text.Utf8.encode printedText ∧ stderr = []) ∧
        later = refreshedRun.drop 16 := by
    simpa [refreshedRun, List.cons_eq_append_iff] using parts
  obtain ⟨earlier, begun, current, next⟩ : ∃ earlier,
      heldSite.play (refreshedRun.take 3) = some earlier ∧
        earlier.manager.current = .ok (moduleState "App") ∧ earlier.service.next = 0 :=
    ⟨_, rfl, rfl, rfl⟩
  have started := startedWith_of_request begun current played
  obtain ⟨member, numbered⟩ := Service.mem_of_call?_eq_some found
  rw [(started.calls call member (numbered.trans next.symm)).1]
  by_cases succeeded : code = 0
  · rw [succeeded, reports] at printed
    exact (Except.ok.inj printed).symm
  · simp [Introspection.Exit.candidates, succeeded] at printed

/-- Whether a call that has ended had its candidates. -/
def hadCandidates (ended : Service.Ended) : Bool :=
  match ended.call.phase with
  | .filtering _ => true
  | _ => false

/-- The first call misses and is answered in the project at its beginning. The second, at the same
position, hits what the first has stored and is answered in the refreshed project, and in its own
session. The third hits what the cache held from the start. -/
theorem answers_ignore_cache_refreshed :
    ∃ last, heldSite.play refreshedRun = some last ∧
      last.manager.current = .ok (moduleState "Kit") ∧
      (∃ one ∈ last.service.ended, one.call.number = 0 ∧ one.call.hit? = some false ∧
        one.result = .ok [⟨"a", "", "App"⟩, ⟨"b", "", "Kit"⟩, ⟨"", "c", ""⟩]) ∧
      (∃ one ∈ last.service.ended, one.call.number = 1 ∧ one.call.hit? = some true ∧
        one.result = .ok [⟨"", "c", ""⟩, ⟨"b", "", "Kit"⟩, ⟨"a", "", "App"⟩]) ∧
      ∃ one ∈ last.service.ended, one.call.number = 2 ∧ one.call.hit? = some true ∧
        one.result = .ok [⟨"b", "", "Kit"⟩] := by
  have shown : (heldSite.play refreshedRun).map (fun last => (last.manager.state,
      last.service.ended.map fun one =>
        (one.call.number, one.call.hit?, hadCandidates one, one.result.isOk))) =
      some (some (moduleState "Kit"), [(2, some true, true, true), (0, some false, true, true),
        (1, some true, true, true)]) := by
    decide +kernel
  obtain ⟨last, played, seen⟩ := Option.map_eq_some_iff.mp shown
  obtain ⟨state, results⟩ := Prod.mk.inj seen
  have apart : Signature.ofRequest (requestAt 0 "") ≠ Signature.ofRequest (requestAt 1 "") := by
    decide +kernel
  have session : Signature.ofRequest (requestAt 0 "c") = Signature.ofRequest (requestAt 0 "") := rfl
  have place : (requestAt 0 "c").position = (requestAt 0 "").position := rfl
  have distinct : ∀ request ∈ requests refreshedRun, ∀ other ∈ requests refreshedRun,
      Signature.ofRequest request = Signature.ofRequest other →
      request.position = other.position := by
    simp [requests, refreshedRun, session, place, apart, apart.symm]
  have cached : ∀ request ∈ requests refreshedRun, ∀ candidates,
      heldSite.service.cache.get? (Signature.ofRequest request) = some candidates →
      candidates = reportedAt request.position := by
    have held : heldSite.service.cache.entries = [⟨Signature.ofRequest (requestAt 1 ""),
      reportedAt (requestAt 1 "").position, 0⟩] := rfl
    simp [requests, refreshedRun, Cache.get?, Cache.entry?, held, session, apart.symm]
  have ends (number : Service.CallNumber) (hit : Bool)
      (listed : (number, some hit, true, true) ∈ last.service.ended.map fun one =>
        (one.call.number, one.call.hit?, hadCandidates one, one.result.isOk)) :
      ∃ one ∈ last.service.ended, one.call.number = number ∧ one.call.hit? = some hit ∧
        (∃ candidates, one.call.phase = .filtering candidates) ∧
          one.result ≠ .error .cancelled := by
    obtain ⟨one, member, seen⟩ := List.mem_map.mp listed
    simp only [Prod.mk.injEq] at seen
    obtain ⟨numbered, looked, had, succeeded⟩ := seen
    refine ⟨one, member, numbered, looked, ?_, ?_⟩
    · unfold hadCandidates at had
      split at had
      · next candidates filters => exact ⟨candidates, filters⟩
      · contradiction
    · intro cancelled
      simp [cancelled, Except.isOk, Except.toBool] at succeeded
  obtain ⟨requested, _⟩ := answers_ignore_cache played distinct cached steady_refreshedRun
  obtain ⟨first, _⟩ := requested (refreshedRun.take 3) (requestAt 0 "") (refreshedRun.drop 4) _
    (moduleState "App") rfl rfl rfl
  obtain ⟨second, _⟩ := requested (refreshedRun.take 7) (requestAt 0 "c") (refreshedRun.drop 8) _
    (moduleState "Kit") rfl rfl rfl
  obtain ⟨third, _⟩ := requested (refreshedRun.take 8) (requestAt 1 "") (refreshedRun.drop 9) _
    (moduleState "Kit") rfl rfl rfl
  refine ⟨last, played, by rw [Project.Manager.current, state], ?_, ?_, ?_⟩
  · obtain ⟨one, member, numbered, looked, had, given⟩ := ends 0 false (by simp [results])
    refine ⟨one, member, numbered, looked, ?_⟩
    rw [(first one member numbered had).resolve_left given]
    exact Outcome.eq_ok_of_toOption (by decide +kernel)
  · obtain ⟨one, member, numbered, looked, had, given⟩ := ends 1 true (by simp [results])
    refine ⟨one, member, numbered, looked, ?_⟩
    rw [(second one member numbered had).resolve_left given]
    exact Outcome.eq_ok_of_toOption (by decide +kernel)
  · obtain ⟨one, member, numbered, looked, had, given⟩ := ends 2 true (by simp [results])
    refine ⟨one, member, numbered, looked, ?_⟩
    rw [(third one member numbered had).resolve_left given]
    exact Outcome.eq_ok_of_toOption (by decide +kernel)

end Site

end CompletionServer
