import CompletionServer.Proofs.Outcome
import CompletionServer.Proofs.Service.Course
import CompletionServer.Proofs.Text.Damage

/-!
# From the file to the command line

A call that finds nothing in the cache reads its buffer and asks for the tool with what it read. So
the text on the command line is the text of the file, byte for byte if the file holds a text, and
the offset that stands beside it means the same place in both. Where the file is damaged, only the
damage is read as something else.
-/

namespace CompletionServer.Service

/-! ## Reading -/

/-- A path names a file that can be read and holds some bytes. -/
structure Holds (system : Files.System) (filePath : String) (bytes : List UInt8) : Prop where
  isFile : system.isFile (Path.ofString filePath) = .ok true
  read : system.read (Path.ofString filePath) = .ok bytes

/-- The bytes of a file are read as a text, whatever they are. -/
theorem Holds.readBuffer_eq {system : Files.System} {filePath : String} {bytes : List UInt8}
    (holds : Holds system filePath bytes) :
    readBuffer system filePath = .ok (Text.Utf8.decodeLossy bytes) := by
  unfold readBuffer
  dsimp only
  rw [holds.isFile]
  dsimp only
  rw [holds.read]

/-- A text that a file holds is read unchanged. -/
theorem Holds.readBuffer_encode {system : Files.System} {filePath text : String}
    (holds : Holds system filePath (Text.Utf8.encode text)) :
    readBuffer system filePath = .ok text := by
  rw [holds.readBuffer_eq, Text.Utf8.decodeLossy_encode]

/-! ## What is asked for -/

/-- A call has read nothing but some contents, and asks for the tool with these. The text is the
fourth word of the command line. -/
structure Carries (number : CallNumber) (contents : String) (service : Service) : Prop where
  starting : ∀ call ∈ service.calls, call.number = number →
    ∀ given, call.phase = .starting given → given = contents
  spawned : ∀ command : List String, .spawned number command ∈ service.log →
    command[3]? = some contents

namespace Carries

variable {number : CallNumber} {contents : String} {service next : Service} {call : Call}
  {event : Event}

/-- Calls in flight were there before or are not about to start the tool with anything else, and
notes were there before or ask for the tool with the contents. -/
theorem of_change (carries : Carries number contents service) (notes : List Note)
    (calls : ∀ call ∈ next.calls, call ∈ service.calls ∨
      (call.number = number → ∀ given, call.phase = .starting given → given = contents))
    (log : next.log = service.log ++ notes)
    (asks : ∀ command : List String, .spawned number command ∈ notes →
      command[3]? = some contents) :
    Carries number contents next where
  starting := by
    intro call inCalls own
    rcases calls call inCalls with old | new
    · exact carries.starting call old own
    · exact new own
  spawned := by
    intro command noted
    rw [log] at noted
    rcases List.mem_append.mp noted with old | new
    · exact carries.spawned command old
    · exact asks command new

/-- One call comes into a phase in which it is not about to start the tool with anything else. -/
theorem of_replaced (carries : Carries number contents service) (member : call ∈ service.calls)
    (new : Call) (same : new.number = call.number)
    (starts : new.number = number → ∀ given, new.phase = .starting given → given = contents)
    (notes : List Note) (calls : next.calls = replaced service.calls new)
    (log : next.log = service.log ++ notes)
    (asks : ∀ command : List String, .spawned number command ∈ notes →
      command[3]? = some contents) :
    Carries number contents next := by
  refine carries.of_change notes (fun other inCalls => ?_) log asks
  rw [calls] at inCalls
  rcases (mem_replaced member same).mp inCalls with rfl | ⟨old, _⟩
  · exact .inr starts
  · exact .inl old

/-- A command line that a call is about to ask for has the contents. -/
theorem asks (carries : Carries number contents service) (member : call ∈ service.calls)
    {given : String} (starts : call.phase = .starting given) (command : List String)
    (noted : .spawned number command ∈
      [Note.spawned call.number (service.commandFor call given)]) :
    command[3]? = some contents := by
  obtain ⟨rfl, rfl⟩ := Note.spawned.inj (List.mem_singleton.mp noted)
  rw [carries.starting call member rfl given starts]
  rfl

/-- Every transition keeps a call to what it reads. -/
theorem transition (carries : Carries number contents service)
    (change : Transition service event next)
    (reads : ∀ outcome, event = .read number outcome → outcome = .ok contents) :
    Carries number contents next := by
  have nothing : service.log = service.log ++ [] := (List.append_nil _).symm
  cases change with
  | enter state request =>
    refine carries.of_change [] (fun call inCalls => ?_) nothing (by simp)
    rcases List.mem_append.mp inCalls with old | new
    · exact .inl old
    · rw [List.mem_singleton.mp new]
      exact .inr (by simp)
  | @acquire call found =>
    have member := (mem_of_call?_eq_some found).1
    rw [acquire_eq_counted]
    refine carries.of_replaced member (call.looked (service.cache.get? call.signature)) rfl ?_ _ rfl
      rfl (by simp)
    cases service.cache.get? call.signature <;> simp [Call.looked]
  | @read call given found =>
    have member := (mem_of_call?_eq_some found).1
    refine carries.of_replaced member { call with phase := .starting given } rfl ?_ [] rfl nothing
      (by simp)
    rintro rfl other starts
    obtain rfl := Phase.starting.inj starts
    exact Except.ok.inj (reads (.ok given) rfl)
  | @spawn call given found starts =>
    have member := (mem_of_call?_eq_some found).1
    exact carries.of_replaced member { call with phase := .running service.children.length } rfl
      (by simp) [.spawned call.number (service.commandFor call given)] rfl rfl
      (carries.asks member starts)
  | exit => exact carries.of_change [] (fun _ => .inl) nothing (by simp)
  | @output call _ _ _ _ candidates found =>
    have member := (mem_of_call?_eq_some found).1
    exact carries.of_replaced member { call with phase := .filtering candidates } rfl (by simp) []
      rfl nothing (by simp)
  | @kill call child _ failure found =>
    have member := (mem_of_call?_eq_some found).1
    exact carries.of_replaced member { call with phase := .reaping child failure } rfl (by simp)
      [.killed child, .waited child] rfl rfl (by simp)
  | @fail call _ _ notes failure found asked _ _ happens =>
    have member := (mem_of_call?_eq_some found).1
    obtain ⟨guards, _, rfl⟩ := finish?_eq_some_iff.mp happens
    refine carries.of_change (notes ++ [.completed call.number (.ofResult (.error failure))
      (call.hit? == some true)]) (fun _ inCalls => .inl (List.mem_of_mem_filter inCalls))
      (List.append_assoc _ _ _) fun command noted => ?_
    have inNotes : .spawned number command ∈ notes := by simpa using noted
    rcases asked with rfl | ⟨given, starts, rfl⟩
    · contradiction
    · exact carries.asks member starts command inNotes
  | @filter call _ _ _ _ happens =>
    obtain ⟨cache, guards, notes, result, stored, rfl⟩ := exists_of_filter?_eq_some happens
    refine carries.of_change (notes ++ [.completed call.number (.ofResult result)
      (call.hit? == some true)]) (fun _ inCalls => .inl (List.mem_of_mem_filter inCalls))
      (List.append_assoc _ _ _) fun command noted => ?_
    rcases stored with rfl | rfl <;> simp at noted
  | close =>
    unfold Service.close
    split
    · exact carries.of_change [] (fun _ => .inl) nothing (by simp)
    · exact carries

end Carries

/-- In every run a request's call, if it reads its buffer as some contents, asks for the tool with
these contents and the request's offset. -/
theorem command_of_reads {settings : Settings} {overrides : Overrides} {events : List Event}
    {before last : Service} {state : Project.State} {request : Request} {contents : String}
    (reachable : Reachable (create settings overrides) before)
    (played : (before.enter state request).play events = some last)
    (reads : ∀ outcome, .read before.next outcome ∈ events → outcome = .ok contents)
    {command : List String} (asked : .spawned before.next command ∈ last.log) :
    command = Introspection.command last.setup.binary contents request.byteOffset
      (Introspection.compilerArguments state request.filePath last.setup.hint) := by
  have guarded := reachable.guarded
  have numbered := reachable.numbered
  have fresh : Carries before.next contents (before.enter state request) := by
    refine ⟨fun call inCalls own given starts => ?_, fun command noted => ?_⟩
    · rcases List.mem_append.mp inCalls with old | new
      · exact absurd own (Nat.ne_of_lt (guarded.number_lt call old))
      · rw [List.mem_singleton.mp new] at starts
        cases starts
    · exact absurd (numbered.spawned _ command noted) (Nat.lt_irrefl _)
  have started : last.StartedWith before.next request state :=
    invariant_of_play played (fun _ service => service.StartedWith before.next request state)
      (.enter guarded numbered state request) fun _ started change => started.stems change.stems
  have carries : (∀ outcome, .read before.next outcome ∈ events → outcome = .ok contents) →
      Carries before.next contents last := by
    refine invariant_of_play played (fun front service =>
      (∀ outcome, .read before.next outcome ∈ front → outcome = .ok contents) →
        Carries before.next contents service) (fun _ => fresh) ?_
    intro front service next event _ holds change reads
    have earlier := holds fun outcome listed => reads outcome (List.mem_append_left _ listed)
    apply earlier.transition change
    intro outcome same
    exact reads outcome (same ▸ List.mem_append_right _ List.mem_cons_self)
  obtain ⟨given, built⟩ := started.spawned command asked
  have text := (carries reads).spawned command asked
  rw [built] at text ⊢
  rw [Option.some.inj text]

/-! ## A request taken to its end -/

/-- What is in the log stays there. -/
theorem Transition.log_prefix {service next : Service} {event : Event}
    (change : Transition service event next) : service.log <+: next.log := by
  cases change with
  | enter | read | exit | output => exact List.prefix_rfl
  | acquire =>
    rw [acquire_eq_counted]
    exact List.prefix_append _ _
  | spawn | kill => exact List.prefix_append _ _
  | fail _ _ _ _ _ _ happens =>
    obtain ⟨guards, _, rfl⟩ := finish?_eq_some_iff.mp happens
    exact (List.prefix_append _ _).trans (List.prefix_append _ _)
  | filter _ _ happens =>
    obtain ⟨cache, guards, notes, result, _, rfl⟩ := exists_of_filter?_eq_some happens
    exact (List.prefix_append _ _).trans (List.prefix_append _ _)
  | close =>
    unfold Service.close
    split <;> exact List.prefix_rfl

/-- A run only adds to the log. -/
theorem log_prefix_of_play {service last : Service} {events : List Event}
    (played : service.play events = some last) : service.log <+: last.log :=
  invariant_of_play played (fun _ later => service.log <+: later.log) List.prefix_rfl
    fun _ grown change => grown.trans change.log_prefix

/-- Surroundings answer from the same files for ever. -/
theorem system_respond (surroundings : Surroundings) (service : Service) (call : Call) :
    (surroundings.respond service call).2.system = surroundings.system := by
  have next : surroundings.next.2.system = surroundings.system := by
    unfold Surroundings.next
    split <;> rfl
  unfold Surroundings.respond
  split
  · rfl
  · rfl
  · split
    · split
      · next later choice => rwa [choice] at next
      · next behaviour later _ choice => rwa [choice] at next
    · rfl
  · split <;> rfl
  · rfl
  · rfl

/-- Where a call's buffer is read, it is read from the files around. -/
theorem outcome_of_respond {surroundings : Surroundings} {service : Service} {call : Call}
    {number : CallNumber} {outcome : Except Failure String}
    (reads : .read number outcome ∈ (surroundings.respond service call).1) :
    outcome = readBuffer surroundings.system call.request.filePath := by
  unfold Surroundings.respond at reads
  split at reads
  · simp at reads
  · simp only [List.mem_singleton, Event.read.injEq] at reads
    exact reads.2
  · split at reads
    · split at reads <;> simp at reads
    · simp at reads
  · split at reads <;> simp at reads
  · simp at reads
  · simp at reads

/-- A call that is driven goes through a run, in which its buffer is read from the files around. -/
theorem exists_play_of_drive (surroundings : Surroundings) (service : Service) (number : CallNumber)
    (phases : Nat) :
    ∃ events, service.play events = some (drive surroundings service number phases).2 ∧
      ∀ request state, service.StartedWith number request state →
        ∀ outcome, .read number outcome ∈ events →
          outcome = readBuffer surroundings.system request.filePath := by
  induction phases generalizing surroundings service with
  | zero => exact ⟨[], rfl, by simp⟩
  | succ phases ih =>
    rw [drive]
    cases found : service.call? number with
    | none => exact ⟨[], rfl, by simp⟩
    | some call =>
      simp only
      split
      · next next played =>
        obtain ⟨events, later, reads⟩ := ih (surroundings.respond service call).2 next
        refine ⟨(surroundings.respond service call).1 ++ events, ?_, ?_⟩
        · exact (Machine.play_append_of_play played events).trans later
        · intro request state started outcome listed
          rcases List.mem_append.mp listed with own | after
          · obtain ⟨member, same⟩ := mem_of_call?_eq_some found
            rw [outcome_of_respond own, (started.calls call member same).1]
          · have onward : next.StartedWith number request state :=
              invariant_of_play played (fun _ service => service.StartedWith number request state)
                started fun _ started change => started.stems change.stems
            rw [reads request state onward outcome after, system_respond]
      · exact ⟨[], rfl, by simp⟩

/-- Driving a call only adds to the log. -/
theorem log_prefix_of_drive (surroundings : Surroundings) (service : Service) (number : CallNumber)
    (phases : Nat) : service.log <+: (drive surroundings service number phases).2.log := by
  obtain ⟨events, played, _⟩ := exists_play_of_drive surroundings service number phases
  exact log_prefix_of_play played

namespace InFlight

variable {surroundings : Surroundings} {service next : Service} {call : Call} {contents : String}
  {phases : Nat}

/-- A call is driven by one round of events and then from where it has come. -/
theorem drive_succ (inFlight : service.InFlight call)
    (plays : service.play (surroundings.respond service call).1 = some next) :
    drive surroundings service call.number (phases + 1) =
      drive (surroundings.respond service call).2 next call.number phases := by
  rw [drive, inFlight.found]
  simp only [plays]

/-- A call that has read its buffer asks for the tool, if there is time for it. -/
theorem asks_of_starting (inFlight : service.InFlight call)
    (starts : call.phase = .starting contents) (allowed : service.allowsStart = true) :
    .spawned call.number (service.commandFor call contents) ∈
      (drive surroundings service call.number (phases + 1)).2.log := by
  have asked : ∃ next, service.play (surroundings.respond service call).1 = some next ∧
      .spawned call.number (service.commandFor call contents) ∈ next.log := by
    by_cases refusal : ∃ fault, surroundings.next.1 = .refuses fault
    · obtain ⟨fault, refused⟩ := refusal
      have noted : (service.note [.spawned call.number (service.commandFor call contents)]).InFlight
          call := inFlight.of_same rfl rfl rfl rfl
      obtain ⟨next, ends, _⟩ :=
        noted.finish (.error (Introspection.startFailure service.setup.binary fault))
      refine ⟨next, ?_, ?_⟩
      · rw [respond_of_refused starts allowed refused]
        simpa [play, step, inFlight.found, starts, allowed] using ends
      · obtain ⟨guards, _, rfl⟩ := finish?_eq_some_iff.mp ends
        simp [note]
    · have accepted : ∀ fault, surroundings.next.1 ≠ .refuses fault := not_exists.mp refusal
      refine ⟨(service.note [.spawned call.number (service.commandFor call contents)]).spawned call,
        ?_, ?_⟩
      · rw [respond_of_started starts allowed accepted]
        simp [play, step, inFlight.found, starts, allowed]
      · simp [note, spawned, withCall]
  obtain ⟨next, plays, noted⟩ := asked
  rw [inFlight.drive_succ plays]
  exact (log_prefix_of_drive _ next _ _).subset noted

/-- A call that found nothing asks for the tool with what its buffer is read as. -/
theorem asks_of_reading (inFlight : service.InFlight call) (reads : call.phase = .reading)
    (allowed : service.allowsStart = true)
    (buffer : readBuffer surroundings.system call.request.filePath = .ok contents) :
    .spawned call.number (service.commandFor call contents) ∈
      (drive surroundings service call.number (phases + 2)).2.log := by
  have plays : service.play (surroundings.respond service call).1 =
      some (service.withCall { call with phase := .starting contents }) := by
    simp [Surroundings.respond, reads, buffer, play, step, inFlight.found]
  rw [inFlight.drive_succ plays]
  exact (inFlight.advance (.read inFlight.found reads) (by simp)).asks_of_starting rfl allowed

/-- A call that gets its lock and finds nothing asks for the tool with what its buffer is read
as. -/
theorem asks_of_waiting (inFlight : service.InFlight call) (waits : call.phase = .waiting)
    (free : service.guards.isFree call.lock = true)
    (missed : service.cache.get? call.signature = none) (allowed : service.allowsStart = true)
    (buffer : readBuffer surroundings.system call.request.filePath = .ok contents) :
    .spawned call.number (service.commandFor call contents) ∈
      (drive surroundings service call.number (phases + 3)).2.log := by
  have plays :
      service.play (surroundings.respond service call).1 = some (service.acquire call) := by
    simp [Surroundings.respond, waits, play, step, inFlight.found, free]
  have responds : (surroundings.respond service call).2 = surroundings := by
    simp [Surroundings.respond, waits]
  have looked := inFlight.acquire free
  have setup : (service.acquire call).setup = service.setup := by
    rw [acquire_eq_counted]
    rfl
  have command : (service.acquire call).commandFor (call.looked none) contents =
      service.commandFor call contents := by
    rw [commandFor, commandFor, setup]
    rfl
  have timely : (service.acquire call).allowsStart = true := by
    rw [allowsStart, setup]
    exact allowed
  rw [missed] at looked
  rw [inFlight.drive_succ plays, responds, ← command]
  exact looked.asks_of_reading rfl timely buffer

end InFlight

/-- A request that finds nothing in the cache, while no call on its signature works and there is
time for the tool, asks for it once, with what its buffer is read as. -/
theorem complete_asks_iff {settings : Settings} {overrides : Overrides}
    {surroundings : Surroundings} {service : Service} {state : Project.State} {request : Request}
    {contents : String} (reachable : Reachable (create settings overrides) service)
    (free : ∀ other ∈ service.calls, other.signature = Signature.ofRequest request → ¬ other.Works)
    (missed : service.cache.get? (Signature.ofRequest request) = none)
    (allowed : service.allowsStart = true)
    (buffer : readBuffer surroundings.system request.filePath = .ok contents)
    (command : List String) :
    .spawned service.next command ∈ (complete surroundings service (some state) request).2.2.log ↔
      command = service.commandFor (service.arrival state request) contents := by
  have guarded := reachable.guarded
  have numbered := reachable.numbered
  have taken : (complete surroundings service (some state) request).2.2 =
      (drive surroundings (service.enter state request) service.next phaseLimit).2 := by
    simp [complete, completeAll]
  rw [taken]
  constructor
  · intro asked
    obtain ⟨events, played, reads⟩ :=
      exists_play_of_drive surroundings (service.enter state request) service.next phaseLimit
    have setup :
        (drive surroundings (service.enter state request) service.next phaseLimit).2.setup =
          service.setup :=
      invariant_of_play played (fun _ later => later.setup = service.setup) rfl
        fun _ same change => change.stems.setup.trans same
    have started := StartedWith.enter guarded numbered state request
    have built := command_of_reads reachable played
      (fun outcome listed => (reads request state started outcome listed).trans buffer) asked
    rw [built, setup]
    rfl
  · rintro rfl
    exact (InFlight.of_arrival guarded numbered state request).asks_of_waiting rfl
      (guarded.isFree_of_arrival free) missed allowed buffer

/-- A command line gives the tool a text, and an offset in its bytes. -/
def Passes (command : List String) (text : String) (offset : Nat) : Prop :=
  ∃ binary arguments,
    command = [binary, "complete", "--text", text, "--offset", toString offset, "--"] ++ arguments

/-- The text of a buffer reaches the tool unchanged, and damage is local.

- In every run, if a request's file holds the bytes of a text whenever its call reads it, every
  command line that the call asks for passes this text and the request's offset.
- A request that is taken to its end while no other call on its signature works, that finds nothing
  in the cache and has time for the tool, asks for exactly one such command line.
- A file that holds some bytes and the bytes of a text, before or behind them, is read as what the
  bytes are read as alone and the text, in this order.

This holds for every text: with any characters, line ends and byte order marks. -/
theorem buffer_reaches_tool_unchanged :
    (∀ (settings : Settings) (overrides : Overrides) (before last : Service) (events : List Event)
      (state : Project.State) (request : Request) (text : String),
      Reachable (create settings overrides) before →
      before.play (.enter state request :: events) = some last →
      (∀ outcome, .read before.next outcome ∈ events → ∃ system,
        Holds system request.filePath (Text.Utf8.encode text) ∧
          outcome = readBuffer system request.filePath) →
      ∀ command, .spawned before.next command ∈ last.log →
        Passes command text request.byteOffset) ∧
    (∀ (settings : Settings) (overrides : Overrides) (service : Service)
      (surroundings : Surroundings) (state : Project.State) (request : Request) (text : String),
      Reachable (create settings overrides) service →
      (∀ other ∈ service.calls, other.signature = Signature.ofRequest request → ¬ other.Works) →
      service.cache.get? (Signature.ofRequest request) = none → service.allowsStart = true →
      Holds surroundings.system request.filePath (Text.Utf8.encode text) →
      ∃ command, Passes command text request.byteOffset ∧
        ∀ other, .spawned service.next other ∈
          (complete surroundings service (some state) request).2.2.log ↔ other = command) ∧
    ∀ (bytes : List UInt8) (text filePath : String) (alone before behind : Files.System),
      Holds alone filePath bytes → Holds before filePath (Text.Utf8.encode text ++ bytes) →
      Holds behind filePath (bytes ++ Text.Utf8.encode text) →
      ∃ read, readBuffer alone filePath = .ok read ∧
        readBuffer before filePath = .ok (text ++ read) ∧
        readBuffer behind filePath = .ok (read ++ text) := by
  refine ⟨?_, ?_, ?_⟩
  · intro settings overrides before last events state request text reachable played reads command
      asked
    have contents : ∀ outcome, .read before.next outcome ∈ events → outcome = .ok text := by
      intro outcome listed
      obtain ⟨system, holds, rfl⟩ := reads outcome listed
      exact holds.readBuffer_encode
    exact ⟨_, _, command_of_reads reachable played contents asked⟩
  · intro settings overrides service surroundings state request text reachable free missed allowed
      holds
    refine ⟨service.commandFor (service.arrival state request) text, ⟨_, _, rfl⟩, ?_⟩
    exact complete_asks_iff reachable free missed allowed holds.readBuffer_encode
  · intro bytes text filePath alone before behind holds holdsBefore holdsBehind
    refine ⟨_, holds.readBuffer_eq, ?_, ?_⟩
    · rw [holdsBefore.readBuffer_eq, Text.Utf8.decodeLossy_encode_append]
    · rw [holdsBehind.readBuffer_eq, Text.Utf8.decodeLossy_append_encode]

/-- A file system with one file. -/
def oneFile (bytes : List UInt8) : Files.System :=
  ⟨⟨[(["a"], .file bytes)]⟩, [], "", []⟩

/-- The file system with one file holds its bytes. -/
theorem holds_oneFile (bytes : List UInt8) : Holds (oneFile bytes) "/a" bytes :=
  ⟨by with_unfolding_all rfl, by with_unfolding_all rfl⟩

/-- A text with a byte order mark, both characters of a line end, and characters of two and of four
bytes. -/
def markedText : String := "\ufeffé\r\n𝄞"

/-- A request about that text. -/
def markedRequest : Request := { (default : Request) with filePath := "/a", byteOffset := 5 }

/-- The text reaches the tool in a run and in a request that is taken to its end, and is read after
a character that was cut off. -/
theorem buffer_reaches_tool_unchanged_marked :
    (∃ last command, (create .standard {}).play [.enter default markedRequest, .acquire 0,
        .read 0 (readBuffer (oneFile (Text.Utf8.encode markedText)) "/a"), .spawn 0 (.ok ())] =
          some last ∧
      .spawned 0 command ∈ last.log ∧ Passes command markedText 5) ∧
    (∃ command, Passes command markedText 5 ∧ ∀ other, .spawned 0 other ∈
      (complete ⟨oneFile (Text.Utf8.encode markedText), [], []⟩ (create .standard {}) (some default)
        markedRequest).2.2.log ↔ other = command) ∧
    readBuffer (oneFile ([0xf0, 0x9f] ++ Text.Utf8.encode markedText)) "/a" =
      .ok ("\ufffd" ++ markedText) := by
  obtain ⟨runs, completes, damaged⟩ := buffer_reaches_tool_unchanged
  have holds := holds_oneFile (Text.Utf8.encode markedText)
  refine ⟨?_, ?_, ?_⟩
  · have asks : ∃ last command, (create .standard {}).play [.enter default markedRequest,
        .acquire 0, .read 0 (readBuffer (oneFile (Text.Utf8.encode markedText)) "/a"),
        .spawn 0 (.ok ())] = some last ∧ .spawned 0 command ∈ last.log := by
      rw [holds.readBuffer_encode]
      exact ⟨_, _, rfl, .tail _ (.head _)⟩
    obtain ⟨last, command, played, asked⟩ := asks
    refine ⟨last, command, played, asked, runs _ _ _ last _ _ markedRequest markedText .start played
      ?_ command asked⟩
    intro outcome listed
    have own : (create .standard {}).next = 0 ∧
        outcome = readBuffer (oneFile (Text.Utf8.encode markedText)) "/a" := by
      simpa using listed
    exact ⟨_, holds, own.2⟩
  · exact completes _ _ _ ⟨oneFile (Text.Utf8.encode markedText), [], []⟩ default markedRequest
      markedText .start (by simp [create]) rfl (by decide) holds
  · obtain ⟨read, alone, _, behind⟩ := damaged [0xf0, 0x9f] markedText "/a" _ _ _
      (holds_oneFile _) (holds_oneFile _) (holds_oneFile _)
    have replaced : readBuffer (oneFile [0xf0, 0x9f]) "/a" = .ok "\ufffd" :=
      Outcome.eq_ok_of_toOption (by decide +kernel)
    obtain rfl := Except.ok.inj (replaced.symm.trans alone)
    exact behind

end CompletionServer.Service
