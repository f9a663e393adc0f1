import CompletionServer.Proofs.Service.Guards
import CompletionServer.Proofs.Service.Transition

/-!
# One working call for a signature

In every service that comes about the guards serve the calls in flight, whatever the order in which
calls came, took their locks, failed, were given up or ended. So a signature has one lock for all
its calls, at most one of them is between looking into the cache and leaving, at most one child
lives for it that was not abandoned, a call that ends always finds its share of the guards, and an
idle service keeps no guards at all.
-/

namespace CompletionServer.Service

/-- A call that has looked into the cache works. -/
theorem Call.works_looked (call : Call) (found : Option (List Candidate)) :
    (call.looked found).Works := by
  cases found with
  | none => simp [Works, looked]
  | some candidates => simp [Works, looked]

/-! ## The guards of a service -/

/-- The guards of a service serve its calls, and the next call will have a new number. -/
structure Guarded (service : Service) : Prop where
  serves : service.guards.Serves service.calls
  number_lt : ∀ call ∈ service.calls, call.number < service.next

namespace Guarded

variable {service next : Service} {call : Call}

/-- An idle service is guarded. -/
theorem create (settings : Settings) (overrides : Overrides) :
    (create settings overrides).Guarded :=
  ⟨.empty, by simp [Service.create]⟩

/-- A call in flight is found by its number. -/
theorem call?_eq_some (guarded : service.Guarded) (member : call ∈ service.calls) :
    service.call? call.number = some call := by
  cases found : service.call? call.number with
  | none => simpa using List.find?_eq_none.mp found call member
  | some other =>
    obtain ⟨inCalls, same⟩ := mem_of_call?_eq_some found
    rw [eq_of_number_eq guarded.serves.numbers inCalls member same]

/-- A call that has come has a new number and the lock of its signature. -/
theorem enter (guarded : service.Guarded) (state : Project.State) (request : Request) :
    (service.enter state request).Guarded := by
  have fresh : service.next ∉ service.calls.map (·.number) := by
    intro taken
    obtain ⟨other, member, same⟩ := List.mem_map.mp taken
    exact absurd same (Nat.ne_of_lt (guarded.number_lt other member))
  rw [enter_eq]
  refine ⟨guarded.serves.enter (service.arrival state request) fresh rfl rfl,
    fun other member => ?_⟩
  rcases List.mem_append.mp member with old | new
  · exact Nat.lt_succ_of_lt (guarded.number_lt other old)
  · rw [List.mem_singleton.mp new]
    exact Nat.lt_succ_self _

/-- A replaced call keeps its number below the next. -/
theorem number_lt_of_mem_replaced (guarded : service.Guarded) {old new : Call}
    (member : old ∈ service.calls) (same : new.number = old.number) :
    ∀ other ∈ replaced service.calls new, other.number < service.next := by
  intro other inReplaced
  rcases (mem_replaced member same).mp inReplaced with rfl | ⟨inCalls, _⟩
  · rw [same]
    exact guarded.number_lt old member
  · exact guarded.number_lt other inCalls

/-- A call at work that comes into another phase of its work keeps the guards as they are. -/
theorem advance {phase : Phase} {notes : List Note} (guarded : service.Guarded)
    (advances : service.Advances next call phase notes) (works : phase ≠ .waiting) :
    next.Guarded := by
  rw [advances.frame]
  exact ⟨guarded.serves.replace advances.member rfl (iff_of_true works advances.worked),
    guarded.number_lt_of_mem_replaced advances.member rfl⟩

/-- A call that takes its free lock is guarded. -/
theorem acquire (guarded : service.Guarded) (member : call ∈ service.calls)
    (free : service.guards.isFree call.lock = true) : (service.acquire call).Guarded := by
  obtain ⟨hits, misses, acquired⟩ := acquire_eq service call
  rw [acquired]
  exact ⟨guarded.serves.hold member free rfl (Call.works_looked call _),
    guarded.number_lt_of_mem_replaced member rfl⟩

/-- The guards always let a call go. -/
theorem leave?_isSome (guarded : service.Guarded) (member : call ∈ service.calls) :
    ((service.guards.release call.lock call.number).leave? call.signature).isSome = true := by
  obtain ⟨guards, left, _⟩ := guarded.serves.leave member
  rw [left, Option.isSome_some]

/-- After a call has ended the others are guarded. -/
theorem finish (guarded : service.Guarded) (member : call ∈ service.calls)
    {result : Except Failure (List Item)} (ends : service.finish? call result = some next) :
    next.Guarded := by
  obtain ⟨guards, left, serves⟩ := guarded.serves.leave member
  obtain ⟨others, same, rfl⟩ := finish?_eq_some_iff.mp ends
  obtain rfl : guards = others := Option.some.inj (left.symm.trans same)
  exact ⟨serves, fun other remains => guarded.number_lt other (List.mem_filter.mp remains).1⟩

/-- What is written down or put into the cache does not touch the guards. -/
theorem store (guarded : service.Guarded) (call : Call) (candidates : List Candidate) :
    (service.store call candidates).Guarded := by
  obtain ⟨cache, log, stored⟩ := store_eq service call candidates
  rw [stored]
  exact ⟨guarded.serves, guarded.number_lt⟩

/-- A call that filters its candidates ends, and the others are guarded. -/
theorem filter (guarded : service.Guarded) (member : call ∈ service.calls)
    {candidates : List Candidate} (ends : service.filter? call candidates = some next) :
    next.Guarded := by
  rcases filter?_eq_some_iff.mp ends with ⟨fault, _, ends⟩ | ⟨items, _, ends⟩
  · exact guarded.finish member ends
  · refine (guarded.store call candidates).finish ?_ ends
    obtain ⟨cache, log, stored⟩ := store_eq service call candidates
    rw [stored]
    exact member

/-- Every transition keeps a service guarded. -/
theorem transition {event : Event} (guarded : service.Guarded)
    (change : Transition service event next) : next.Guarded := by
  cases change with
  | enter state request => exact guarded.enter state request
  | acquire found _ free => exact guarded.acquire (mem_of_call?_eq_some found).1 free
  | read found reads => exact guarded.advance (.read found reads) (by simp)
  | spawn found starts => exact guarded.advance (.spawn found starts) (by simp)
  | exit => exact ⟨guarded.serves, guarded.number_lt⟩
  | output found runs => exact guarded.advance (.output found runs _) (by simp)
  | kill failure found runs => exact guarded.advance (.kill found runs failure) (by simp)
  | fail notes _ found _ _ _ happens =>
    have noted : (service.note notes).Guarded := ⟨guarded.serves, guarded.number_lt⟩
    exact noted.finish (mem_of_call?_eq_some found).1 happens
  | filter found _ happens => exact guarded.filter (mem_of_call?_eq_some found).1 happens
  | close =>
    unfold close
    split
    · exact ⟨guarded.serves, guarded.number_lt⟩
    · exact guarded

end Guarded

/-- Every service that comes about from an idle one is guarded. -/
theorem Reachable.guarded {settings : Settings} {overrides : Overrides} {service : Service}
    (reachable : Reachable (create settings overrides) service) : service.Guarded :=
  reachable.invariant Guarded (.create settings overrides) Guarded.transition

/-! ## The children of a service -/

/-- A call in a phase runs a child, or waits for its end after it was killed. -/
def Phase.Awaits (phase : Phase) (place : ChildNumber) : Prop :=
  phase = .running place ∨ ∃ failure, phase = .reaping place failure

/-- A phase is concerned with one child at most. -/
theorem Phase.Awaits.unique {phase : Phase} {place other : ChildNumber}
    (awaits : phase.Awaits place) (alsoAwaits : phase.Awaits other) : place = other := by
  rcases awaits with rfl | ⟨failure, rfl⟩
  · simpa [Phase.Awaits] using alsoAwaits
  · simpa [Phase.Awaits] using alsoAwaits

/-- A call that is concerned with a child works. -/
theorem Phase.Awaits.works {call : Call} {place : ChildNumber}
    (awaits : call.phase.Awaits place) : call.Works := by
  intro waits
  simp [Phase.Awaits, waits] at awaits

/-- A call ended while it waited for the end of a killed child. If the child has not ended, the call
was given up once more. -/
def Abandoned (service : Service) (place : ChildNumber) : Prop :=
  ∃ ended ∈ service.ended, ∃ failure, ended.call.phase = .reaping place failure

/-- A call on a signature is concerned with a child, or was until it was given up once more. -/
def Attends (service : Service) (place : ChildNumber) (signature : String) : Prop :=
  (∃ call ∈ service.calls, call.phase.Awaits place ∧ call.signature = signature) ∨
    service.Abandoned place

/-- Every child that has not ended is attended for its signature. -/
def Attended (service : Service) : Prop :=
  ∀ ⦃place : ChildNumber⦄ ⦃child : Child⦄, service.children[place]? = some child →
    child.code = none → service.Attends place child.signature

namespace Attended

variable {service next : Service} {call : Call}

/-- Children stay attended when one call changes, if what that call attended is seen to, and every
child that lives after the change lived before, or is attended anew. -/
theorem of_change (attended : service.Attended)
    (calls : ∀ other ∈ service.calls, other ≠ call → other ∈ next.calls)
    (ended : ∀ one ∈ service.ended, one ∈ next.ended)
    (own : ∀ ⦃place child⦄, next.children[place]? = some child → child.code = none →
      call.phase.Awaits place → next.Attends place call.signature)
    (children : ∀ ⦃place child⦄, next.children[place]? = some child → child.code = none →
      (∃ before, service.children[place]? = some before ∧ before.code = none ∧
        before.signature = child.signature) ∨ next.Attends place child.signature) :
    next.Attended := by
  intro place child there lives
  rcases children there lives with ⟨before, thereBefore, livedBefore, same⟩ | new
  · rcases attended thereBefore livedBefore with ⟨other, member, awaits, called⟩ | abandoned
    · by_cases changes : other = call
      · subst changes
        rw [← same, ← called]
        exact own there lives awaits
      · exact .inl ⟨other, calls other member changes, awaits, called.trans same⟩
    · obtain ⟨one, inEnded, reaping⟩ := abandoned
      exact .inr ⟨one, ended one inEnded, reaping⟩
  · exact new

/-- Children stay attended when a call that is concerned with no living child changes, and the
children stay as they are. -/
theorem of_idle (attended : service.Attended)
    (calls : ∀ other ∈ service.calls, other ≠ call → other ∈ next.calls)
    (ended : next.ended = service.ended) (children : next.children = service.children)
    (idle : ∀ place, call.phase.Awaits place → (service.codeOf place).isSome = true) :
    next.Attended := by
  refine attended.of_change calls (by simp [ended]) (fun place child there lives awaits => ?_)
    fun place child there lives => .inl ⟨child, children ▸ there, lives, rfl⟩
  have exited := idle place awaits
  rw [children] at there
  simp [codeOf, there, lives] at exited

/-- Replacing a call leaves the other calls. -/
theorem mem_replaced_of_ne (guarded : service.Guarded) (member : call ∈ service.calls)
    (new : Call) (same : new.number = call.number) :
    ∀ other ∈ service.calls, other ≠ call → other ∈ replaced service.calls new := by
  intro other inCalls differs
  refine (mem_replaced member same).mpr (.inr ⟨inCalls, fun number => differs ?_⟩)
  exact eq_of_number_eq guarded.serves.numbers inCalls member (number.trans same)

/-- The end of a call leaves the other calls and the children. A call that ends while it runs a
child has seen its end; one that waits for the end of its killed child may abandon it. -/
theorem finish (attended : service.Attended) (guarded : service.Guarded)
    (member : call ∈ service.calls) {result : Except Failure (List Item)}
    (settled : ∀ place, call.phase = .running place → (service.codeOf place).isSome = true)
    (ends : service.finish? call result = some next) : next.Attended := by
  obtain ⟨guards, _, rfl⟩ := finish?_eq_some_iff.mp ends
  have others : ∀ other ∈ service.calls, other ≠ call →
      other ∈ service.calls.filter (·.number ≠ call.number) := by
    intro other inCalls differs
    refine List.mem_filter.mpr ⟨inCalls, decide_eq_true fun number => differs ?_⟩
    exact eq_of_number_eq guarded.serves.numbers inCalls member number
  refine attended.of_change others (fun one inEnded => List.mem_append_left _ inEnded)
    (fun place child there lives awaits => ?_)
    fun place child there lives => .inl ⟨child, there, lives, rfl⟩
  · rcases awaits with running | ⟨failure, reaping⟩
    · have exited := settled place running
      simp [codeOf, there, lives] at exited
    · exact .inr ⟨⟨call, result⟩, by simp, failure, reaping⟩

/-- A call that filters its candidates leaves the other calls and the children. -/
theorem filter (attended : service.Attended) (guarded : service.Guarded)
    (member : call ∈ service.calls) {candidates : List Candidate}
    (filters : call.phase = .filtering candidates)
    (ends : service.filter? call candidates = some next) : next.Attended := by
  rcases filter?_eq_some_iff.mp ends with ⟨fault, _, ends⟩ | ⟨items, _, ends⟩
  · exact attended.finish guarded member (by simp [filters]) ends
  · obtain ⟨cache, log, stored⟩ := store_eq service call candidates
    have storing := guarded.store call candidates
    rw [stored] at ends storing
    have unchanged : { service with cache, log }.Attended := attended
    exact unchanged.finish storing member (by simp [filters]) ends

/-- A call that takes its lock leaves the other calls and the children. -/
theorem acquire (attended : service.Attended) (guarded : service.Guarded)
    (member : call ∈ service.calls) (waits : call.phase = .waiting) :
    (service.acquire call).Attended := by
  have idle (place : ChildNumber) : ¬ call.phase.Awaits place := by simp [Phase.Awaits, waits]
  obtain ⟨hits, misses, acquired⟩ := acquire_eq service call
  rw [acquired]
  exact attended.of_idle (mem_replaced_of_ne guarded member (call.looked _) rfl) rfl rfl
    fun place awaits => absurd awaits (idle place)

/-- A child that was started is attended by the call that it was started for. -/
theorem spawn (attended : service.Attended) (guarded : service.Guarded)
    (member : call ∈ service.calls) {contents : String}
    (starts : call.phase = .starting contents) (notes : List Note) :
    ((service.note notes).spawned call).Attended := by
  refine attended.of_change (mem_replaced_of_ne guarded member
    { call with phase := .running service.children.length } rfl) (fun one inEnded => inEnded)
    (by simp [Phase.Awaits, starts]) fun place child there lives => ?_
  change (service.children ++ [⟨call.signature, none, false, false⟩])[place]? = some child at there
  rcases Nat.lt_trichotomy place service.children.length with older | rfl | beyond
  · rw [List.getElem?_append_left older] at there
    exact .inl ⟨child, there, lives, rfl⟩
  · rw [List.getElem?_concat_length] at there
    obtain rfl := Option.some.inj there
    exact .inr (.inl ⟨_, self_mem_replaced member
      { call with phase := .running service.children.length } rfl, .inl rfl, rfl⟩)
  · rw [List.getElem?_eq_none (by simpa using Nat.succ_le_of_lt beyond)] at there
    contradiction

/-- A child that ends no longer needs attention. -/
theorem exit (attended : service.Attended) (place : ChildNumber) (code : Int) :
    (service.exited place code).Attended := by
  intro other child there lives
  change (service.children.modify place _)[other]? = some child at there
  rw [List.getElem?_modify] at there
  split at there
  · obtain ⟨before, _, rfl⟩ := Option.map_eq_some_iff.mp there
    exact absurd lives (by simp)
  · exact attended (by simpa using there) lives

/-- A call whose child is killed goes on attending it. -/
theorem kill (attended : service.Attended) (guarded : service.Guarded)
    (member : call ∈ service.calls) {place : ChildNumber} (running : call.phase = .running place)
    (failure : Failure) : (service.killed call place failure).Attended := by
  refine attended.of_change (mem_replaced_of_ne guarded member
    { call with phase := .reaping place failure } rfl) (fun one inEnded => inEnded)
    (fun other child there lives awaits => ?_) fun other child there lives => ?_
  · obtain rfl : place = other := by simpa [Phase.Awaits, running] using awaits
    exact .inl ⟨_, self_mem_replaced member { call with phase := .reaping place failure } rfl,
      .inr ⟨failure, rfl⟩, rfl⟩
  · change (service.children.modify place _)[other]? = some child at there
    rw [List.getElem?_modify] at there
    split at there
    · obtain ⟨before, thereBefore, rfl⟩ := Option.map_eq_some_iff.mp there
      exact .inl ⟨before, thereBefore, lives, rfl⟩
    · exact .inl ⟨child, by simpa using there, lives, rfl⟩

/-- Every transition keeps the children attended. -/
theorem transition {event : Event} (attended : service.Attended) (guarded : service.Guarded)
    (change : Transition service event next) : next.Attended := by
  cases change with
  | enter state request =>
    intro place child there lives
    rcases attended there lives with ⟨call, member, awaits⟩ | abandoned
    · exact .inl ⟨call, List.mem_append_left _ member, awaits⟩
    · exact .inr abandoned
  | acquire found waits _ => exact attended.acquire guarded (mem_of_call?_eq_some found).1 waits
  | read found reads =>
    exact attended.of_idle (mem_replaced_of_ne guarded (mem_of_call?_eq_some found).1 _ rfl) rfl rfl
      (by simp [Phase.Awaits, reads])
  | spawn found starts => exact attended.spawn guarded (mem_of_call?_eq_some found).1 starts _
  | exit code => exact attended.exit _ code
  | output found runs ended =>
    exact attended.of_idle (mem_replaced_of_ne guarded (mem_of_call?_eq_some found).1 _ rfl) rfl rfl
      (by simp [Phase.Awaits, runs, ended])
  | kill failure found runs =>
    exact attended.kill guarded (mem_of_call?_eq_some found).1 runs failure
  | fail notes _ found _ _ settled happens =>
    have noted : (service.note notes).Attended := attended
    have guardedNoted : (service.note notes).Guarded := ⟨guarded.serves, guarded.number_lt⟩
    exact noted.finish guardedNoted (mem_of_call?_eq_some found).1 settled happens
  | filter found filters happens =>
    exact attended.filter guarded (mem_of_call?_eq_some found).1 filters happens
  | close =>
    unfold close
    split
    · exact attended
    · exact attended

end Attended

/-- In every service that comes about from an idle one the children are attended. -/
theorem Reachable.attended {settings : Settings} {overrides : Overrides} {service : Service}
    (reachable : Reachable (create settings overrides) service) : service.Attended := by
  have both := reachable.invariant (fun service => service.Guarded ∧ service.Attended)
    ⟨.create settings overrides, by simp [Attended, create]⟩
    fun holds change => ⟨holds.1.transition change, holds.2.transition holds.1 change⟩
  exact both.2

/-! ## What the guards give -/

/-- In every service that comes about, for every signature:

- its count is the number of the calls on it, waiting or working, and it has a lock and a count
  exactly while there are some;
- all calls on it have its lock, which is held by the one that works; at most one call works, that
  is, has looked into the cache and not left; and at most one child lives for it, except for
  children that were killed and whose calls were given up once more before they ended;
- the guards let every call go: the count and the lock that its leaving takes away are there.

So nothing is left in the tables when no call is in flight. -/
theorem guards_follow_calls {settings : Settings} {overrides : Overrides} {service : Service}
    (reachable : Reachable (create settings overrides) service) :
    (∀ signature,
      service.guards.users.get? signature =
          (if usersOf service.calls signature = 0 then none
            else some (usersOf service.calls signature)) ∧
        (service.guards.locks.has signature = true ↔ 0 < usersOf service.calls signature) ∧
        (service.guards.users.has signature = true ↔ 0 < usersOf service.calls signature)) ∧
      (∀ call ∈ service.calls, service.guards.locks.get? call.signature = some call.lock ∧
        (service.guards.holders.get? call.lock = some call.number ↔ call.Works)) ∧
      (∀ call ∈ service.calls, ∀ other ∈ service.calls, call.signature = other.signature →
        call.lock = other.lock ∧ (call.Works → other.Works → call = other)) ∧
      (∀ (place other : ChildNumber) (one two : Child), service.children[place]? = some one →
        service.children[other]? = some two → one.signature = two.signature →
        one.code = none → two.code = none →
        place = other ∨ service.Abandoned place ∨ service.Abandoned other) ∧
      (∀ call ∈ service.calls,
        ((service.guards.release call.lock call.number).leave? call.signature).isSome = true) ∧
      (service.calls = [] → service.guards.locks = [] ∧ service.guards.users = []) := by
  have guarded := reachable.guarded
  have serves := guarded.serves
  refine ⟨fun signature => ⟨serves.users_eq signature, serves.has_lock_iff signature,
    serves.has_users_iff signature⟩, fun call member => ⟨serves.lock_eq call member,
    serves.holds_iff member⟩, ?_, ?_, fun call member => guarded.leave?_isSome member, ?_⟩
  · intro call member other otherMember same
    exact ⟨serves.lock_unique member otherMember same,
      serves.works_unique member otherMember same⟩
  · intro place other one two there otherThere same lives otherLives
    rcases reachable.attended there lives with ⟨call, member, awaits, called⟩ | abandoned
    · rcases reachable.attended otherThere otherLives with
        ⟨rival, rivalMember, rivalAwaits, rivalCalled⟩ | abandoned
      · obtain rfl : call = rival :=
          serves.works_unique member rivalMember (called.trans (same.trans rivalCalled.symm))
            awaits.works rivalAwaits.works
        exact .inl (awaits.unique rivalAwaits)
      · exact .inr (.inr abandoned)
    · exact .inr (.inl abandoned)
  · intro idle
    rw [idle] at serves
    exact ⟨Table.eq_nil_of_get?_eq_none fun signature => serves.lock_none rfl,
      Table.eq_nil_of_get?_eq_none fun signature => serves.users_eq signature⟩

/-- While one call works and another on its signature waits, the signature has a lock and the count
two, and each of them can go. -/
theorem guards_follow_two_calls :
    ∃ service, Reachable (create .standard {}) service ∧
      service.calls.map (·.signature) =
        [Signature.ofRequest default, Signature.ofRequest default] ∧
      service.guards.users.get? (Signature.ofRequest default) = some 2 ∧
      service.guards.locks.has (Signature.ofRequest default) = true ∧
      ∀ call ∈ service.calls,
        ((service.guards.release call.lock call.number).leave? call.signature).isSome = true := by
  have came : Reachable (create .standard {}) ((create .standard {}).enter default default) :=
    .step (.enter default default) .start rfl
  have works := came.step (.acquire 0) rfl
  have waits := works.step (.enter default default) rfl
  obtain ⟨service, reachable, signatures⟩ : ∃ service, Reachable (create .standard {}) service ∧
      service.calls.map (·.signature) =
        [Signature.ofRequest default, Signature.ofRequest default] := ⟨_, waits, rfl⟩
  have two : usersOf service.calls (Signature.ofRequest default) = 2 := by
    rw [usersOf, signatures]
    simp
  obtain ⟨counts, _, _, _, leaves, _⟩ := guards_follow_calls reachable
  obtain ⟨count, locked, _⟩ := counts (Signature.ofRequest default)
  rw [two] at count locked
  exact ⟨service, reachable, signatures, count, locked.mpr Nat.two_pos, leaves⟩

/-- A call runs out of time, and is given up while it waits for the end of its killed child. Then
another call on its signature comes and starts a child. -/
def abandonedRun : List Event :=
  [.enter default default, .acquire 0, .read 0 (.ok ""), .spawn 0 (.ok ()), .expire 0, .abandon 0,
    .enter default default, .acquire 1, .read 1 (.ok ""), .spawn 1 (.ok ())]

/-- So two children can live for one signature: the exception for abandoned ones is needed. -/
theorem not_forall_one_child :
    ¬ ∀ service, Reachable (create .standard {}) service →
      ∀ (place other : ChildNumber) (one two : Child), service.children[place]? = some one →
        service.children[other]? = some two → one.signature = two.signature →
        one.code = none → two.code = none → place = other := by
  intro alone
  have shown : ((create .standard {}).play abandonedRun).map
      (fun service => service.children.map fun child => (child.signature, child.code)) =
      some [(Signature.make 0 "" "", none), (Signature.make 0 "" "", none)] := by
    decide +kernel
  obtain ⟨service, played, children⟩ := Option.map_eq_some_iff.mp shown
  obtain ⟨one, rest, held, first, others⟩ := List.map_eq_cons_iff.mp children
  obtain ⟨two, _, rfl, second, _⟩ := List.map_eq_cons_iff.mp others
  obtain ⟨signature, lives⟩ := Prod.mk.inj first
  obtain ⟨otherSignature, otherLives⟩ := Prod.mk.inj second
  have same : 0 = 1 := alone service (Reachable.start.of_play played) 0 1 one two (by simp [held])
    (by simp [held]) (signature.trans otherSignature.symm) lives otherLives
  exact absurd same (by decide)

end CompletionServer.Service
