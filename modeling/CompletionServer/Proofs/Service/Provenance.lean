import CompletionServer.Proofs.Service.Exclusion

/-!
# Where calls come from

A call keeps its number, its request, the project that it was made with and its signature for as
long as it is in flight, and takes them along when it ends. `Stems` says so of one change of a
service: whatever is there afterwards was there before, or came with the change. So a number that
was given to a request stands for this request and this project for ever, also in the command lines
of the children that are started.
-/

namespace CompletionServer.Service

/-- What never changes of a call. -/
def Call.origin (call : Call) : CallNumber × Request × Project.State × String :=
  (call.number, call.request, call.state, call.signature)

/-- A service came from another by one change. -/
structure Stems (service next : Service) : Prop where
  setup : next.setup = service.setup
  next_le : service.next ≤ next.next
  /-- A call was in flight before, or has come. -/
  calls : ∀ call ∈ next.calls, (∃ old ∈ service.calls, old.origin = call.origin) ∨
    ((∃ state request, call = service.arrival state request) ∧ service.next < next.next)
  /-- A call that has ended had ended before, or was in flight. -/
  ended : ∀ one ∈ next.ended, one ∈ service.ended ∨ one.call ∈ service.calls
  /-- A child that was asked for had been asked for before, or a call in flight asked for it. -/
  spawned : ∀ number command, .spawned number command ∈ next.log →
    .spawned number command ∈ service.log ∨
      ∃ call ∈ service.calls, call.number = number ∧
        ∃ contents, command = service.commandFor call contents

namespace Stems

variable {service next last : Service} {call : Call}

/-- A service comes from itself. -/
theorem refl (service : Service) : service.Stems service where
  setup := rfl
  next_le := Nat.le_refl _
  calls := fun call member => .inl ⟨call, member, rfl⟩
  ended := fun _ member => .inl member
  spawned := fun _ _ member => .inl member

/-- One call changes without changing its origin, and notes are written in which only this call asks
for a child. -/
theorem of_replaced (new : Call) (notes : List Note) (member : call ∈ service.calls)
    (same : new.origin = call.origin)
    (asks : ∀ number command, .spawned number command ∈ notes →
      call.number = number ∧ ∃ contents, command = service.commandFor call contents)
    (setup : next.setup = service.setup) (number : next.next = service.next)
    (calls : next.calls = replaced service.calls new) (ended : next.ended = service.ended)
    (log : next.log = service.log ++ notes) : service.Stems next where
  setup := setup
  next_le := Nat.le_of_eq number.symm
  calls := by
    intro other inCalls
    rw [calls, mem_replaced member (congrArg Prod.fst same)] at inCalls
    rcases inCalls with rfl | ⟨old, _⟩
    · exact .inl ⟨call, member, same.symm⟩
    · exact .inl ⟨other, old, rfl⟩
  ended := by
    intro one inEnded
    rw [ended] at inEnded
    exact .inl inEnded
  spawned := by
    intro number command noted
    rw [log] at noted
    rcases List.mem_append.mp noted with old | new
    · exact .inl old
    · exact .inr ⟨call, member, asks number command new⟩

/-- A call at work comes into another phase. -/
theorem advance {phase : Phase} {notes : List Note}
    (advances : service.Advances next call phase notes) : service.Stems next := by
  rw [advances.frame]
  refine of_replaced { call with phase } notes advances.member rfl ?_ rfl rfl rfl rfl rfl
  intro number command noted
  rcases advances.about _ noted with ⟨contents, same⟩ | ⟨child, same | same⟩
  · obtain ⟨rfl, rfl⟩ := Note.spawned.inj same
    exact ⟨rfl, contents, rfl⟩
  · contradiction
  · contradiction

/-- A call ends, after notes were written in which only this call asks for a child, and after a
change of the cache. -/
theorem finish (notes : List Note) (cache : Cache (List Candidate)) (member : call ∈ service.calls)
    (asks : ∀ number command, .spawned number command ∈ notes →
      call.number = number ∧ ∃ contents, command = service.commandFor call contents)
    {result : Except Failure (List Item)}
    (ends : ({ service with cache }.note notes).finish? call result = some next) :
    service.Stems next := by
  obtain ⟨guards, _, rfl⟩ := finish?_eq_some_iff.mp ends
  exact
    { setup := rfl
      next_le := Nat.le_refl _
      calls := fun other inCalls => .inl ⟨other, (List.mem_filter.mp inCalls).1, rfl⟩
      ended := by
        intro one inEnded
        rcases List.mem_append.mp inEnded with old | new
        · exact .inl old
        · rw [List.mem_singleton.mp new]
          exact .inr member
      spawned := by
        intro number command noted
        simp only [note, List.mem_append, List.mem_singleton, reduceCtorEq, or_false] at noted
        rcases noted with old | new
        · exact .inl old
        · exact .inr ⟨call, member, asks number command new⟩ }

/-- A call that ends and writes nothing before. -/
theorem finish_plain (member : call ∈ service.calls) {result : Except Failure (List Item)}
    (ends : service.finish? call result = some next) : service.Stems next := by
  have noted : (service.note []).finish? call result = some next := by
    simpa [note] using ends
  exact finish [] service.cache member (by simp) noted

/-- A call filters its candidates and ends. -/
theorem filter (member : call ∈ service.calls) {candidates : List Candidate}
    (ends : service.filter? call candidates = some next) : service.Stems next := by
  rcases filter?_eq_some_iff.mp ends with ⟨fault, _, ends⟩ | ⟨items, _, ends⟩
  · exact finish_plain member ends
  · unfold store at ends
    split at ends
    · exact finish_plain member ends
    · exact finish _ _ member (by simp) ends

end Stems

/-- Every transition is such a change. -/
theorem Transition.stems {service next : Service} {event : Event}
    (change : Transition service event next) : service.Stems next := by
  cases change with
  | enter state request =>
    refine ⟨rfl, Nat.le_succ _, ?_, fun _ member => .inl member, fun _ _ member => .inl member⟩
    intro call member
    rcases List.mem_append.mp member with old | new
    · exact .inl ⟨call, old, rfl⟩
    · exact .inr ⟨⟨state, request, List.mem_singleton.mp new⟩, Nat.lt_succ_self _⟩
  | @acquire call found _ _ =>
    have member := (mem_of_call?_eq_some found).1
    obtain ⟨hits, misses, acquired⟩ := acquire_eq service call
    rw [acquired]
    exact .of_replaced (call.looked (service.cache.get? call.signature))
      [.looked call.number (service.cache.get? call.signature).isSome] member rfl (by simp) rfl rfl
      rfl rfl rfl
  | read found reads => exact .advance (.read found reads)
  | spawn found starts => exact .advance (.spawn found starts)
  | exit =>
    have same := Stems.refl service
    exact ⟨rfl, Nat.le_refl _, same.calls, same.ended, same.spawned⟩
  | output found runs => exact .advance (.output found runs _)
  | kill failure found runs => exact .advance (.kill found runs failure)
  | fail notes failure found asked _ _ happens =>
    refine .finish notes service.cache (mem_of_call?_eq_some found).1 ?_ happens
    intro number command noted
    rcases asked with rfl | ⟨contents, _, rfl⟩
    · cases noted
    · obtain ⟨rfl, rfl⟩ := Note.spawned.inj (List.mem_singleton.mp noted)
      exact ⟨rfl, contents, rfl⟩
  | filter found _ happens => exact .filter (mem_of_call?_eq_some found).1 happens
  | close =>
    have same := Stems.refl service
    unfold Service.close
    split
    · exact ⟨rfl, Nat.le_refl _, same.calls, same.ended, same.spawned⟩
    · exact same

/-! ## Numbers -/

/-- The numbers of the calls that have ended or asked for a child are over. -/
structure Numbered (service : Service) : Prop where
  ended : ∀ one ∈ service.ended, one.call.number < service.next
  spawned : ∀ number command, .spawned number command ∈ service.log → number < service.next

/-- Numbers that are over stay so. -/
theorem Numbered.stems {service next : Service} (numbered : service.Numbered)
    (guarded : service.Guarded) (stems : service.Stems next) : next.Numbered where
  ended := by
    intro one inEnded
    refine Nat.lt_of_lt_of_le ?_ stems.next_le
    rcases stems.ended one inEnded with old | new
    · exact numbered.ended one old
    · exact guarded.number_lt one.call new
  spawned := by
    intro number command noted
    refine Nat.lt_of_lt_of_le ?_ stems.next_le
    rcases stems.spawned number command noted with old | ⟨call, member, rfl, _⟩
    · exact numbered.spawned number command old
    · exact guarded.number_lt call member

/-- In every service that comes about from an idle one these numbers are over. -/
theorem Reachable.numbered {settings : Settings} {overrides : Overrides} {service : Service}
    (reachable : Reachable (create settings overrides) service) : service.Numbered := by
  have both := reachable.invariant (fun service => service.Guarded ∧ service.Numbered)
    ⟨.create settings overrides, ⟨by simp [create], by simp [create]⟩⟩
    fun holds change => ⟨holds.1.transition change, holds.2.stems holds.1 change.stems⟩
  exact both.2

/-- A number stands for a request that came while the project was in a state: in flight, after the
call has ended, and in the command lines of its children. -/
structure StartedWith (service : Service) (number : CallNumber) (request : Request)
    (state : Project.State) : Prop where
  number_lt : number < service.next
  calls : ∀ call ∈ service.calls, call.number = number →
    call.request = request ∧ call.state = state
  ended : ∀ one ∈ service.ended, one.call.number = number →
    one.call.request = request ∧ one.call.state = state
  spawned : ∀ command, .spawned number command ∈ service.log → ∃ contents,
    command = Introspection.command service.setup.binary contents request.byteOffset
      (Introspection.compilerArguments state request.filePath service.setup.hint)

namespace StartedWith

variable {service next : Service} {number : CallNumber} {request : Request} {state : Project.State}

/-- A request gets a number that stands for it. -/
theorem enter (guarded : service.Guarded) (numbered : service.Numbered) (state : Project.State)
    (request : Request) : (service.enter state request).StartedWith service.next request state where
  number_lt := Nat.lt_succ_self _
  calls := by
    intro call member same
    rcases List.mem_append.mp member with old | new
    · exact absurd same (Nat.ne_of_lt (guarded.number_lt call old))
    · rw [List.mem_singleton.mp new]
      exact ⟨rfl, rfl⟩
  ended := by
    intro one inEnded same
    exact absurd same (Nat.ne_of_lt (numbered.ended one inEnded))
  spawned := by
    intro command noted
    exact absurd (numbered.spawned _ command noted) (Nat.lt_irrefl _)

/-- A number goes on to stand for its request. -/
theorem stems (started : service.StartedWith number request state) (stems : service.Stems next) :
    next.StartedWith number request state where
  number_lt := Nat.lt_of_lt_of_le started.number_lt stems.next_le
  calls := by
    intro call member same
    rcases stems.calls call member with ⟨old, inCalls, origin⟩ | ⟨⟨_, _, rfl⟩, _⟩
    · obtain ⟨numbers, requests, states, _⟩ :
          old.number = call.number ∧ old.request = call.request ∧ old.state = call.state ∧
            old.signature = call.signature := by
        simpa [Call.origin] using origin
      rw [← requests, ← states]
      exact started.calls old inCalls (numbers.trans same)
    · exact absurd same.symm (Nat.ne_of_lt started.number_lt)
  ended := by
    intro one inEnded same
    rcases stems.ended one inEnded with old | new
    · exact started.ended one old same
    · exact started.calls one.call new same
  spawned := by
    intro command noted
    rw [stems.setup]
    rcases stems.spawned number command noted with old | ⟨call, member, same, contents, built⟩
    · exact started.spawned command old
    · obtain ⟨requests, states⟩ := started.calls call member same
      refine ⟨contents, ?_⟩
      rw [built, commandFor, requests, states]

end StartedWith

end CompletionServer.Service
