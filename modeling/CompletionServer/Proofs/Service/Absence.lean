import CompletionServer.Proofs.Service.Children
import Mathlib.Data.List.Forall2
import Mathlib.Data.List.Induction

/-!
# A service without one of its calls

The events of a run without those of one call and of its child, `without`, are again a run if that
call fails, and nothing but that call is missed in it. The calls and children that come later have
smaller numbers in it, and locks may have others. `Alike` says how the services of the two runs
agree: a step of the call itself changes only the first of them, and any other is a step of both.
-/

namespace CompletionServer.Service

/-! ## Numbers without one of them -/

/-- A number after another one was taken out of the row. -/
def closeGap (gap number : Nat) : Nat := if gap < number then number - 1 else number

/-- Different numbers stay different after one was taken out. -/
theorem closeGap_inj {gap number other : Nat} (differs : number ≠ gap)
    (otherDiffers : other ≠ gap) :
    closeGap gap number = closeGap gap other ↔ number = other := by
  unfold closeGap
  split <;> split <;> omega

/-- The next number is the next one after one was taken out. -/
theorem closeGap_succ {gap number : Nat} (differs : number ≠ gap) :
    closeGap gap (number + 1) = closeGap gap number + 1 := by
  unfold closeGap
  split <;> split <;> omega

/-- The number behind the gap takes the place of the gap. -/
theorem closeGap_succ_self (gap : Nat) : closeGap gap (gap + 1) = closeGap gap gap := by
  simp [closeGap]

section Lists

variable {α : Type} {gap place : Nat}

/-- What stood at another place stands at its new number. -/
theorem getElem?_eraseIdx_closeGap (list : List α) (differs : place ≠ gap) :
    (list.eraseIdx gap)[closeGap gap place]? = list[place]? := by
  rw [List.getElem?_eraseIdx, closeGap]
  split
  · next beyond =>
    rw [if_neg (by omega), Nat.sub_add_cancel (by omega)]
  · rw [if_pos (by omega)]

/-- A change at another place is one at its new number. -/
theorem eraseIdx_modify (list : List α) (differs : place ≠ gap) (change : α → α) :
    (list.modify place change).eraseIdx gap =
      (list.eraseIdx gap).modify (closeGap gap place) change := by
  unfold closeGap
  split
  · next beyond => exact List.eraseIdx_modify_of_lt _ _ _ _ beyond
  · exact List.eraseIdx_modify_of_gt _ _ _ _ (by omega)

/-- What is added at the gap is taken out. -/
theorem eraseIdx_concat_self (list : List α) (last : α) (length : list.length = gap) :
    (list ++ [last]).eraseIdx gap = list.eraseIdx gap := by
  have reached : list.length ≤ gap := Nat.le_of_eq length
  rw [List.eraseIdx_append_of_length_le reached, List.eraseIdx_of_length_le reached, length,
    Nat.sub_self, List.eraseIdx_cons_zero, List.append_nil]

/-- What is added elsewhere stays at the end. -/
theorem eraseIdx_concat (list : List α) (last : α) (length : list.length ≠ gap) :
    (list ++ [last]).eraseIdx gap = list.eraseIdx gap ++ [last] := by
  rcases Nat.lt_or_gt_of_ne length with beyond | inside
  · have still : (list ++ [last]).length ≤ gap := by
      rw [List.length_append]
      exact beyond
    rw [List.eraseIdx_of_length_le still, List.eraseIdx_of_length_le (Nat.le_of_lt beyond)]
  · rw [List.eraseIdx_append_of_lt_length inside]

/-- A list without one of its places is as long as its new number. -/
theorem length_eraseIdx_eq (list : List α) (gap : Nat) :
    (list.eraseIdx gap).length = closeGap gap list.length :=
  List.length_eraseIdx

end Lists

/-! ## Runs without a call -/

/-- Whether a request comes. -/
def Event.isArrival : Event → Bool
  | .enter _ _ => true
  | _ => false

/-- Whether an event, after some requests have come, is one of a call or of its child. -/
def Event.isOf (gap : CallNumber) (own : ChildNumber) (arrived : Nat) : Event → Bool
  | .enter _ _ => arrived = gap
  | .acquire call | .read call _ | .spawn call _ | .output call _ _ | .expire call | .cancel call
  | .abandon call | .reaped call | .filter call => call = gap
  | .exit child _ => child = own
  | .close => false

/-- An event among the numbers without a call and a child. -/
def Event.renumbered (gap : CallNumber) (own : ChildNumber) : Event → Event
  | .enter state request => .enter state request
  | .acquire call => .acquire (closeGap gap call)
  | .read call outcome => .read (closeGap gap call) outcome
  | .spawn call outcome => .spawn (closeGap gap call) outcome
  | .exit child code => .exit (closeGap own child) code
  | .output call stdout stderr => .output (closeGap gap call) stdout stderr
  | .expire call => .expire (closeGap gap call)
  | .cancel call => .cancel (closeGap gap call)
  | .abandon call => .abandon (closeGap gap call)
  | .reaped call => .reaped (closeGap gap call)
  | .filter call => .filter (closeGap gap call)
  | .close => .close

/-- The events that are none of a call or of its child, after some requests have come. -/
def without (gap : CallNumber) (own : ChildNumber) : (arrived : Nat) → List Event → List Event
  | _, [] => []
  | arrived, event :: rest =>
    let others := without gap own (arrived + event.isArrival.toNat) rest
    if event.isOf gap own arrived then others else event.renumbered gap own :: others

/-- A call that is given up is given up by an event of its own. -/
theorem GivesUp.isOf_eq {service : Service} {call : Call} {event : Event} {failure : Failure}
    (cause : service.GivesUp call event failure) (gap : CallNumber) (own : ChildNumber)
    (arrived : Nat) : event.isOf gap own arrived = decide (call.number = gap) := by
  cases cause <;> rfl

/-- A call that fails does so by an event of its own. -/
theorem Fails.isOf_eq {service : Service} {call : Call} {event : Event} {notes : List Note}
    {failure : Failure} (cause : service.Fails call event notes failure) (gap : CallNumber)
    (own : ChildNumber) (arrived : Nat) :
    event.isOf gap own arrived = decide (call.number = gap) := by
  cases cause with
  | settled _ _ cause => exact cause.isOf_eq gap own arrived
  | _ => rfl

/-- A run in two parts is without a call what its parts are. -/
theorem without_append (gap : CallNumber) (own : ChildNumber) (arrived : Nat)
    (front back : List Event) :
    without gap own arrived (front ++ back) =
      without gap own arrived front ++
        without gap own (arrived + front.countP Event.isArrival) back := by
  induction front generalizing arrived with
  | nil => rfl
  | cons event rest ih =>
    have count : arrived + (event :: rest).countP Event.isArrival =
        arrived + event.isArrival.toNat + rest.countP Event.isArrival := by
      rw [List.countP_cons]
      cases event.isArrival with
      | false => rfl
      | true =>
        show arrived + (rest.countP Event.isArrival + 1) = arrived + 1 + rest.countP Event.isArrival
        omega
    rw [List.cons_append, without, without, ih, count]
    split <;> rfl

/-- The next number is the number of requests that have come. -/
theorem Transition.next_eq {service next : Service} {event : Event}
    (change : Transition service event next) :
    next.next = service.next + event.isArrival.toNat := by
  cases change with
  | enter => rfl
  | @acquire call => rw [acquire_eq_counted]; rfl
  | read | spawn | exit | output => rfl
  | kill _ _ _ _ cause => cases cause <;> rfl
  | fail _ _ _ _ _ _ happens cause =>
    obtain ⟨guards, _, rfl⟩ := finish?_eq_some_iff.mp happens
    cases cause with
    | settled _ _ cause => cases cause <;> rfl
    | _ => rfl
  | filter _ _ happens =>
    obtain ⟨cache, guards, notes, result, _, rfl⟩ := exists_of_filter?_eq_some happens
    rfl
  | close =>
    unfold Service.close
    split <;> rfl

/-! ## Calls among the others -/

/-- A phase among the numbers without a child. -/
def Phase.renumbered (own : ChildNumber) : Phase → Phase
  | .waiting => .waiting
  | .reading => .reading
  | .starting contents => .starting contents
  | .running child => .running (closeGap own child)
  | .reaping child failure => .reaping (closeGap own child) failure
  | .filtering candidates => .filtering candidates

/-- A call is what another one is without a call and its child. Their locks may have different
numbers. -/
structure IsTwin (gap : CallNumber) (own : ChildNumber) (call twin : Call) : Prop where
  other : call.number ≠ gap
  number : twin.number = closeGap gap call.number
  request : twin.request = call.request
  state : twin.state = call.state
  signature : twin.signature = call.signature
  phase : twin.phase = call.phase.renumbered own
  hit? : twin.hit? = call.hit?

namespace IsTwin

variable {gap : CallNumber} {own : ChildNumber} {call twin one oneTwin : Call}

/-- Twins work at the same time. -/
theorem works_iff (same : IsTwin gap own call twin) : twin.Works ↔ call.Works := by
  rw [Call.Works, Call.Works, same.phase]
  cases call.phase <;> simp [Phase.renumbered]

/-- Twins are told apart by their numbers when the calls are. -/
theorem number_eq_iff (same : IsTwin gap own call twin) (alsoSame : IsTwin gap own one oneTwin) :
    twin.number = oneTwin.number ↔ call.number = one.number := by
  rw [same.number, alsoSame.number, closeGap_inj same.other alsoSame.other]

/-- Twins come into the same phase. -/
theorem advance (same : IsTwin gap own call twin) (phase : Phase) :
    IsTwin gap own { call with phase } { twin with phase := phase.renumbered own } :=
  ⟨same.other, same.number, same.request, same.state, same.signature, rfl, same.hit?⟩

/-- Twins look and find the same. -/
theorem looked (same : IsTwin gap own call twin) (found : Option (List Candidate)) :
    IsTwin gap own (call.looked found) (twin.looked found) := by
  refine ⟨same.other, same.number, same.request, same.state, same.signature, ?_, rfl⟩
  cases found <;> rfl

end IsTwin

/-! ## All calls but one -/

/-- Some calls are what others are without one of them and its child. -/
def AreTwins (gap : CallNumber) (own : ChildNumber) (calls twins : List Call) : Prop :=
  List.Forall₂ (IsTwin gap own) (calls.filter (·.number ≠ gap)) twins

namespace AreTwins

variable {gap : CallNumber} {own : ChildNumber} {calls twins : List Call} {new twin : Call}

/-- What is in a list is related to something in a related list. -/
theorem exists_related {α β : Type} {related : α → β → Prop} {left : List α} {right : List β}
    (lists : List.Forall₂ related left right) {one : α} (member : one ∈ left) :
    ∃ other ∈ right, related one other := by
  induction lists with
  | nil => cases member
  | cons first _ ih =>
    rcases List.mem_cons.mp member with rfl | member
    · exact ⟨_, List.mem_cons_self, first⟩
    · obtain ⟨other, among, both⟩ := ih member
      exact ⟨other, List.mem_cons_of_mem _ among, both⟩

/-- Every call but one has a twin. -/
theorem exists_twin (same : AreTwins gap own calls twins) {call : Call} (member : call ∈ calls)
    (other : call.number ≠ gap) : ∃ twin ∈ twins, IsTwin gap own call twin := by
  have among : call ∈ calls.filter (·.number ≠ gap) :=
    List.mem_filter.mpr ⟨member, decide_eq_true other⟩
  exact exists_related same among

/-- Every twin is one of a call. -/
theorem exists_call (same : AreTwins gap own calls twins) (inTwins : twin ∈ twins) :
    ∃ call ∈ calls, IsTwin gap own call twin := by
  obtain ⟨call, among, same⟩ := exists_related same.flip inTwins
  exact ⟨call, (List.mem_filter.mp among).1, same⟩

/-- The call that is left out comes. -/
theorem concat_self (same : AreTwins gap own calls twins) (self : new.number = gap) :
    AreTwins gap own (calls ++ [new]) twins := by
  have left : [new].filter (·.number ≠ gap) = [] := by simp [self]
  rwa [AreTwins, List.filter_append, left, List.append_nil]

/-- Another call comes, and its twin. -/
theorem concat (same : AreTwins gap own calls twins) (new : IsTwin gap own call twin) :
    AreTwins gap own (calls ++ [call]) (twins ++ [twin]) := by
  have kept : [call].filter (·.number ≠ gap) = [call] := by simp [new.other]
  rw [AreTwins, List.filter_append, kept]
  exact List.rel_append same (.cons new .nil)

/-- A call that changes keeps its place among the others. -/
theorem filter_replaced (calls : List Call) (new : Call) (gap : CallNumber) :
    (replaced calls new).filter (·.number ≠ gap) =
      replaced (calls.filter (·.number ≠ gap)) new := by
  rw [replaced, replaced, List.filter_map]
  refine congrArg _ (List.filter_congr fun one _ => ?_)
  simp only [Function.comp_apply]
  split
  · next same => rw [same]
  · rfl

/-- The call that is left out changes. -/
theorem replace_self (same : AreTwins gap own calls twins) (self : new.number = gap) :
    AreTwins gap own (replaced calls new) twins := by
  rw [AreTwins, filter_replaced]
  have untouched : replaced (calls.filter (·.number ≠ gap)) new =
      calls.filter (·.number ≠ gap) := by
    refine (List.map_congr_left fun one among => ?_).trans (List.map_id _)
    have other : one.number ≠ gap := by simpa using (List.mem_filter.mp among).2
    rw [self, if_neg other, id]
  rwa [untouched]

/-- Another call changes, and its twin. -/
theorem replace (same : AreTwins gap own calls twins) (change : IsTwin gap own new twin) :
    AreTwins gap own (replaced calls new) (replaced twins twin) := by
  rw [AreTwins, filter_replaced]
  refine List.rel_map (fun one oneTwin same => ?_) same
  by_cases changes : one.number = new.number
  · rw [if_pos changes, if_pos ((same.number_eq_iff change).mpr changes)]
    exact change
  · rw [if_neg changes, if_neg (mt (same.number_eq_iff change).mp changes)]
    exact same

/-- The call that is left out goes. -/
theorem filter_self (same : AreTwins gap own calls twins) :
    AreTwins gap own (calls.filter (·.number ≠ gap)) twins := by
  have again : (calls.filter (·.number ≠ gap)).filter (·.number ≠ gap) =
      calls.filter (·.number ≠ gap) :=
    List.filter_eq_self.mpr fun call among => (List.mem_filter.mp among).2
  rwa [AreTwins, again]

/-- Another call goes, and its twin. -/
theorem filter {call : Call} (same : AreTwins gap own calls twins)
    (leaves : IsTwin gap own call twin) :
    AreTwins gap own (calls.filter (·.number ≠ call.number))
      (twins.filter (·.number ≠ twin.number)) := by
  rw [AreTwins, List.filter_comm]
  refine List.rel_filter (fun one oneTwin same => ?_) same
  simp [same.number_eq_iff leaves]

/-- Without the call that is left out there are as many users of a signature. -/
theorem usersOf_eq (same : AreTwins gap own calls twins) (gone : ∀ call ∈ calls, call.number ≠ gap)
    (signature : String) : usersOf twins signature = usersOf calls signature := by
  have all : calls.filter (·.number ≠ gap) = calls :=
    List.filter_eq_self.mpr fun call member => decide_eq_true (gone call member)
  rw [AreTwins, all] at same
  have signatures : List.Forall₂ Eq (twins.map (·.signature)) (calls.map (·.signature)) := by
    rw [List.forall₂_map_left_iff, List.forall₂_map_right_iff]
    exact (same.imp fun call twin same => same.signature).flip
  rw [List.forall₂_eq_eq_eq] at signatures
  rw [usersOf, usersOf, signatures]

end AreTwins

/-! ## A service and what it is without a call -/

/-- A service is what another one is without a call and its child: it has no such call and did not
look into the cache for it. -/
structure Alike (gap : CallNumber) (own : ChildNumber) (service rest : Service) : Prop where
  setup : rest.setup = service.setup
  pipeline : rest.pipeline = service.pipeline
  ownsWorkers : rest.ownsWorkers = service.ownsWorkers
  cache : rest.cache = service.cache
  number : rest.next = closeGap gap service.next
  children : rest.children = service.children.eraseIdx own
  calls : AreTwins gap own service.calls rest.calls
  results : rest.ended.map (·.result) =
    (service.ended.filter (·.call.number ≠ gap)).map (·.result)
  hits : service.hits = rest.hits + (lookedIn service.log).count (gap, true)
  misses : service.misses = rest.misses + (lookedIn service.log).count (gap, false)

namespace Alike

variable {gap : CallNumber} {own : ChildNumber} {service rest next after : Service}
  {call twin : Call} {event : Event}

/-- An idle service has no calls that it could be without. -/
theorem create (gap : CallNumber) (own : ChildNumber) (settings : Settings)
    (overrides : Overrides) :
    Alike gap own (create settings overrides) (create settings overrides) where
  setup := rfl
  pipeline := rfl
  ownsWorkers := rfl
  cache := rfl
  number := by simp [Service.create, closeGap]
  children := rfl
  calls := .nil
  results := rfl
  hits := rfl
  misses := rfl

/-- The return code of a child that is not left out. -/
theorem codeOf_eq (alike : Alike gap own service rest) {child : ChildNumber}
    (other : child ≠ own) : rest.codeOf (closeGap own child) = service.codeOf child := by
  rw [codeOf, codeOf, alike.children, getElem?_eraseIdx_closeGap _ other]

/-- The lock of a call is free for its twin. -/
theorem isFree (alike : Alike gap own service rest) (guarded : service.Guarded)
    (restGuarded : rest.Guarded) (member : call ∈ service.calls) (inTwins : twin ∈ rest.calls)
    (same : IsTwin gap own call twin) (free : service.guards.isFree call.lock = true) :
    rest.guards.isFree twin.lock = true := by
  by_contra held
  obtain ⟨number, holds⟩ : ∃ number, rest.guards.holders.get? twin.lock = some number := by
    refine Option.ne_none_iff_exists'.mp ?_
    simpa [Guards.isFree, Table.has_eq_isSome] using held
  obtain ⟨holder, inRest, _, lock, works⟩ := (restGuarded.serves.holder_iff _ _).mp holds
  obtain ⟨original, inCalls, sameHolder⟩ := alike.calls.exists_call inRest
  -- The holder is on the same signature, for which the call would have to wait as well.
  have signature : holder.signature = twin.signature := by
    have first := restGuarded.serves.lock_eq holder inRest
    rw [lock] at first
    exact restGuarded.serves.lock_inj first (restGuarded.serves.lock_eq twin inTwins)
  rw [sameHolder.signature, same.signature] at signature
  have sameLock := guarded.serves.lock_unique inCalls member signature
  have holdsCall := (guarded.serves.holder_iff call.lock original.number).mpr
    ⟨original, inCalls, rfl, sameLock, sameHolder.works_iff.mp works⟩
  simp [Guards.isFree, Table.has_eq_isSome, holdsCall] at free

/-! ### Steps of the call that is left out -/

/-- A change that is one of the call that is left out, and not of what it looks up. -/
theorem of_own (alike : Alike gap own service rest) (setup : next.setup = service.setup)
    (pipeline : next.pipeline = service.pipeline)
    (ownsWorkers : next.ownsWorkers = service.ownsWorkers) (cache : next.cache = service.cache)
    (number : next.next = service.next)
    (children : next.children.eraseIdx own = service.children.eraseIdx own)
    (calls : AreTwins gap own next.calls rest.calls)
    (ended : next.ended.filter (·.call.number ≠ gap) = service.ended.filter (·.call.number ≠ gap))
    (hits : next.hits = service.hits) (misses : next.misses = service.misses)
    (looked : lookedIn next.log = lookedIn service.log) : Alike gap own next rest where
  setup := alike.setup.trans setup.symm
  pipeline := alike.pipeline.trans pipeline.symm
  ownsWorkers := alike.ownsWorkers.trans ownsWorkers.symm
  cache := alike.cache.trans cache.symm
  number := by rw [number, alike.number]
  children := alike.children.trans children.symm
  calls := calls
  results := by rw [ended, alike.results]
  hits := by rw [hits, looked, alike.hits]
  misses := by rw [misses, looked, alike.misses]

/-- The call that is left out comes. -/
theorem enter_own (alike : Alike gap own service rest) (arrives : service.next = gap)
    (state : Project.State) (request : Request) :
    Alike gap own (service.enter state request) rest := by
  have calls : AreTwins gap own (service.enter state request).calls rest.calls :=
    alike.calls.concat_self arrives
  refine { alike with number := ?_, calls := calls }
  rw [alike.number, arrives]
  exact arrives ▸ (closeGap_succ_self service.next).symm

/-- The call that is left out takes its lock and is counted. -/
theorem acquire_own (alike : Alike gap own service rest) (self : call.number = gap) :
    Alike gap own (service.acquire call) rest := by
  have calls : AreTwins gap own
      (replaced service.calls (call.looked (service.cache.get? call.signature))) rest.calls :=
    alike.calls.replace_self self
  rw [acquire_eq_counted]
  have looked (found : Bool) : lookedIn (service.log ++ [.looked call.number found]) =
      lookedIn service.log ++ [(gap, found)] := by
    rw [lookedIn_append, self]
    rfl
  refine { alike with calls := calls, hits := ?_, misses := ?_ }
  · change _ = rest.hits + (lookedIn (service.log ++ _)).count _
    rw [looked, List.count_append, ← Nat.add_assoc, ← alike.hits]
    cases service.cache.get? call.signature <;> simp [note, withCall]
  · change _ = rest.misses + (lookedIn (service.log ++ _)).count _
    rw [looked, List.count_append, ← Nat.add_assoc, ← alike.misses]
    cases service.cache.get? call.signature <;> simp [note, withCall]

/-- The call that is left out comes into another phase. -/
theorem advance_own {phase : Phase} {notes : List Note} (alike : Alike gap own service rest)
    (advances : service.Advances next call phase notes) (self : call.number = gap)
    (children : next.children.eraseIdx own = service.children.eraseIdx own) :
    Alike gap own next rest := by
  have looked : lookedIn (service.log ++ notes) = lookedIn service.log := by
    rw [lookedIn_append, advances.silent.1, List.append_nil]
  have calls : AreTwins gap own (replaced service.calls { call with phase }) rest.calls :=
    alike.calls.replace_self self
  rw [advances.frame]
  exact alike.of_own rfl rfl rfl rfl rfl children calls rfl rfl rfl looked

/-- The call that is left out ends. -/
theorem finish_own (alike : Alike gap own service rest) (self : call.number = gap)
    {result : Except Failure (List Item)} (ends : service.finish? call result = some next) :
    Alike gap own next rest := by
  obtain ⟨guards, _, rfl⟩ := finish?_eq_some_iff.mp ends
  have calls : AreTwins gap own (service.calls.filter (·.number ≠ call.number)) rest.calls := by
    rw [self]
    exact alike.calls.filter_self
  refine alike.of_own rfl rfl rfl rfl rfl rfl calls ?_ rfl rfl ?_
  · rw [List.filter_append]
    simp [self]
  · exact (lookedIn_append _ _).trans (List.append_nil _)

/-- What is written down does not matter, as long as it is not about the cache. -/
theorem note_own (alike : Alike gap own service rest) (notes : List Note)
    (silent : lookedIn notes = []) : Alike gap own (service.note notes) rest := by
  refine alike.of_own rfl rfl rfl rfl rfl rfl alike.calls rfl rfl rfl ?_
  exact (lookedIn_append _ _).trans (silent ▸ List.append_nil _)

/-- The child of the call that is left out ends. -/
theorem exit_own (alike : Alike gap own service rest) (code : Int) :
    Alike gap own (service.exited own code) rest :=
  alike.of_own rfl rfl rfl rfl rfl (List.eraseIdx_modify_of_eq _ _ _) alike.calls rfl rfl rfl rfl

/-! ### Steps of other calls -/

/-- Another call comes. -/
theorem enter (alike : Alike gap own service rest) (other : service.next ≠ gap)
    (state : Project.State) (request : Request) :
    Alike gap own (service.enter state request) (rest.enter state request) := by
  have twin : IsTwin gap own (service.arrival state request) (rest.arrival state request) :=
    ⟨other, alike.number, rfl, rfl, rfl, rfl, rfl⟩
  refine { alike with number := ?_, calls := alike.calls.concat twin }
  exact (congrArg (· + 1) alike.number).trans (closeGap_succ other).symm

/-- Another call takes its lock and finds the same. -/
theorem acquire (alike : Alike gap own service rest) (same : IsTwin gap own call twin) :
    Alike gap own (service.acquire call) (rest.acquire twin) := by
  have found : rest.cache.get? twin.signature = service.cache.get? call.signature := by
    rw [alike.cache, same.signature]
  have calls : AreTwins gap own
      (replaced service.calls (call.looked (service.cache.get? call.signature)))
      (replaced rest.calls (twin.looked (service.cache.get? call.signature))) :=
    alike.calls.replace (same.looked _)
  have looked (found hit : Bool) :
      (lookedIn (service.log ++ [.looked call.number found])).count (gap, hit) =
        (lookedIn service.log).count (gap, hit) := by
    rw [lookedIn_append, List.count_append]
    simp [lookedIn, same.other]
  rw [acquire_eq_counted, acquire_eq_counted, found]
  refine { alike with calls := calls, hits := ?_, misses := ?_ }
  · change service.hits + _ = rest.hits + _ + (lookedIn (service.log ++ _)).count _
    rw [looked, alike.hits, Nat.add_right_comm]
  · change service.misses + _ = rest.misses + _ + (lookedIn (service.log ++ _)).count _
    rw [looked, alike.misses, Nat.add_right_comm]

/-- Another call comes into another phase. -/
theorem advance {phase : Phase} {notes twinNotes : List Note} (alike : Alike gap own service rest)
    (same : IsTwin gap own call twin) (advances : service.Advances next call phase notes)
    (twinAdvances : rest.Advances after twin (phase.renumbered own) twinNotes)
    (children : after.children = next.children.eraseIdx own) : Alike gap own next after := by
  have looked : lookedIn (service.log ++ notes) = lookedIn service.log := by
    rw [lookedIn_append, advances.silent.1, List.append_nil]
  have calls : AreTwins gap own (replaced service.calls { call with phase })
      (replaced rest.calls { twin with phase := phase.renumbered own }) :=
    alike.calls.replace (same.advance phase)
  rw [advances.frame, twinAdvances.frame]
  refine { alike with children := children, calls := calls, hits := ?_, misses := ?_ }
  · exact alike.hits.trans (by rw [← looked]; rfl)
  · exact alike.misses.trans (by rw [← looked]; rfl)

/-- What is written down does not matter, as long as it is not about the cache. -/
theorem note (alike : Alike gap own service rest) (notes twinNotes : List Note)
    (silent : lookedIn notes = []) :
    Alike gap own (service.note notes) (rest.note twinNotes) :=
  { alike.note_own notes silent with }

/-- Another call puts its candidates into the cache. -/
theorem store (alike : Alike gap own service rest) (same : IsTwin gap own call twin)
    (candidates : List Candidate) :
    Alike gap own (service.store call candidates) (rest.store twin candidates) := by
  unfold Service.store
  rw [same.hit?]
  split
  · exact alike
  · refine Alike.note ?_ _ _ rfl
    refine { alike with cache := ?_ }
    rw [alike.cache, same.signature]

/-- Another call ends with the same result. -/
theorem finish (alike : Alike gap own service rest) (same : IsTwin gap own call twin)
    {result : Except Failure (List Item)} (ends : service.finish? call result = some next)
    (twinEnds : rest.finish? twin result = some after) : Alike gap own next after := by
  obtain ⟨guards, _, rfl⟩ := finish?_eq_some_iff.mp ends
  obtain ⟨restGuards, _, rfl⟩ := finish?_eq_some_iff.mp twinEnds
  have looked (note : Note) (silent : lookedIn [note] = []) :
      lookedIn (service.log ++ [note]) = lookedIn service.log := by
    rw [lookedIn_append, silent, List.append_nil]
  refine { alike with calls := alike.calls.filter same, results := ?_, hits := ?_, misses := ?_ }
  · rw [List.filter_append, List.map_append, List.map_append, alike.results]
    simp [same.other]
  · rw [looked _ rfl]
    exact alike.hits
  · rw [looked _ rfl]
    exact alike.misses

/-- A child that is not left out ends. -/
theorem exit (alike : Alike gap own service rest) {child : ChildNumber} (other : child ≠ own)
    (code : Int) :
    Alike gap own (service.exited child code) (rest.exited (closeGap own child) code) := by
  refine { alike with children := ?_ }
  change rest.children.modify _ _ = (service.children.modify _ _).eraseIdx own
  rw [alike.children, eraseIdx_modify _ other]

/-- The workers are sent home. -/
theorem close (alike : Alike gap own service rest) : Alike gap own service.close rest.close := by
  unfold Service.close
  rw [alike.ownsWorkers]
  split
  · refine { alike with ownsWorkers := rfl, pipeline := ?_ }
    rw [alike.pipeline]
  · exact alike

/-! ### Every step -/

/-- Time is over for a call as it is for its twin. -/
theorem timeoutFailure_eq (alike : Alike gap own service rest) :
    rest.timeoutFailure = service.timeoutFailure := by
  rw [timeoutFailure, alike.setup, timeoutFailure]

/-- Without a call the same starts are allowed. -/
theorem allowsStart_eq (alike : Alike gap own service rest) :
    rest.allowsStart = service.allowsStart := by
  rw [allowsStart, alike.setup, allowsStart]

/-- A call is given up for the same reason as its twin. -/
theorem givesUp (alike : Alike gap own service rest) (same : IsTwin gap own call twin)
    {failure : Failure} (cause : service.GivesUp call event failure) :
    rest.GivesUp twin (event.renumbered gap own) failure := by
  cases cause with
  | expire =>
    rw [Event.renumbered, ← same.number, ← alike.timeoutFailure_eq]
    exact .expire
  | cancel =>
    rw [Event.renumbered, ← same.number]
    exact .cancel

/-- A call fails for the same reason as its twin. -/
theorem fails (alike : Alike gap own service rest) (same : IsTwin gap own call twin)
    (apart : ∀ place, call.phase.Awaits place → place ≠ own) {notes : List Note}
    {failure : Failure} (cause : service.Fails call event notes failure) :
    ∃ twinNotes, rest.Fails twin (event.renumbered gap own) twinNotes failure := by
  have phase := same.phase
  cases cause with
  | unread reads =>
    rw [reads] at phase
    rw [Event.renumbered, ← same.number]
    exact ⟨_, .unread phase⟩
  | unstarted starts allows =>
    rw [starts] at phase
    rw [Event.renumbered, ← same.number, ← alike.setup]
    exact ⟨_, .unstarted phase (alike.allowsStart_eq.trans allows)⟩
  | @unusable child _ _ _ _ runs ended printed =>
    have code := alike.codeOf_eq (apart child (.inl runs))
    rw [runs] at phase
    rw [Event.renumbered, ← same.number]
    exact ⟨_, .unusable phase (code.trans ended) printed⟩
  | late starts =>
    rw [starts] at phase
    rw [Event.renumbered, ← same.number, ← alike.timeoutFailure_eq]
    exact ⟨_, .late phase⟩
  | @settled child _ _ runs ended cause =>
    have code := alike.codeOf_eq (apart child (.inl runs))
    rw [runs] at phase
    rw [← code] at ended
    exact ⟨_, .settled phase ended (alike.givesUp same cause)⟩
  | cancelled running reaping =>
    rw [Event.renumbered, ← same.number]
    refine ⟨_, .cancelled ?_ ?_⟩
    · intro child runs
      cases earlier : call.phase with
      | running place => exact running place earlier
      | _ => simp [phase, earlier, Phase.renumbered] at runs
    · intro child given waits
      cases earlier : call.phase with
      | reaping place failure => exact reaping place failure earlier
      | _ => simp [phase, earlier, Phase.renumbered] at waits
  | abandoned waits =>
    rw [waits] at phase
    rw [Event.renumbered, ← same.number]
    exact ⟨_, .abandoned phase⟩
  | @reaped child _ waits ended =>
    have code := alike.codeOf_eq (apart child (.inr ⟨_, waits⟩))
    rw [waits] at phase
    rw [← code] at ended
    rw [Event.renumbered, ← same.number]
    exact ⟨_, .reaped phase ended⟩

end Alike

/-- A call, once it has ended, has failed, and not for lack of items. -/
def Futile (gap : CallNumber) (service : Service) : Prop :=
  ∀ one ∈ service.ended, one.call.number = gap →
    ∃ failure, one.result = .error failure ∧ failure ≠ .refused .emptyResult

/-- Items that are known are given, or refused because there are none. -/
theorem resultOf_eq (emptyIsError : Bool) (items : List Item) :
    resultOf emptyIsError items = .ok items ∨
      resultOf emptyIsError items = .error (.refused .emptyResult) := by
  unfold resultOf
  split
  · exact .inr rfl
  · exact .inl rfl

/-- A call can always end. -/
theorem Guarded.exists_finish {service : Service} {call : Call} (guarded : service.Guarded)
    (member : call ∈ service.calls) (other : Service) (guards : other.guards = service.guards)
    (result : Except Failure (List Item)) : ∃ next, other.finish? call result = some next := by
  obtain ⟨left, leaves⟩ := Option.isSome_iff_exists.mp (guarded.leave?_isSome member)
  rw [← guards] at leaves
  exact ⟨_, finish?_eq_some_iff.mpr ⟨left, leaves, rfl⟩⟩

namespace Alike

variable {gap : CallNumber} {own : ChildNumber} {service rest next : Service} {event : Event}

/-- A step of the call that is left out, which is futile, or of its child. -/
theorem step_own (alike : Alike gap own service rest) (change : Transition service event next)
    (isOwn : event.isOf gap own service.next = true)
    (starts : ∀ number, event.spawner? = some number →
      (service.children.length = own ↔ number = gap))
    (apart : ∀ call ∈ service.calls, ∀ place, call.phase.Awaits place →
      (place = own ↔ call.number = gap))
    (futile : Futile gap next) : Alike gap own next rest := by
  cases change with
  | enter state request => exact alike.enter_own (of_decide_eq_true isOwn) state request
  | acquire => exact alike.acquire_own (of_decide_eq_true isOwn)
  | read found reads => exact alike.advance_own (.read found reads) (of_decide_eq_true isOwn) rfl
  | spawn found starting =>
    have self := of_decide_eq_true isOwn
    exact alike.advance_own (.spawn found starting) self
      (eraseIdx_concat_self _ _ ((starts _ rfl).mpr self))
  | exit code =>
    obtain rfl := of_decide_eq_true isOwn
    exact alike.exit_own code
  | output found runs =>
    exact alike.advance_own (.output found runs _) (of_decide_eq_true isOwn) rfl
  | @kill call child _ failure found runs _ cause =>
    rw [cause.isOf_eq] at isOwn
    have self := of_decide_eq_true isOwn
    have member := (mem_of_call?_eq_some found).1
    obtain rfl := (apart call member child (.inl runs)).mpr self
    exact alike.advance_own (.kill found runs failure) self (List.eraseIdx_modify_of_eq _ _ _)
  | fail notes failure _ _ _ _ happens cause =>
    rw [cause.isOf_eq] at isOwn
    exact (alike.note_own notes cause.silent.1).finish_own (of_decide_eq_true isOwn) happens
  | @filter call candidates _ _ _ happens =>
    have self : call.number = gap := of_decide_eq_true isOwn
    rcases filter?_eq_some_iff.mp happens with ⟨fault, _, ends⟩ | ⟨items, _, ends⟩
    · exact alike.finish_own self ends
    · -- With items it would not be futile.
      obtain ⟨guards, _, rfl⟩ := finish?_eq_some_iff.mp ends
      obtain ⟨failure, fails, differs⟩ := futile _ (List.mem_append_right _ List.mem_cons_self) self
      rcases resultOf_eq service.setup.emptyIsError items with given | refused
      · simp [given] at fails
      · simp only [refused, Except.error.injEq] at fails
        exact absurd fails.symm differs
  | close => cases isOwn

/-- A step of another call, or of its child, is a step in both. -/
theorem step_other (alike : Alike gap own service rest) (guarded : service.Guarded)
    (restGuarded : rest.Guarded) (change : Transition service event next)
    (isOther : event.isOf gap own service.next = false)
    (starts : ∀ number, event.spawner? = some number →
      (service.children.length = own ↔ number = gap))
    (apart : ∀ call ∈ service.calls, ∀ place, call.phase.Awaits place →
      (place = own ↔ call.number = gap)) :
    ∃ after, Transition rest (event.renumbered gap own) after ∧ Alike gap own next after := by
  -- A call that is not left out is found among the others, with all its children.
  have twinOf {call : Call} (found : service.call? call.number = some call)
      (other : call.number ≠ gap) :
      ∃ twin ∈ rest.calls, rest.call? twin.number = some twin ∧ IsTwin gap own call twin ∧
        ∀ place, call.phase.Awaits place → place ≠ own := by
    have member := (mem_of_call?_eq_some found).1
    obtain ⟨twin, inTwins, same⟩ := alike.calls.exists_twin member other
    exact ⟨twin, inTwins, restGuarded.call?_eq_some inTwins, same,
      fun place awaits self => other ((apart call member place awaits).mp self)⟩
  cases change with
  | enter state request =>
    exact ⟨_, .enter state request, alike.enter (of_decide_eq_false isOther) state request⟩
  | acquire found waits free =>
    obtain ⟨twin, inTwins, restFound, same, _⟩ := twinOf found (of_decide_eq_false isOther)
    have phase := same.phase
    rw [waits] at phase
    have member := (mem_of_call?_eq_some found).1
    rw [Event.renumbered, ← same.number]
    exact ⟨_, .acquire restFound phase (alike.isFree guarded restGuarded member inTwins same free),
      alike.acquire same⟩
  | read found reads =>
    obtain ⟨twin, _, restFound, same, _⟩ := twinOf found (of_decide_eq_false isOther)
    have phase := same.phase
    rw [reads] at phase
    rw [Event.renumbered, ← same.number]
    exact ⟨_, .read restFound phase,
      alike.advance same (.read found reads) (.read restFound phase) alike.children⟩
  | @spawn call contents found starting allows =>
    have other : call.number ≠ gap := of_decide_eq_false isOther
    obtain ⟨twin, _, restFound, same, _⟩ := twinOf found other
    have phase := same.phase
    rw [starting] at phase
    have length : rest.children.length = closeGap own service.children.length := by
      rw [alike.children, length_eraseIdx_eq]
    have twinAdvances := Advances.spawn restFound phase
    rw [length] at twinAdvances
    rw [Event.renumbered, ← same.number]
    refine ⟨_, .spawn restFound phase (alike.allowsStart_eq.trans allows),
      alike.advance same (.spawn found starting) twinAdvances ?_⟩
    change rest.children ++ [_] = (service.children ++ [_]).eraseIdx own
    rw [alike.children, eraseIdx_concat _ _ (mt (starts _ rfl).mp other), same.signature]
  | @exit child one code there runs =>
    have other : child ≠ own := of_decide_eq_false isOther
    rw [← getElem?_eraseIdx_closeGap _ other, ← alike.children] at there
    exact ⟨_, .exit code there runs, alike.exit other code⟩
  | @output call child _ _ _ _ found runs ended printed =>
    obtain ⟨twin, _, restFound, same, others⟩ := twinOf found (of_decide_eq_false isOther)
    have code := alike.codeOf_eq (others child (.inl runs))
    have phase := same.phase
    rw [runs] at phase
    rw [Event.renumbered, ← same.number]
    exact ⟨_, .output restFound phase (code.trans ended) printed,
      alike.advance same (.output found runs _) (.output restFound phase _) alike.children⟩
  | @kill call child _ failure found runs lives cause =>
    rw [cause.isOf_eq] at isOther
    obtain ⟨twin, _, restFound, same, others⟩ := twinOf found (of_decide_eq_false isOther)
    have code := alike.codeOf_eq (others child (.inl runs))
    have phase := same.phase
    rw [runs] at phase
    refine ⟨_, .kill failure restFound phase (code.trans lives) (alike.givesUp same cause),
      alike.advance same (.kill found runs failure) (.kill restFound phase failure) ?_⟩
    change rest.children.modify _ _ = (service.children.modify _ _).eraseIdx own
    rw [alike.children, eraseIdx_modify _ (others child (.inl runs))]
  | fail notes failure found _ _ _ happens cause =>
    rw [cause.isOf_eq] at isOther
    obtain ⟨twin, inTwins, restFound, same, others⟩ := twinOf found (of_decide_eq_false isOther)
    obtain ⟨twinNotes, twinCause⟩ := alike.fails same others cause
    obtain ⟨after, twinEnds⟩ := restGuarded.exists_finish inTwins (rest.note twinNotes) rfl
      (.error failure)
    exact ⟨after, .of_fails restFound twinCause twinEnds,
      (alike.note notes twinNotes cause.silent.1).finish same happens twinEnds⟩
  | @filter call candidates _ found filters happens =>
    obtain ⟨twin, inTwins, restFound, same, _⟩ := twinOf found (of_decide_eq_false isOther)
    have phase := same.phase
    rw [filters] at phase
    have applied : rest.pipeline.apply candidates twin.request twin.state.moduleName =
        service.pipeline.apply candidates call.request call.state.moduleName := by
      rw [alike.pipeline, same.request, same.state]
    rw [Event.renumbered, ← same.number]
    rcases filter?_eq_some_iff.mp happens with ⟨fault, faulty, ends⟩ | ⟨items, kept, ends⟩
    · obtain ⟨after, twinEnds⟩ := restGuarded.exists_finish inTwins rest rfl (.error (.fault fault))
      exact ⟨after, .filter restFound phase
        (filter?_eq_some_iff.mpr (.inl ⟨fault, applied.trans faulty, twinEnds⟩)),
        alike.finish same ends twinEnds⟩
    · obtain ⟨cache, log, stored⟩ := store_eq rest twin candidates
      obtain ⟨after, twinEnds⟩ := restGuarded.exists_finish inTwins (rest.store twin candidates)
        (by rw [stored]) (resultOf rest.setup.emptyIsError items)
      refine ⟨after, .filter restFound phase
        (filter?_eq_some_iff.mpr (.inr ⟨items, applied.trans kept, twinEnds⟩)), ?_⟩
      rw [alike.setup] at twinEnds
      exact (alike.store same candidates).finish same ends twinEnds
  | close => exact ⟨_, .close, alike.close⟩

end Alike

/-! ## The run without the call -/

/-- The calls that have ended stay in the list. -/
theorem Transition.keeps_ended {service next : Service} {event : Event}
    (change : Transition service event next) : service.ended <+: next.ended := by
  cases change with
  | @acquire call => rw [acquire_eq_counted]; exact List.prefix_rfl
  | enter | read | spawn | exit | output | kill => exact List.prefix_rfl
  | fail _ _ _ _ _ _ happens =>
    obtain ⟨guards, _, rfl⟩ := finish?_eq_some_iff.mp happens
    exact List.prefix_append _ _
  | filter _ _ happens =>
    obtain ⟨cache, guards, notes, result, _, rfl⟩ := exists_of_filter?_eq_some happens
    exact List.prefix_append _ _
  | close =>
    unfold Service.close
    split <;> exact List.prefix_rfl

/-- The calls that have ended stay in the list for a whole run. -/
theorem keeps_ended_of_play {service last : Service} {events : List Event}
    (played : service.play events = some last) : service.ended <+: last.ended := by
  induction events generalizing service with
  | nil =>
    obtain rfl := Option.some.inj played
    exact List.prefix_rfl
  | cons event rest ih =>
    obtain ⟨next, happens, played⟩ := Option.bind_eq_some_iff.mp played
    exact (transition_of_step happens).keeps_ended.trans (ih played)

/-- The next number is the number of requests that have come. -/
theorem next_of_play {settings : Settings} {overrides : Overrides} {last : Service}
    {events : List Event} (played : (create settings overrides).play events = some last) :
    last.next = events.countP Event.isArrival := by
  refine invariant_of_play played
    (fun events service => service.next = events.countP Event.isArrival) rfl ?_
  intro front service next event _ counted change
  rw [change.next_eq, counted, List.countP_append]
  cases arrives : event.isArrival <;> simp [arrives]

/-- The place of the only child of a call among all that are started in a run. -/
def childOf (gap : CallNumber) (events : List Event) : ChildNumber :=
  (spawners events).idxOf gap

/-- The child of a call is in its place, and no other is. -/
theorem eq_childOf_iff {events : List Event} (nodup : (spawners events).Nodup)
    {place : ChildNumber} {number gap : CallNumber}
    (started : (spawners events)[place]? = some number) :
    place = childOf gap events ↔ number = gap := by
  obtain ⟨inside, rfl⟩ := List.getElem?_eq_some_iff.mp started
  constructor
  · rintro rfl
    exact List.getElem_idxOf inside
  · rintro rfl
    exact (nodup.idxOf_getElem place inside).symm

/-- A child that was started in a run is there in a longer one. -/
theorem getElem?_spawners_append {front : List Event} (back : List Event) {place : ChildNumber}
    {number : CallNumber} (started : (spawners front)[place]? = some number) :
    (spawners (front ++ back))[place]? = some number := by
  have inside := (List.getElem?_eq_some_iff.mp started).1
  rw [spawners] at started inside ⊢
  rwa [List.filterMap_append, List.getElem?_append_left inside]

/-- In the middle of a run a call is concerned with the child of a call only if it is that call. -/
theorem Owned.eq_childOf_iff {front : List Event} {service : Service} (owned : Owned front service)
    (back : List Event) (nodup : (spawners (front ++ back)).Nodup) (gap : CallNumber) (call : Call)
    (member : call ∈ service.calls) (place : ChildNumber) (awaits : call.phase.Awaits place) :
    place = childOf gap (front ++ back) ↔ call.number = gap := by
  have started := owned.owner call member place awaits
  exact Service.eq_childOf_iff nodup (getElem?_spawners_append back started)

/-- In the middle of a run the child of a call is started only for that call. -/
theorem Owned.length_eq_childOf_iff {front : List Event} {service : Service}
    (owned : Owned front service) {event : Event} (back : List Event)
    (nodup : (spawners (front ++ event :: back)).Nodup) (gap number : CallNumber)
    (asked : event.spawner? = some number) :
    service.children.length = childOf gap (front ++ event :: back) ↔ number = gap := by
  refine Service.eq_childOf_iff nodup ?_
  rw [← owned.length, List.append_cons]
  refine getElem?_spawners_append back ?_
  rw [spawners_concat_of_some front asked]
  exact List.getElem?_concat_length

/-- The whole of a run in which a call is futile has its counterpart without that call. -/
theorem exists_without {settings : Settings} {overrides : Overrides} {last : Service}
    {events : List Event} {gap : CallNumber}
    (played : (create settings overrides).play events = some last) (futile : Futile gap last)
    (front back : List Event) (split : events = front ++ back) :
    ∃ service rest, (create settings overrides).play front = some service ∧
      (create settings overrides).play (without gap (childOf gap events) 0 front) = some rest ∧
      Alike gap (childOf gap events) service rest := by
  induction front using List.reverseRecOn generalizing back with
  | nil => exact ⟨_, _, rfl, rfl, .create _ _ settings overrides⟩
  | append_singleton front event ih =>
    have parts : events = front ++ event :: back := by simp [split]
    obtain ⟨service, rest, playedFront, playedRest, alike⟩ := ih (event :: back) parts
    obtain ⟨next, happens, playedLast⟩ : ∃ next, service.step event = some next ∧
        next.play back = some last := by
      rw [parts, play, Machine.play_append_of_play playedFront] at played
      exact Option.bind_eq_some_iff.mp played
    have playedNext : (create settings overrides).play (front ++ [event]) = some next := by
      exact Machine.play_concat_eq_some_iff.mpr ⟨service, playedFront, happens⟩
    have change := transition_of_step happens
    have owned := owned_of_play playedFront
    have nodup := (owned_of_play played).nodup
    have starts (number : CallNumber) (asked : event.spawner? = some number) :
        service.children.length = childOf gap events ↔ number = gap := by
      rw [parts] at nodup ⊢
      exact owned.length_eq_childOf_iff back nodup gap number asked
    have apart (call : Call) (member : call ∈ service.calls) (place : ChildNumber)
        (awaits : call.phase.Awaits place) : place = childOf gap events ↔ call.number = gap := by
      rw [parts] at nodup ⊢
      exact owned.eq_childOf_iff _ nodup gap call member place awaits
    have stays := keeps_ended_of_play playedLast
    have image : without gap (childOf gap events) 0 (front ++ [event]) =
        without gap (childOf gap events) 0 front ++
          without gap (childOf gap events) service.next [event] := by
      rw [without_append, Nat.zero_add, ← next_of_play playedFront]
    refine ⟨next, ?_⟩
    cases isOwn : event.isOf gap (childOf gap events) service.next with
    | true =>
      refine ⟨rest, playedNext, ?_, ?_⟩
      · simp [image, without, isOwn, playedRest]
      · exact alike.step_own change isOwn starts apart fun one inEnded =>
          futile one (stays.subset inEnded)
    | false =>
      have guarded := (Reachable.start.of_play playedFront).guarded
      have restGuarded := (Reachable.start.of_play playedRest).guarded
      obtain ⟨after, restChange, alike⟩ :=
        alike.step_other guarded restGuarded change isOwn starts apart
      refine ⟨after, playedNext, ?_, alike⟩
      rw [image]
      simp only [without, isOwn]
      exact Machine.play_concat_eq_some_iff.mpr
        ⟨rest, playedRest, step_of_transition restChange⟩

end CompletionServer.Service
