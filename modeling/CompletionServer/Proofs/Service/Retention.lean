import CompletionServer.Proofs.Cache.History
import CompletionServer.Proofs.Service.Exclusion
import Mathlib.Data.List.DropRight

/-!
# How long candidates are kept

Once candidates are stored for a signature, no call on it needs the tool before as many other
signatures have been stored as the cache has room for. Two things come together here. A cache that
only ever gets new signatures holds the latest of them, as many as fit. And a service only ever puts
new signatures into its cache: a call that did not find its signature is the only one that works on
it until it ends, so nobody else can have stored it in the meantime.
-/

namespace CompletionServer

/-! ## The latest signatures -/

namespace Cache

/-- The latest of some signatures, as many as fit. -/
def latest (capacity : Nat) (signatures : List String) : List String :=
  signatures.rtake capacity

/-- One more signature comes after the latest, and the first of them may go. -/
theorem latest_concat (capacity : Nat) (signatures : List String) (signature : String) :
    latest capacity (latest capacity signatures ++ [signature]) =
      latest capacity (signatures ++ [signature]) := by
  cases capacity with
  | zero => simp only [latest, List.rtake_zero]
  | succ room =>
    have fewer : (signatures.rtake (room + 1)).rtake room = signatures.rtake room := by
      simp only [List.rtake_eq_reverse_take_reverse, List.reverse_reverse, List.take_take]
      rw [Nat.min_eq_left (Nat.le_succ room)]
    rw [latest, latest, latest, List.rtake_concat_succ, List.rtake_concat_succ, fewer]

/-- All of some signatures that fit are the latest of them. -/
theorem latest_eq_self {capacity : Nat} {signatures : List String}
    (fit : signatures.length ≤ capacity) : latest capacity signatures = signatures := by
  rw [latest, List.rtake, Nat.sub_eq_zero_of_le fit, List.drop_zero]

/-- A new signature that is put into an ordered cache is the latest, and the others that fit
stay. -/
theorem Ordered.keys_put_eq_latest {α : Type} {cache : Cache α} {signature : String}
    (ordered : cache.Ordered) (absent : signature ∉ cache.keys) (payload : α) :
    (cache.put signature payload).keys = latest cache.capacity (cache.keys ++ [signature]) := by
  have bounded : cache.keys.length ≤ cache.capacity := by
    rw [keys, List.length_map]
    exact ordered.bounded
  rw [ordered.keys_put absent]
  split
  · next full =>
    have one : (cache.keys ++ [signature]).length - cache.capacity = 1 := by
      rw [List.length_append, List.length_singleton]
      omega
    rw [latest, List.rtake, one, List.drop_one]
  · next room =>
    rw [latest_eq_self]
    rw [List.length_append, List.length_singleton]
    omega

/-- A signature that is not among the latest any more was followed by as many different others as
fit. -/
theorem exists_others {capacity : Nat} {front between : List String} {signature : String}
    (distinct : (latest capacity (front ++ signature :: between)).Nodup)
    (absent : signature ∉ latest capacity (front ++ signature :: between)) :
    ∃ others : List String, others.Sublist between ∧ others.Nodup ∧ signature ∉ others ∧
      others.length = capacity := by
  have length : (front ++ signature :: between).length = front.length + (between.length + 1) := by
    rw [List.length_append, List.length_cons]
  have many : capacity ≤ between.length := by
    by_contra few
    apply absent
    rw [latest, List.rtake, List.drop_append_of_le_length (by omega)]
    exact List.mem_append_right _ List.mem_cons_self
  have others : latest capacity (front ++ signature :: between) =
      between.drop (between.length - capacity) := by
    have skipped : (front ++ signature :: between).length - capacity =
        front.length + (between.length - capacity + 1) := by omega
    rw [latest, List.rtake, skipped, List.drop_length_add_append, List.drop_succ_cons]
  rw [others] at distinct absent
  refine ⟨_, List.drop_sublist _ _, distinct, absent, ?_⟩
  rw [List.length_drop]
  omega

/-- Each of some signatures, when it was stored into a cache with some keys, was not among the
latest, which were different. -/
def Fresh (capacity : Nat) (keys stored : List String) : Prop :=
  ∀ front signature back, stored = front ++ signature :: back →
    (latest capacity (keys ++ front)).Nodup ∧ signature ∉ latest capacity (keys ++ front)

/-- One more signature that is not among the latest. -/
theorem Fresh.concat {capacity : Nat} {keys stored : List String} {signature : String}
    (fresh : Fresh capacity keys stored) (distinct : (latest capacity (keys ++ stored)).Nodup)
    (absent : signature ∉ latest capacity (keys ++ stored)) :
    Fresh capacity keys (stored ++ [signature]) := by
  intro front other back parts
  rcases List.eq_nil_or_concat back with rfl | ⟨rest, last, rfl⟩
  · obtain ⟨rfl, same⟩ := List.append_inj' parts rfl
    obtain rfl : signature = other := by simpa using same
    exact ⟨distinct, absent⟩
  · rw [List.concat_eq_append, ← List.cons_append, ← List.append_assoc] at parts
    obtain ⟨before, _⟩ := List.append_inj' parts rfl
    exact fresh front other rest before

end Cache

namespace Service

variable {start service next : Service} {call : Call}

/-! ## What a step does to the cache -/

/-- The signatures for which candidates were stored, in this order. -/
def storedIn (log : List Note) : List String :=
  log.filterMap fun
    | .stored signature _ => some signature
    | _ => none

/-- What is written later is stored later. -/
theorem storedIn_append (log notes : List Note) :
    storedIn (log ++ notes) = storedIn log ++ storedIn notes :=
  List.filterMap_append

/-- A call has looked for its signature in vain and needs the tool, or needed it until it had its
candidates. -/
def Call.Missed (call : Call) : Prop :=
  call.phase ≠ .waiting ∧
    ∀ candidates, call.phase = .filtering candidates → call.hit? ≠ some true

/-- A step stores nothing. A call that has missed had missed before, or just did. -/
structure Keeps (service next : Service) : Prop where
  cache : next.cache = service.cache
  log : ∃ notes, next.log = service.log ++ notes ∧ storedIn notes = []
  missed : ∀ call ∈ next.calls, call.Missed →
    (∃ old ∈ service.calls, old.Missed ∧ old.signature = call.signature) ∨
      call.signature ∉ service.cache.keys

/-- In a step a call that has missed stores its candidates and is gone. -/
structure Stores (service next : Service) (call : Call) (candidates : List Candidate) : Prop where
  member : call ∈ service.calls
  missed : call.Missed
  cache : next.cache = service.cache.put call.signature candidates
  log : ∃ notes, next.log = service.log ++ notes ∧ storedIn notes = [call.signature]
  calls : next.calls = service.calls.filter (·.number ≠ call.number)

namespace Keeps

/-- A step that touches neither the calls nor the cache nor the log stores nothing. -/
theorem of_eq (cache : next.cache = service.cache) (log : next.log = service.log)
    (calls : next.calls = service.calls) : service.Keeps next where
  cache := cache
  log := ⟨[], log.trans (List.append_nil _).symm, rfl⟩
  missed := by
    intro call member missed
    rw [calls] at member
    exact .inl ⟨call, member, missed, rfl⟩

/-- A call in a phase of its work comes into another one. -/
theorem of_replaced (new : Call) (notes : List Note) (member : call ∈ service.calls)
    (number : new.number = call.number) (signature : new.signature = call.signature)
    (missed : new.Missed → call.Missed ∨ call.signature ∉ service.cache.keys)
    (cache : next.cache = service.cache) (calls : next.calls = replaced service.calls new)
    (log : next.log = service.log ++ notes) (unstored : storedIn notes = []) :
    service.Keeps next where
  cache := cache
  log := ⟨notes, log, unstored⟩
  missed := by
    intro other inCalls otherMissed
    rw [calls, mem_replaced member number] at inCalls
    rcases inCalls with rfl | ⟨old, _⟩
    · rw [signature]
      exact (missed otherMissed).imp_left fun before => ⟨call, member, before, rfl⟩
    · exact .inl ⟨other, old, otherMissed, rfl⟩

/-- A call at work comes into another phase. It has missed all along. -/
theorem advance {phase : Phase} {notes : List Note}
    (advances : service.Advances next call phase notes) : service.Keeps next := by
  have missed : call.Missed :=
    ⟨advances.worked, fun candidates filters => absurd filters (advances.unfiltered candidates)⟩
  have unstored : storedIn notes = [] := by
    refine List.filterMap_eq_nil_iff.mpr fun note noted => ?_
    rcases advances.about note noted with ⟨contents, rfl⟩ | ⟨child, rfl | rfl⟩
    · rfl
    · rfl
    · rfl
  rw [advances.frame]
  exact of_replaced { call with phase } notes advances.member rfl rfl (fun _ => .inl missed) rfl rfl
    rfl unstored

/-- A call ends after notes in which nothing is stored. -/
theorem finish {notes : List Note} (unstored : storedIn notes = [])
    {result : Except Failure (List Item)}
    (ends : (service.note notes).finish? call result = some next) : service.Keeps next := by
  obtain ⟨guards, _, rfl⟩ := finish?_eq_some_iff.mp ends
  refine ⟨rfl, ⟨_, List.append_assoc _ _ _, ?_⟩, ?_⟩
  · rw [storedIn_append, unstored]
    rfl
  · intro other inCalls missed
    exact .inl ⟨other, (List.mem_filter.mp inCalls).1, missed, rfl⟩

/-- A call looks into the cache. -/
theorem acquire (member : call ∈ service.calls) : service.Keeps (service.acquire call) := by
  obtain ⟨hits, misses, acquired⟩ := acquire_eq service call
  rw [acquired]
  refine of_replaced (call.looked (service.cache.get? call.signature)) _ member rfl rfl ?_ rfl rfl
    rfl rfl
  intro missed
  right
  rw [← Cache.contains_eq_false_iff, ← Cache.get?_isSome]
  cases found : service.cache.get? call.signature with
  | none => rfl
  | some candidates =>
    rw [found] at missed
    exact absurd rfl (missed.2 candidates rfl)

end Keeps

/-- A call that filters its candidates stores them, unless it found them in the cache or filtering
fails. -/
theorem keeps_or_stores_of_filter? {candidates : List Candidate} (member : call ∈ service.calls)
    (filters : call.phase = .filtering candidates)
    (ends : service.filter? call candidates = some next) :
    service.Keeps next ∨ service.Stores next call candidates := by
  have plain {result : Except Failure (List Item)}
      (ends : service.finish? call result = some next) : service.Keeps next := by
    have noted : (service.note []).finish? call result = some next := by
      simpa [note] using ends
    exact .finish rfl noted
  rcases filter?_eq_some_iff.mp ends with ⟨fault, _, ends⟩ | ⟨items, _, ends⟩
  · exact .inl (plain ends)
  · unfold store at ends
    split at ends
    · exact .inl (plain ends)
    · next notHit =>
      obtain ⟨guards, _, rfl⟩ := finish?_eq_some_iff.mp ends
      right
      exact
        { member := member
          missed := ⟨by simp [filters], fun _ _ => notHit⟩
          cache := rfl
          log := ⟨_, List.append_assoc _ _ _, rfl⟩
          calls := rfl }

/-- Every transition stores nothing, or the candidates of one call that has missed. -/
theorem Transition.keeps_or_stores {event : Event} (change : Transition service event next) :
    service.Keeps next ∨ ∃ call candidates, service.Stores next call candidates := by
  cases change with
  | enter state request =>
    refine .inl ⟨rfl, ⟨[], (List.append_nil _).symm, rfl⟩, ?_⟩
    intro call member missed
    rcases List.mem_append.mp member with old | new
    · exact .inl ⟨call, old, missed, rfl⟩
    · rw [List.mem_singleton.mp new] at missed
      exact absurd rfl missed.1
  | acquire found => exact .inl (.acquire (mem_of_call?_eq_some found).1)
  | read found reads => exact .inl (.advance (.read found reads))
  | spawn found starts => exact .inl (.advance (.spawn found starts))
  | exit => exact .inl (.of_eq rfl rfl rfl)
  | output found runs => exact .inl (.advance (.output found runs _))
  | kill failure found runs => exact .inl (.advance (.kill found runs failure))
  | fail notes failure found asked _ _ happens =>
    have unstored : storedIn notes = [] := by
      rcases asked with rfl | ⟨contents, _, rfl⟩
      · rfl
      · rfl
    exact .inl (.finish unstored happens)
  | filter found filters happens =>
    rcases keeps_or_stores_of_filter? (mem_of_call?_eq_some found).1 filters happens with
      keeps | stores
    · exact .inl keeps
    · exact .inr ⟨_, _, stores⟩
  | close =>
    unfold Service.close
    split
    · exact .inl (.of_eq rfl rfl rfl)
    · exact .inl (.of_eq rfl rfl rfl)

/-! ## What the cache holds -/

/-- The cache of a service holds the latest of the signatures that it started with and that were
stored since, each of which was new, and no signature that a call has missed. -/
structure Retains (start service : Service) : Prop where
  ordered : service.cache.Ordered
  capacity : service.cache.capacity = start.cache.capacity
  keys : service.cache.keys =
    Cache.latest start.cache.capacity (start.cache.keys ++ storedIn service.log)
  absent : ∀ call ∈ service.calls, call.Missed → call.signature ∉ service.cache.keys
  fresh : Cache.Fresh start.cache.capacity start.cache.keys (storedIn service.log)

namespace Retains

/-- An idle service with an ordered cache holds what it started with. -/
theorem of_idle (ordered : start.cache.Ordered) (calls : start.calls = [])
    (log : start.log = []) : start.Retains start where
  ordered := ordered
  capacity := rfl
  keys := by
    have fit : start.cache.keys.length ≤ start.cache.capacity := by
      rw [Cache.keys, List.length_map]
      exact ordered.bounded
    rw [log]
    exact ((congrArg _ (List.append_nil _)).trans (Cache.latest_eq_self fit)).symm
  absent := by simp [calls]
  fresh := by
    intro front signature back parts
    rw [log] at parts
    exact absurd parts (by simp [storedIn])

/-- A step that stores nothing. -/
theorem keeps (retains : start.Retains service) (keeps : service.Keeps next) :
    start.Retains next := by
  obtain ⟨notes, log, unstored⟩ := keeps.log
  have same : storedIn next.log = storedIn service.log := by
    rw [log, storedIn_append, unstored, List.append_nil]
  exact
    { ordered := keeps.cache ▸ retains.ordered
      capacity := keeps.cache ▸ retains.capacity
      keys := by
        rw [keeps.cache, same]
        exact retains.keys
      absent := by
        intro call member missed
        rw [keeps.cache]
        rcases keeps.missed call member missed with ⟨old, oldMember, oldMissed, signed⟩ | gone
        · rw [← signed]
          exact retains.absent old oldMember oldMissed
        · exact gone
      fresh := by
        rw [same]
        exact retains.fresh }

/-- A step in which a call stores its candidates. No other call works on its signature, so the calls
that have missed have missed others. -/
theorem stores {candidates : List Candidate} (retains : start.Retains service)
    (guarded : service.Guarded) (stores : service.Stores next call candidates) :
    start.Retains next := by
  have absent := retains.absent call stores.member stores.missed
  obtain ⟨notes, log, stored⟩ := stores.log
  have more : storedIn next.log = storedIn service.log ++ [call.signature] := by
    rw [log, storedIn_append, stored]
  have keys : next.cache.keys =
      Cache.latest start.cache.capacity (service.cache.keys ++ [call.signature]) := by
    rw [stores.cache, retains.ordered.keys_put_eq_latest absent, retains.capacity]
  exact
    { ordered := by
        rw [stores.cache]
        exact retains.ordered.put call.signature candidates
      capacity := by
        rw [stores.cache, Cache.capacity_put]
        exact retains.capacity
      keys := by
        rw [keys, retains.keys, Cache.latest_concat, more, List.append_assoc]
      absent := by
        intro other member missed
        rw [stores.calls] at member
        obtain ⟨inCalls, differs⟩ := List.mem_filter.mp member
        have another : other.signature ≠ call.signature := by
          intro same
          have one := guarded.serves.works_unique inCalls stores.member same missed.1
            stores.missed.1
          simp [one] at differs
        intro there
        rw [keys] at there
        rcases List.mem_append.mp (List.mem_of_mem_drop there) with old | new
        · exact retains.absent other inCalls missed old
        · exact another (List.mem_singleton.mp new)
      fresh := by
        rw [more]
        apply retains.fresh.concat
        · rw [← retains.keys]
          exact retains.ordered.distinct
        · rw [← retains.keys]
          exact absent }

/-- Every transition keeps what the cache holds in this way. -/
theorem transition {event : Event} (retains : start.Retains service) (guarded : service.Guarded)
    (change : Transition service event next) : start.Retains next := by
  rcases change.keeps_or_stores with keeps | ⟨call, candidates, stores⟩
  · exact retains.keeps keeps
  · exact retains.stores guarded stores

/-- Since a signature was stored that a call has missed, as many different others were stored as the
cache has room for. -/
theorem exists_others (retains : start.Retains service) (member : call ∈ service.calls)
    (missed : call.Missed) {front between : List String}
    (parts : storedIn service.log = front ++ call.signature :: between) :
    ∃ others : List String, others.Sublist between ∧ others.Nodup ∧ call.signature ∉ others ∧
      others.length = start.cache.capacity := by
  have distinct := retains.ordered.distinct
  have absent := retains.absent call member missed
  rw [retains.keys, parts, ← List.append_assoc] at distinct absent
  exact Cache.exists_others distinct absent

end Retains

/-- A service that comes about from an idle one with an ordered cache holds the latest
signatures. -/
theorem Reachable.retains {settings : Settings} {overrides : Overrides} {service : Service}
    (ordered : (create settings overrides).cache.Ordered)
    (reachable : Reachable (create settings overrides) service) :
    (create settings overrides).Retains service := by
  have both := reachable.invariant
    (fun service => service.Guarded ∧ (create settings overrides).Retains service)
    ⟨.create settings overrides, .of_idle ordered rfl rfl⟩
    fun holds change => ⟨holds.1.transition change, holds.2.transition holds.1 change⟩
  exact both.2

/-- A service starts with an ordered cache, if one that is given came about by operations. -/
theorem ordered_startCache (settings : Settings) {given : Option (Cache (List Candidate))}
    (made : ∀ cache, given = some cache →
      ∃ capacity operations, cache = (Cache.create capacity).after operations) :
    (startCache settings given).Ordered := by
  unfold startCache
  split
  · next cache =>
    split
    · exact .create settings.cacheCapacity
    · obtain ⟨capacity, operations, rfl⟩ := made cache rfl
      exact (Cache.Ordered.create capacity).after operations
  · exact .create settings.cacheCapacity

/-- Only a call that has missed starts the tool. -/
theorem exists_missed_of_spawn {number : CallNumber} {outcome : Except Fault Unit}
    (happens : service.step (.spawn number outcome) = some next) :
    ∃ call ∈ service.calls, call.number = number ∧ call.Missed := by
  obtain ⟨call, found, rfl, acts⟩ := exists_call_of_bind happens
  split at acts
  · next contents starts =>
    exact ⟨call, (mem_of_call?_eq_some found).1, rfl, by simp [Call.Missed, starts]⟩
  · contradiction

/-- In every service that comes about from an idle one, with a cache of its own or one that came
about by operations:

- between two stores for one signature there are stores for as many different other signatures as
  the cache has room for;
- so there are between a store for a signature and any later time at which a call on it has missed,
  and only a call that has missed starts the tool;
- a step stores nothing and leaves the cache alone, or it puts one signature into it that is not
  there. -/
theorem stores_spaced_by_capacity {settings : Settings} {overrides : Overrides} {service : Service}
    (made : ∀ cache, overrides.cache = some cache →
      ∃ capacity operations, cache = (Cache.create capacity).after operations)
    (reachable : Reachable (create settings overrides) service) :
    (∀ signature front between back,
      storedIn service.log = front ++ signature :: (between ++ signature :: back) →
      ∃ others : List String, others.Sublist between ∧ others.Nodup ∧ signature ∉ others ∧
        others.length = (create settings overrides).cache.capacity) ∧
      (∀ call ∈ service.calls, call.Missed → ∀ front between,
        storedIn service.log = front ++ call.signature :: between →
        ∃ others : List String, others.Sublist between ∧ others.Nodup ∧ call.signature ∉ others ∧
          others.length = (create settings overrides).cache.capacity) ∧
      (∀ number outcome next, service.step (.spawn number outcome) = some next →
        ∃ call ∈ service.calls, call.number = number ∧ call.Missed) ∧
      (∀ event next, service.step event = some next → ∃ notes, next.log = service.log ++ notes ∧
        ((storedIn notes = [] ∧ next.cache = service.cache) ∨
          ∃ signature candidates, storedIn notes = [signature] ∧
            next.cache = service.cache.put signature candidates ∧
            service.cache.contains signature = false)) := by
  have retains := reachable.retains (ordered_startCache settings made)
  refine ⟨?_, fun call member missed front between => retains.exists_others member missed,
    fun number outcome next => exists_missed_of_spawn, ?_⟩
  · intro signature front between back parts
    have again : storedIn service.log = (front ++ signature :: between) ++ signature :: back := by
      rw [parts, List.append_assoc, List.cons_append]
    obtain ⟨distinct, absent⟩ := retains.fresh _ _ _ again
    rw [← List.append_assoc] at distinct absent
    exact Cache.exists_others distinct absent
  · intro event next happens
    rcases (transition_of_step happens).keeps_or_stores with keeps | ⟨call, candidates, stores⟩
    · obtain ⟨notes, log, unstored⟩ := keeps.log
      exact ⟨notes, log, .inl ⟨unstored, keeps.cache⟩⟩
    · obtain ⟨notes, log, stored⟩ := stores.log
      have absent := retains.absent call stores.member stores.missed
      exact ⟨notes, log, .inr ⟨call.signature, candidates, stored, stores.cache,
        (Cache.contains_eq_false_iff _ _).mpr absent⟩⟩

/-- The events of a call whose tool prints nothing. -/
def missRun (number : CallNumber) (offset : Nat) : List Event :=
  [.enter default { (default : Request) with byteOffset := offset }, .acquire number,
    .read number (.ok ""), .spawn number (.ok ()), .exit number 0, .output number [] [],
    .filter number]

/-- In a cache with room for one, a position is stored again after another one was stored. -/
theorem stores_spaced_in_three_calls :
    ∃ service,
      Reachable (create { Settings.standard with cacheCapacity := 1 } {}) service ∧
        storedIn service.log =
          [Signature.make 0 "" "", Signature.make 1 "" "", Signature.make 0 "" ""] ∧
        ∃ others : List String, others.Sublist [Signature.make 1 "" ""] ∧
          Signature.make 0 "" "" ∉ others ∧ others.length = 1 := by
  have stored : ((create { Settings.standard with cacheCapacity := 1 } {}).play
      (missRun 0 0 ++ missRun 1 1 ++ missRun 2 0)).map (fun service => storedIn service.log) =
      some [Signature.make 0 "" "", Signature.make 1 "" "", Signature.make 0 "" ""] := by
    decide +kernel
  obtain ⟨service, played, stored⟩ := Option.map_eq_some_iff.mp stored
  have reachable := Reachable.start.of_play played
  obtain ⟨spaced, _⟩ := stores_spaced_by_capacity (by simp) reachable
  obtain ⟨others, among, _, absent, many⟩ :=
    spaced (Signature.make 0 "" "") [] [Signature.make 1 "" ""] [] stored
  exact ⟨service, reachable, stored, others, among, absent, many⟩

end Service

end CompletionServer
