import CompletionServer.Proofs.Service.Retention

/-!
# A cache that is handed over

A service can be given a cache to keep its candidates in. It takes the cache only if there is
something in it: an empty one counts as none, and the service makes a cache of its own, as large as
its settings say. Whichever cache that is, all results go into it and nothing else does. So it
bounds what the service retains, and its capacity is the one that the service reports.
-/

namespace CompletionServer

namespace Cache

/-- No operation changes the capacity. -/
theorem capacity_after {α : Type} (cache : Cache α) (operations : List (Operation α)) :
    (cache.after operations).capacity = cache.capacity := by
  induction operations using List.reverseRecOn with
  | nil => rfl
  | append_singleton operations operation ih =>
    rw [after_concat, ← ih]
    cases operation with
    | put signature payload => exact capacity_put _ signature payload
    | get | contains | signatures | size | clear => rfl

/-- A new cache has the capacity that is asked for, and room for one at least. -/
theorem capacity_after_create {α : Type} (capacity : Int) (operations : List (Operation α)) :
    ((create capacity).after operations).capacity = (max 1 capacity).toNat :=
  capacity_after _ operations

/-- Whatever is done with a new cache, it holds no more than was asked for. -/
theorem size_after_create_le {α : Type} (capacity : Int) (operations : List (Operation α)) :
    ((create capacity).after operations).size ≤ (max 1 capacity).toNat := by
  have ordered : ((create capacity : Cache α).after operations).Ordered :=
    (Ordered.create capacity).after operations
  have bounded := ordered.bounded
  rw [capacity_after_create] at bounded
  exact bounded

/-- Operations one after the other. -/
theorem after_append {α : Type} (cache : Cache α) (first later : List (Operation α)) :
    cache.after (first ++ later) = (cache.after first).after later :=
  List.foldl_append

end Cache

namespace Service

variable {service next : Service} {call : Call} {event : Event}

/-! ## Where results go -/

/-- What was stored, as operations on a cache. -/
def putsIn (log : List Note) : List (Cache.Operation (List Candidate)) :=
  log.filterMap fun
    | .stored signature candidates => some (.put signature candidates)
    | _ => none

/-- Notes that are added add what was stored. -/
theorem putsIn_append (log notes : List Note) :
    putsIn (log ++ notes) = putsIn log ++ putsIn notes :=
  List.filterMap_append

/-- All that a service stores goes into one cache, and nothing else changes it. A call that found
nothing and has ended with items has stored the candidates that it filtered. -/
structure Fills (cache : Cache (List Candidate)) (service : Service) : Prop where
  cache : service.cache = cache.after (putsIn service.log)
  results : ∀ one ∈ service.ended, one.call.hit? = some false → ∀ items, one.result = .ok items →
    ∃ candidates, one.call.phase = .filtering candidates ∧
      .put one.call.signature candidates ∈ putsIn service.log

namespace Fills

variable {cache : Cache (List Candidate)}

/-- A step writes some notes and does to the cache what they say; a call that ends with items after
it found nothing is among them. -/
theorem of_notes (fills : Fills cache service) (notes : List Note)
    (log : next.log = service.log ++ notes)
    (changed : next.cache = service.cache.after (putsIn notes))
    (ended : ∀ one ∈ next.ended, one ∈ service.ended ∨
      (one.call.hit? = some false → ∀ items, one.result = .ok items →
        ∃ candidates, one.call.phase = .filtering candidates ∧
          .put one.call.signature candidates ∈ putsIn notes)) :
    Fills cache next where
  cache := by
    rw [changed, fills.cache, log, putsIn_append, Cache.after_append]
  results := by
    intro one inEnded missed items given
    rw [log, putsIn_append]
    rcases ended one inEnded with before | new
    · obtain ⟨candidates, filters, stored⟩ := fills.results one before missed items given
      exact ⟨candidates, filters, List.mem_append_left _ stored⟩
    · obtain ⟨candidates, filters, stored⟩ := new missed items given
      exact ⟨candidates, filters, List.mem_append_right _ stored⟩

/-- A call that ends with a failure stores nothing. -/
theorem fail (fills : Fills cache service) {notes : List Note} (unstored : putsIn notes = [])
    {failure : Failure} (ends : (service.note notes).finish? call (.error failure) = some next) :
    Fills cache next := by
  obtain ⟨guards, _, rfl⟩ := finish?_eq_some_iff.mp ends
  refine fills.of_notes (notes ++ [.completed call.number (.ofResult (.error failure))
    (call.hit? == some true)]) (List.append_assoc _ _ _) ?_ ?_
  · rw [putsIn_append, unstored]
    rfl
  · intro one inEnded
    rcases List.mem_append.mp inEnded with before | new
    · exact .inl before
    · right
      rw [List.mem_singleton.mp new]
      intro _ items given
      cases given

/-- A call that filters its candidates stores them if it found nothing and has items. -/
theorem filter (fills : Fills cache service) {candidates : List Candidate}
    (filters : call.phase = .filtering candidates)
    (ends : service.filter? call candidates = some next) : Fills cache next := by
  rcases filter?_eq_some_iff.mp ends with ⟨fault, _, ends⟩ | ⟨items, _, ends⟩
  · have noted : (service.note []).finish? call (.error (.fault fault)) = some next := by
      simpa [note] using ends
    exact fills.fail rfl noted
  · unfold store at ends
    split at ends
    · next hit =>
      obtain ⟨guards, _, rfl⟩ := finish?_eq_some_iff.mp ends
      refine fills.of_notes [_] rfl rfl fun one inEnded => ?_
      rcases List.mem_append.mp inEnded with before | new
      · exact .inl before
      · right
        rw [List.mem_singleton.mp new]
        intro missed
        have both := hit.symm.trans missed
        cases both
    · obtain ⟨guards, _, rfl⟩ := finish?_eq_some_iff.mp ends
      refine fills.of_notes [.stored call.signature candidates, _] (List.append_assoc _ _ _) rfl
        fun one inEnded => ?_
      rcases List.mem_append.mp inEnded with before | new
      · exact .inl before
      · right
        rw [List.mem_singleton.mp new]
        intro _ _ _
        exact ⟨candidates, filters, List.mem_singleton.mpr rfl⟩

/-- Every transition stores into the same cache. -/
theorem transition (fills : Fills cache service) (change : Transition service event next) :
    Fills cache next := by
  have same : ∀ one ∈ service.ended, one ∈ service.ended ∨
      (one.call.hit? = some false → ∀ items, one.result = .ok items →
        ∃ candidates, one.call.phase = .filtering candidates ∧
          .put one.call.signature candidates ∈ putsIn ([] : List Note)) := fun _ => .inl
  have nothing : service.log = service.log ++ [] := (List.append_nil _).symm
  cases change with
  | enter | read | exit | output => exact fills.of_notes [] nothing rfl same
  | @acquire call =>
    rw [acquire_eq_counted]
    exact fills.of_notes [.looked call.number _] rfl rfl same
  | @spawn call contents =>
    exact fills.of_notes [.spawned call.number (service.commandFor call contents)] rfl rfl same
  | @kill _ child => exact fills.of_notes [.killed child, .waited child] rfl rfl same
  | fail notes _ _ asked _ _ happens =>
    have unstored : putsIn notes = [] := by
      rcases asked with rfl | ⟨contents, _, rfl⟩ <;> rfl
    exact fills.fail unstored happens
  | filter _ filters happens => exact fills.filter filters happens
  | close =>
    unfold Service.close
    split
    · exact fills.of_notes [] nothing rfl same
    · exact fills

end Fills

/-- A service that comes about from an idle one fills the cache that it started with. -/
theorem Reachable.fills {settings : Settings} {overrides : Overrides}
    (reachable : Reachable (create settings overrides) service) :
    Fills (startCache settings overrides.cache) service := by
  refine reachable.invariant (Fills (startCache settings overrides.cache)) ⟨rfl, ?_⟩
    fun fills change => fills.transition change
  intro one inEnded
  cases inEnded

/-! ## Which cache it is -/

/-- A service keeps its results in a cache that was made for a capacity: they are what is put into
it, the capacity is reported, and no more candidate lists are retained. -/
structure KeepsIn (service : Service) (cache : Cache (List Candidate)) (capacity : Int) :
    Prop where
  fills : Fills cache service
  reported : ∀ current, (service.stats current).cacheCapacity = (max 1 capacity).toNat
  retained : service.cache.size ≤ (max 1 capacity).toNat

/-- A service that fills a cache keeps to the capacity that the cache was made for. -/
theorem Fills.keepsIn {capacity : Int} {operations : List (Cache.Operation (List Candidate))}
    (fills : Fills ((Cache.create capacity).after operations) service) :
    service.KeepsIn ((Cache.create capacity).after operations) capacity := by
  have past : service.cache = (Cache.create capacity).after (operations ++ putsIn service.log) := by
    rw [fills.cache, Cache.after_append]
  refine ⟨fills, fun current => ?_, ?_⟩
  · show service.cache.capacity = _
    rw [past]
    exact Cache.capacity_after_create capacity _
  · rw [past]
    exact Cache.size_after_create_le capacity _

/-- A cache of some capacity that is handed to a service, with whatever was done to it before, is
the one that all its results go into, if something is in it at that moment: at any time of any run
the service has just put its results into it, reports its capacity and retains no more than that.
If nothing is in it, it is not used: all this holds of a new cache of the capacity in the settings,
whatever the capacity of the one that was given. -/
theorem cache_bounds_service_unless_empty {settings : Settings} {overrides : Overrides}
    {capacity : Int} {operations : List (Cache.Operation (List Candidate))}
    (given : overrides.cache = some ((Cache.create capacity).after operations))
    (reachable : Reachable (create settings overrides) service) :
    (((Cache.create capacity).after operations).size ≠ 0 →
      service.KeepsIn ((Cache.create capacity).after operations) capacity) ∧
    (((Cache.create capacity).after operations).size = 0 →
      service.KeepsIn (.create settings.cacheCapacity) settings.cacheCapacity) := by
  have fills := reachable.fills
  rw [given, startCache] at fills
  constructor
  · intro filled
    rw [if_neg filled] at fills
    exact fills.keepsIn
  · intro empty
    rw [if_pos empty] at fills
    have unused : Fills ((Cache.create settings.cacheCapacity).after []) service := fills
    exact unused.keepsIn

/-- A service that is given an empty cache for one candidate list retains two of them after two
calls, as its settings allow, and one that is given a cache with something in it keeps to that. -/
theorem cache_bounds_service_unless_empty_two_calls :
    (∃ service, Reachable (create .standard { cache := some (.create 1) }) service ∧
      service.cache.size = 2 ∧ service.KeepsIn (.create 5) 5) ∧
    ∃ service, Reachable (create .standard
        { cache := some ((Cache.create 1).after [.put "" []]) }) service ∧
      service.KeepsIn ((Cache.create 1).after [.put "" []]) 1 := by
  constructor
  · have filled : ((create .standard { cache := some (.create 1) }).play
        (missRun 0 0 ++ missRun 1 1)).map (·.cache.size) = some 2 := by
      decide +kernel
    obtain ⟨service, played, size⟩ := Option.map_eq_some_iff.mp filled
    have reachable := Reachable.start.of_play played
    have given : ({ cache := some (.create 1) } : Overrides).cache =
        some ((Cache.create 1).after []) := rfl
    exact ⟨service, reachable, size, (cache_bounds_service_unless_empty given reachable).2 rfl⟩
  · exact ⟨_, .start, (cache_bounds_service_unless_empty rfl .start).1 (by decide)⟩

end Service

end CompletionServer
