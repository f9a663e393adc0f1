import CompletionServer.Proofs.Cache.Order
import CompletionServer.Table

/-!
# The cache as a bounded queue

`Queue` is what the cache is meant to be: a list of signatures with their payloads, the oldest
first, that never grows beyond its capacity. It has no numbers and looks for no oldest entry. The
main statement is that nobody who uses a cache from its creation on can tell it from a queue,
whatever operations are performed in whatever order.
-/

namespace CompletionServer

/-! ## The queue -/

/-- Signatures and their payloads, the oldest first: no signature twice, and no more of them than
the capacity, which is not zero. -/
@[ext] structure Queue (α : Type) where
  capacity : Nat
  pairs : Table String α
  positive : 0 < capacity
  distinct : (pairs.map (·.1)).Nodup
  bounded : pairs.length ≤ capacity

namespace Queue

variable {α : Type}

/-- An empty queue. It has room for at least one signature. -/
def empty (capacity : Int) : Queue α :=
  ⟨(max 1 capacity).toNat, [], by omega, List.nodup_nil, Nat.zero_le _⟩

/-- The pairs without the first, if there are more than the capacity. -/
def trimmed (capacity : Nat) (pairs : Table String α) : Table String α :=
  if capacity < pairs.length then pairs.tail else pairs

/-- What is trimmed away leaves the others in their order. -/
theorem trimmed_sublist (capacity : Nat) (pairs : Table String α) :
    (trimmed capacity pairs).Sublist pairs := by
  unfold trimmed
  split
  · exact List.tail_sublist pairs
  · exact List.Sublist.refl pairs

/-- One pair too many is trimmed away. -/
theorem length_trimmed_le {capacity : Nat} {pairs : Table String α}
    (almost : pairs.length ≤ capacity + 1) : (trimmed capacity pairs).length ≤ capacity := by
  unfold trimmed
  split
  · rw [List.length_tail]
    omega
  · omega

/-- A key that is there stays where it is when it is given a value. -/
theorem map_fst_set {pairs : Table String α} {signature : String}
    (present : pairs.has signature = true) (payload : α) :
    (pairs.set signature payload).map (·.1) = pairs.map (·.1) := by
  rw [Table.set, if_pos present, List.map_map]
  apply List.map_congr_left
  intro pair _
  by_cases same : pair.1 = signature
  · simp [same]
  · simp [same]

/-- A signature that has no payload is not among the signatures. -/
theorem not_mem_of_has_eq_false {pairs : Table String α} {signature : String}
    (absent : ¬pairs.has signature = true) : signature ∉ pairs.map (·.1) := by
  intro member
  obtain ⟨pair, there, named⟩ := List.mem_map.mp member
  exact absent (List.any_eq_true.mpr ⟨pair, there, decide_eq_true named⟩)

/-- Something put under a signature: in the place of what is there, or at the end, where it may
drive out the first. -/
def put (queue : Queue α) (signature : String) (payload : α) : Queue α :=
  if present : queue.pairs.has signature = true then
    { queue with
      pairs := queue.pairs.set signature payload
      distinct := by
        rw [map_fst_set present]
        exact queue.distinct
      bounded := by
        rw [Table.set, if_pos present, List.length_map]
        exact queue.bounded }
  else
    { queue with
      pairs := trimmed queue.capacity (queue.pairs ++ [(signature, payload)])
      distinct := by
        refine List.Nodup.sublist ((trimmed_sublist _ _).map _) ?_
        rw [List.map_append, List.map_singleton, ← List.concat_eq_append]
        exact queue.distinct.concat (not_mem_of_has_eq_false present)
      bounded := by
        apply length_trimmed_le
        rw [List.length_append, List.length_singleton]
        exact Nat.succ_le_succ queue.bounded }

/-- The queue without its pairs. -/
def clear (queue : Queue α) : Queue α :=
  { queue with pairs := [], distinct := List.nodup_nil, bounded := Nat.zero_le _ }

end Queue

/-! ## Operations and what they answer -/

namespace Cache

variable {α : Type}

/-- What can be asked of a cache. -/
inductive Operation (α : Type)
  | get (signature : String)
  | put (signature : String) (payload : α)
  | contains (signature : String)
  | signatures
  | size
  | clear

/-- What is seen of an operation. -/
inductive Answer (α : Type)
  | found (payload : Option α)
  | held (present : Bool)
  | listed (signatures : List String)
  | counted (size : Nat)
  | done

/-- What an operation on a cache answers, and the cache after it. -/
def perform (cache : Cache α) : Operation α → Answer α × Cache α
  | .get signature => (.found (cache.get? signature), cache)
  | .put signature payload => (.done, cache.put signature payload)
  | .contains signature => (.held (cache.contains signature), cache)
  | .signatures => (.listed cache.signatures, cache)
  | .size => (.counted cache.size, cache)
  | .clear => (.done, cache.clear)

/-- What some operations on a cache answer, one after the other. -/
def answers (cache : Cache α) : List (Operation α) → List (Answer α)
  | [] => []
  | operation :: rest => (cache.perform operation).1 :: (cache.perform operation).2.answers rest

/-- The cache after some operations. -/
def after (cache : Cache α) (operations : List (Operation α)) : Cache α :=
  operations.foldl (fun cache operation => (cache.perform operation).2) cache

end Cache

namespace Queue

variable {α : Type}

open Cache (Operation Answer)

/-- What an operation on a queue answers, and the queue after it. -/
def perform (queue : Queue α) : Operation α → Answer α × Queue α
  | .get signature => (.found (queue.pairs.get? signature), queue)
  | .put signature payload => (.done, queue.put signature payload)
  | .contains signature => (.held (queue.pairs.has signature), queue)
  | .signatures => (.listed (queue.pairs.map (·.1)), queue)
  | .size => (.counted queue.pairs.length, queue)
  | .clear => (.done, queue.clear)

/-- What some operations on a queue answer, one after the other. -/
def answers (queue : Queue α) : List (Operation α) → List (Answer α)
  | [] => []
  | operation :: rest => (queue.perform operation).1 :: (queue.perform operation).2.answers rest

end Queue

namespace Cache

variable {α : Type} {cache : Cache α}

/-! ## An ordered cache is a queue -/

/-- The signatures and payloads of the entries, as they stand. -/
def pairs (cache : Cache α) : Table String α :=
  cache.entries.map fun entry => (entry.signature, entry.payload)

/-- The keys are the signatures of the pairs. -/
theorem map_fst_pairs (cache : Cache α) : cache.pairs.map (·.1) = cache.keys := by
  rw [pairs, List.map_map]
  rfl

/-- The queue that an ordered cache is. -/
def toQueue (cache : Cache α) (ordered : cache.Ordered) : Queue α where
  capacity := cache.capacity
  pairs := cache.pairs
  positive := ordered.positive
  distinct := by
    rw [map_fst_pairs]
    exact ordered.distinct
  bounded := by
    rw [pairs, List.length_map]
    exact ordered.bounded

/-- What is found in a cache is found in its pairs. -/
theorem get?_pairs (cache : Cache α) (signature : String) :
    cache.pairs.get? signature = cache.get? signature := by
  rw [pairs, Table.get?, List.find?_map, Option.map_map]
  rfl

/-- A cache contains what its pairs have. -/
theorem has_pairs (cache : Cache α) (signature : String) :
    cache.pairs.has signature = cache.contains signature := by
  rw [Table.has_eq_isSome, get?_pairs, get?_isSome]

/-- Another payload for a signature is set in the pairs. -/
theorem pairs_put_of_mem {signature : String} (member : signature ∈ cache.keys) (payload : α) :
    (cache.put signature payload).pairs = cache.pairs.set signature payload := by
  have present : cache.pairs.has signature = true := by
    rw [has_pairs]
    exact (contains_iff_mem_keys cache signature).mpr member
  rw [put_of_mem member, Table.set, if_pos present, pairs, pairs, overwrite, List.map_map,
    List.map_map]
  apply List.map_congr_left
  intro entry _
  by_cases same : entry.signature = signature
  · simp [same]
  · simp [same]

/-- A new signature goes to the end of the pairs, and the first goes if there are too many. -/
theorem Ordered.pairs_put (ordered : cache.Ordered) {signature : String}
    (absent : signature ∉ cache.keys) (payload : α) :
    (cache.put signature payload).pairs =
      Queue.trimmed cache.capacity (cache.pairs ++ [(signature, payload)]) := by
  rw [pairs, ordered.entries_put absent, Queue.trimmed, appended, pairs]
  simp only [List.length_append, List.length_map, List.length_singleton]
  split
  · rw [List.map_tail, List.map_append, List.map_singleton]
  · rw [List.map_append, List.map_singleton]

/-- Putting something into a cache puts it into the queue. -/
theorem Ordered.toQueue_put (ordered : cache.Ordered) (signature : String) (payload : α) :
    (cache.put signature payload).toQueue (ordered.put signature payload) =
      (cache.toQueue ordered).put signature payload := by
  have capacity := capacity_put cache signature payload
  by_cases member : signature ∈ cache.keys
  · have present : (cache.toQueue ordered).pairs.has signature = true := by
      change cache.pairs.has signature = true
      rw [has_pairs]
      exact (contains_iff_mem_keys cache signature).mpr member
    rw [Queue.put, dif_pos present]
    exact Queue.ext capacity (pairs_put_of_mem member payload)
  · have absent : ¬(cache.toQueue ordered).pairs.has signature = true := by
      change ¬cache.pairs.has signature = true
      rw [has_pairs, contains_iff_mem_keys]
      exact member
    rw [Queue.put, dif_neg absent]
    exact Queue.ext capacity (ordered.pairs_put member payload)

/-- Every operation keeps a cache ordered. -/
theorem Ordered.perform (ordered : cache.Ordered) (operation : Operation α) :
    (cache.perform operation).2.Ordered := by
  cases operation with
  | put signature payload => exact ordered.put signature payload
  | clear => exact ordered.clear
  | get | contains | signatures | size => exact ordered

/-- An operation answers as it does on the queue and leads to the same queue. -/
theorem Ordered.perform_toQueue (ordered : cache.Ordered) (operation : Operation α) :
    (cache.toQueue ordered).perform operation =
      ((cache.perform operation).1,
        (cache.perform operation).2.toQueue (ordered.perform operation)) := by
  cases operation with
  | get signature => exact congrArg (fun found => (Answer.found found, _)) (get?_pairs cache _)
  | put signature payload => exact congrArg (Prod.mk _) (ordered.toQueue_put signature payload).symm
  | contains signature => exact congrArg (fun held => (Answer.held held, _)) (has_pairs cache _)
  | signatures =>
    have listed : (cache.toQueue ordered).pairs.map (·.1) = cache.signatures := by
      rw [ordered.signatures_eq]
      exact map_fst_pairs cache
    exact congrArg (fun signatures => (Answer.listed signatures, _)) listed
  | size =>
    have counted : (cache.toQueue ordered).pairs.length = cache.size := List.length_map _
    exact congrArg (fun size => (Answer.counted size, _)) counted
  | clear => rfl

/-- Operations on an ordered cache answer as they do on its queue. -/
theorem Ordered.answers_eq (ordered : cache.Ordered) (operations : List (Operation α)) :
    cache.answers operations = (cache.toQueue ordered).answers operations := by
  induction operations generalizing cache with
  | nil => rfl
  | cons operation rest ih =>
    rw [answers, Queue.answers, ordered.perform_toQueue operation,
      ih (ordered.perform operation)]

end Cache

end CompletionServer
