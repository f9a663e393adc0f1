import CompletionServer.Proofs.Cache.Queue
import Mathlib.Data.List.Induction

/-!
# What a cache's past says about its contents

The operations performed since the creation of a cache say when each of its signatures was inserted
and what was put under it last. Both are read off the cache: its signatures are listed in the order
of their insertions, and a signature has the payload of its latest put for as long as it is there.
-/

namespace CompletionServer.Cache

variable {α : Type}

/-- One more operation after some. -/
theorem after_concat (cache : Cache α) (operations : List (Operation α))
    (operation : Operation α) :
    cache.after (operations ++ [operation]) = ((cache.after operations).perform operation).2 := by
  rw [after, List.foldl_append]
  rfl

/-- A cache is ordered after any operations. -/
theorem Ordered.after {cache : Cache α} (ordered : cache.Ordered)
    (operations : List (Operation α)) : (cache.after operations).Ordered := by
  induction operations using List.reverseRecOn with
  | nil => exact ordered
  | append_singleton operations operation ih =>
    rw [after_concat]
    exact ih.perform operation

/-! ## The time of an insertion -/

/-- The operation at a time put a signature that was not there into a new cache, and the signature
has been there ever since. -/
structure InsertedAt (capacity : Int) (operations : List (Operation α)) (signature : String)
    (time : Nat) : Prop where
  puts : ∃ payload, operations[time]? = some (.put signature payload)
  absent : signature ∉ ((create capacity).after (operations.take time)).keys
  stays : ∀ later, time < later → later ≤ operations.length →
    signature ∈ ((create capacity).after (operations.take later)).keys

namespace InsertedAt

variable {capacity : Int} {operations : List (Operation α)} {signature : String} {time : Nat}

/-- An insertion is one of the operations. -/
theorem time_lt (inserted : InsertedAt capacity operations signature time) :
    time < operations.length := by
  obtain ⟨payload, put⟩ := inserted.puts
  exact (List.getElem?_eq_some_iff.mp put).1

/-- A signature that was inserted is there. -/
theorem mem_keys (inserted : InsertedAt capacity operations signature time) :
    signature ∈ ((create capacity).after operations).keys := by
  have present := inserted.stays operations.length inserted.time_lt (Nat.le_refl _)
  rwa [List.take_length] at present

/-- A signature was inserted only once since it was absent. -/
theorem unique {other : Nat} (inserted : InsertedAt capacity operations signature time)
    (again : InsertedAt capacity operations signature other) : time = other := by
  rcases Nat.lt_trichotomy time other with before | same | before
  · exact absurd (inserted.stays other before (Nat.le_of_lt again.time_lt)) again.absent
  · exact same
  · exact absurd (again.stays time before (Nat.le_of_lt inserted.time_lt)) inserted.absent

/-- An insertion stays one while the signature is there. -/
theorem concat (inserted : InsertedAt capacity operations signature time)
    {operation : Operation α}
    (present : signature ∈ ((create capacity).after (operations ++ [operation])).keys) :
    InsertedAt capacity (operations ++ [operation]) signature time where
  puts := by
    rw [List.getElem?_append_left inserted.time_lt]
    exact inserted.puts
  absent := by
    rw [List.take_append_of_le_length (Nat.le_of_lt inserted.time_lt)]
    exact inserted.absent
  stays := by
    intro later after bound
    rw [List.length_append, List.length_singleton] at bound
    rcases Nat.lt_or_eq_of_le bound with within | last
    · rw [List.take_append_of_le_length (Nat.le_of_lt_succ within)]
      exact inserted.stays later after (Nat.le_of_lt_succ within)
    · rw [List.take_of_length_le (by simp [last])]
      exact present

/-- Putting a signature that is not there inserts it. -/
theorem of_put (absent : signature ∉ ((create capacity).after operations).keys) (payload : α)
    (present : signature ∈
      ((create capacity).after (operations ++ [.put signature payload])).keys) :
    InsertedAt capacity (operations ++ [.put signature payload]) signature operations.length where
  puts := ⟨payload, by simp⟩
  absent := by
    rw [List.take_left]
    exact absent
  stays := by
    intro later after bound
    rw [List.length_append, List.length_singleton] at bound
    rw [List.take_of_length_le (by simp; omega)]
    exact present

end InsertedAt

/-- The signatures were inserted one after the other, as they stand. -/
structure Recorded (capacity : Int) (operations : List (Operation α)) : Prop where
  inserted : ∀ signature ∈ ((create capacity).after operations).keys,
    ∃ time, InsertedAt capacity operations signature time
  increasing : ((create capacity).after operations).keys.Pairwise fun earlier later =>
    ∀ time other, InsertedAt capacity operations earlier time →
      InsertedAt capacity operations later other → time < other

namespace Recorded

variable {capacity : Int} {operations : List (Operation α)} {operation : Operation α}

/-- After one more operation the signatures that are left keep their times, and one that it may have
inserted comes last. -/
theorem concat (recorded : Recorded capacity operations) (new : Option String)
    (fewer : ((create capacity).after (operations ++ [operation])).keys.Sublist
      (((create capacity).after operations).keys ++ new.toList))
    (inserts : ∀ signature ∈ new,
      InsertedAt capacity (operations ++ [operation]) signature operations.length) :
    Recorded capacity (operations ++ [operation]) where
  inserted := by
    intro signature member
    rcases List.mem_append.mp (fewer.subset member) with old | new
    · obtain ⟨time, inserted⟩ := recorded.inserted signature old
      exact ⟨time, inserted.concat member⟩
    · exact ⟨operations.length, inserts signature (Option.mem_toList.mp new)⟩
  increasing := by
    -- a signature that goes has no time any more, so the order is shown for those that stay
    have among : (((create capacity).after operations).keys ++ new.toList).Pairwise
        fun earlier later =>
          earlier ∈ ((create capacity).after (operations ++ [operation])).keys →
          later ∈ ((create capacity).after (operations ++ [operation])).keys →
          ∀ time other, InsertedAt capacity (operations ++ [operation]) earlier time →
            InsertedAt capacity (operations ++ [operation]) later other → time < other := by
      refine List.pairwise_append.mpr ⟨recorded.increasing.imp_of_mem ?_, ?_, ?_⟩
      · intro earlier later member laterMember before stays laterStays time other inserted
          laterInserted
        obtain ⟨first, insertedFirst⟩ := recorded.inserted earlier member
        obtain ⟨second, insertedSecond⟩ := recorded.inserted later laterMember
        rw [inserted.unique (insertedFirst.concat stays),
          laterInserted.unique (insertedSecond.concat laterStays)]
        exact before first second insertedFirst insertedSecond
      · cases new with
        | none => exact List.Pairwise.nil
        | some signature => exact List.pairwise_singleton _ _
      · intro earlier member later isNew stays _ time other inserted laterInserted
        obtain ⟨first, insertedFirst⟩ := recorded.inserted earlier member
        rw [inserted.unique (insertedFirst.concat stays),
          laterInserted.unique (inserts later (Option.mem_toList.mp isNew))]
        exact insertedFirst.time_lt
    refine (among.sublist fewer).imp_of_mem ?_
    intro earlier later member laterMember before
    exact before member laterMember

/-- An operation that inserts nothing needs no new time. -/
theorem of_sublist (recorded : Recorded capacity operations)
    (fewer : ((create capacity).after (operations ++ [operation])).keys.Sublist
      ((create capacity).after operations).keys) :
    Recorded capacity (operations ++ [operation]) := by
  refine recorded.concat none ?_ (by simp)
  rw [Option.toList_none, List.append_nil]
  exact fewer

/-- Putting something records its insertion, if it is one. -/
theorem put (recorded : Recorded capacity operations) (signature : String) (payload : α) :
    Recorded capacity (operations ++ [.put signature payload]) := by
  have ordered := (Ordered.create capacity).after operations
  have put := after_concat (create capacity) operations (.put signature payload)
  by_cases member : signature ∈ ((create capacity).after operations).keys
  · apply recorded.of_sublist
    have same := keys_put_of_mem member payload
    rw [put]
    exact same ▸ List.Sublist.refl _
  · have present : signature ∈
        ((create capacity).after (operations ++ [.put signature payload])).keys := by
      rw [put]
      exact ordered.mem_keys_put signature payload
    refine recorded.concat (some signature) ?_ ?_
    · rw [put]
      change (Cache.put _ signature payload).keys.Sublist _
      rw [ordered.keys_put member]
      split
      · exact List.tail_sublist _
      · exact List.Sublist.refl _
    · intro other same
      obtain rfl := Option.mem_some_iff.mp same
      exact .of_put member payload present

end Recorded

/-- After any operations the signatures were inserted one after the other, as they stand. -/
theorem recorded (capacity : Int) (operations : List (Operation α)) :
    Recorded capacity operations := by
  induction operations using List.reverseRecOn with
  | nil => exact ⟨by simp [after, create, keys], List.Pairwise.nil⟩
  | append_singleton operations operation ih =>
    cases operation with
    | put signature payload => exact ih.put signature payload
    | clear =>
      apply ih.of_sublist
      rw [after_concat]
      exact List.nil_sublist _
    | get | contains | signatures | size =>
      apply ih.of_sublist
      rw [after_concat]
      exact List.Sublist.refl _

/-! ## The latest payload -/

/-- After a put and operations that do not put the same signature again, what is found for it, if
anything is, is the payload of that put. -/
theorem get?_after_put (capacity : Int) (before later : List (Operation α)) (signature : String)
    (payload : α) (last : ∀ other, .put signature other ∉ later) :
    ((create capacity).after (before ++ .put signature payload :: later)).get? signature = none ∨
      ((create capacity).after (before ++ .put signature payload :: later)).get? signature =
        some payload := by
  induction later using List.reverseRecOn with
  | nil =>
    right
    rw [after_concat]
    exact ((Ordered.create capacity).after before).get?_put_self signature payload
  | append_singleton later operation ih =>
    have found := ih fun other member => last other (List.mem_append_left _ member)
    rw [← List.cons_append, ← List.append_assoc, after_concat]
    cases operation with
    | put other new =>
      have differs : signature ≠ other := by
        rintro rfl
        exact last new (List.mem_append_right _ List.mem_cons_self)
      rcases get?_put ((create capacity).after (before ++ .put signature payload :: later)) other
        signature new with gone | kept
      · exact .inl gone
      · rw [if_neg differs] at kept
        exact found.imp kept.trans kept.trans
    | clear => exact .inl rfl
    | get | contains | signatures | size => exact found

/-! ## A cache is a bounded queue -/

/-- For every capacity that is asked for and all operations in any order, starting with a new cache:

- the operations answer exactly what they answer on a queue of that capacity;
- the signatures listed at the end are those that were inserted and have been there ever since, in
  the order of these insertions;
- something that is put is found right after: the signature that goes, if one has to, is another;
- the numbers of the entries are different;
- what is found for a signature that is there is the payload of its latest put. -/
theorem answers_as_queue (capacity : Int) (operations : List (Operation α)) :
    (create capacity).answers operations = (Queue.empty capacity).answers operations ∧
      (∀ signature, signature ∈ ((create capacity).after operations).signatures ↔
        ∃ time, InsertedAt capacity operations signature time) ∧
      (((create capacity).after operations).signatures.Pairwise fun earlier later =>
        ∀ time other, InsertedAt capacity operations earlier time →
          InsertedAt capacity operations later other → time < other) ∧
      (∀ signature payload, (((create capacity).after operations).put signature payload).get?
        signature = some payload) ∧
      (((create capacity).after operations).entries.map (·.order)).Nodup ∧
      (∀ before later signature payload, operations = before ++ .put signature payload :: later →
        (∀ other, .put signature other ∉ later) →
        ((create capacity).after operations).contains signature = true →
        ((create capacity).after operations).get? signature = some payload) := by
  have ordered : ((create capacity : Cache α).after operations).Ordered :=
    (Ordered.create capacity).after operations
  have recorded := recorded capacity operations
  refine ⟨(Ordered.create capacity).answers_eq operations, ?_, ?_, ordered.get?_put_self, ?_, ?_⟩
  · intro signature
    rw [ordered.signatures_eq]
    exact ⟨recorded.inserted signature, fun ⟨_, inserted⟩ => inserted.mem_keys⟩
  · rw [ordered.signatures_eq]
    exact recorded.increasing
  · exact (List.pairwise_map.mpr ordered.increasing).imp Nat.ne_of_lt
  · rintro before later signature payload rfl last present
    rw [← get?_isSome] at present
    rcases get?_after_put capacity before later signature payload last with gone | found
    · rw [gone] at present
      contradiction
    · exact found

end CompletionServer.Cache
