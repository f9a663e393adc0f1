import CompletionServer.Cache
import Mathlib.Data.List.Nodup

/-!
# The order of a cache's entries

A cache looks for its oldest entry by the numbers of the insertions. `Cache.Ordered` says that the
entries stand in the order of these numbers, so that the oldest is the first: then a new signature
goes to the end, and if there are too many entries the first one goes. Every operation keeps this.
-/

namespace CompletionServer.Cache

variable {α : Type}

/-- The signatures of the entries, as they stand. -/
def keys (cache : Cache α) : List String := cache.entries.map (·.signature)

/-- The entries have different signatures, stand in the order of their insertions, all of which are
over, and there are no more of them than the capacity, which is not zero. -/
structure Ordered (cache : Cache α) : Prop where
  positive : 0 < cache.capacity
  distinct : cache.keys.Nodup
  increasing : cache.entries.Pairwise (·.order < ·.order)
  past : ∀ entry ∈ cache.entries, entry.order < cache.nextOrder
  bounded : cache.entries.length ≤ cache.capacity

/-! ## What is found -/

/-- A cache contains a signature exactly if it is one of its keys. -/
theorem contains_iff_mem_keys (cache : Cache α) (signature : String) :
    cache.contains signature = true ↔ signature ∈ cache.keys := by
  simp [contains, keys]

/-- A cache that does not contain a signature has it not among its keys. -/
theorem contains_eq_false_iff (cache : Cache α) (signature : String) :
    cache.contains signature = false ↔ signature ∉ cache.keys := by
  rw [← contains_iff_mem_keys, Bool.not_eq_true]

/-- Something is found for a signature exactly if the cache contains it. -/
theorem get?_isSome (cache : Cache α) (signature : String) :
    (cache.get? signature).isSome = cache.contains signature := by
  rw [Bool.eq_iff_iff]
  simp [get?, entry?, contains, List.find?_isSome]

/-! ## The oldest entry -/

/-- Among entries in the order of their insertions the oldest is the first. -/
theorem oldest?_eq_head? {entries : List (CacheEntry α)}
    (increasing : entries.Pairwise (·.order < ·.order)) : oldest? entries = entries.head? := by
  induction entries with
  | nil => rfl
  | cons entry rest ih =>
    obtain ⟨first, later⟩ := List.pairwise_cons.mp increasing
    rw [oldest?, ih later]
    cases rest with
    | nil => rfl
    | cons other _ =>
      have younger := first other List.mem_cons_self
      simp [Nat.not_lt_of_gt younger]

/-- Of too many entries in order the first goes. -/
theorem evict_eq {capacity : Nat} {entries : List (CacheEntry α)}
    (distinct : (entries.map (·.signature)).Nodup)
    (increasing : entries.Pairwise (·.order < ·.order)) :
    evict capacity entries = if capacity < entries.length then entries.tail else entries := by
  unfold evict
  rw [oldest?_eq_head? increasing]
  split
  · cases entries with
    | nil => rfl
    | cons entry rest =>
      rw [List.map_cons, List.nodup_cons] at distinct
      have others : rest.filter (·.signature != entry.signature) = rest := by
        refine List.filter_eq_self.mpr fun other member => ?_
        simp only [bne_iff_ne, ne_eq]
        intro same
        exact distinct.1 (same ▸ List.mem_map_of_mem member)
      simp [others]
  · rfl

/-! ## What putting does -/

/-- The entries with another payload for a signature. -/
def overwrite (entries : List (CacheEntry α)) (signature : String) (payload : α) :
    List (CacheEntry α) :=
  entries.map fun entry => if entry.signature == signature then { entry with payload } else entry

/-- The entries with a new one at the end. -/
def appended (cache : Cache α) (signature : String) (payload : α) : List (CacheEntry α) :=
  cache.entries ++ [⟨signature, payload, cache.nextOrder⟩]

/-- Putting a signature that is there changes its payload. -/
theorem put_of_mem {cache : Cache α} {signature : String} (member : signature ∈ cache.keys)
    (payload : α) :
    cache.put signature payload =
      { cache with entries := overwrite cache.entries signature payload } := by
  have present := (contains_iff_mem_keys cache signature).mpr member
  simp [put, present, overwrite]

/-- Putting a signature that is not there adds an entry and makes room for it. -/
theorem put_of_not_mem {cache : Cache α} {signature : String} (absent : signature ∉ cache.keys)
    (payload : α) :
    cache.put signature payload =
      { cache with
        entries := evict cache.capacity (cache.appended signature payload)
        nextOrder := cache.nextOrder + 1 } := by
  have missing := (contains_eq_false_iff cache signature).mpr absent
  simp [put, missing, appended]

/-- Putting keeps the capacity. -/
theorem capacity_put (cache : Cache α) (signature : String) (payload : α) :
    (cache.put signature payload).capacity = cache.capacity := by
  unfold put
  split
  · rfl
  · rfl

/-- Another payload changes nothing that does not depend on the payload. -/
theorem map_overwrite {β : Type} {payload : α} (view : CacheEntry α → β)
    (keeps : ∀ entry, view { entry with payload } = view entry) (entries : List (CacheEntry α))
    (signature : String) : (overwrite entries signature payload).map view = entries.map view := by
  rw [overwrite, List.map_map]
  apply List.map_congr_left
  intro entry _
  by_cases same : entry.signature = signature
  · simpa [same] using keeps entry
  · simp [same]

/-- Putting a signature that is there keeps the signatures. -/
theorem keys_put_of_mem {cache : Cache α} {signature : String} (member : signature ∈ cache.keys)
    (payload : α) : (cache.put signature payload).keys = cache.keys := by
  rw [put_of_mem member]
  exact map_overwrite _ (fun _ => rfl) _ _

/-- What is found among the entries that are left was found before. -/
theorem find?_evict (capacity : Nat) (entries : List (CacheEntry α)) (signature : String) :
    (evict capacity entries).find? (·.signature == signature) = none ∨
      (evict capacity entries).find? (·.signature == signature) =
        entries.find? (·.signature == signature) := by
  unfold evict
  split
  · split
    · next oldest _ =>
      by_cases gone : oldest.signature = signature
      · left
        simp [List.find?_eq_none, gone]
      · right
        rw [List.find?_filter]
        congr 1
        funext entry
        by_cases same : entry.signature = signature
        · simp [same, Ne.symm gone]
        · simp [same]
    · exact .inr rfl
  · exact .inr rfl

/-- Putting a signature that is there changes what is found for it and for no other. -/
theorem get?_put_of_mem {cache : Cache α} {signature : String} (member : signature ∈ cache.keys)
    (other : String) (payload : α) :
    (cache.put signature payload).get? other =
      if other = signature then some payload else cache.get? other := by
  have tests : ((fun entry : CacheEntry α => entry.signature == other) ∘ fun entry =>
      if entry.signature == signature then { entry with payload } else entry) =
      fun entry => entry.signature == other := by
    funext entry
    by_cases same : entry.signature = signature
    · simp [same]
    · simp [same]
  rw [put_of_mem member, get?, entry?, overwrite, List.find?_map, tests, get?, entry?]
  cases there : cache.entries.find? (·.signature == other) with
  | none =>
    -- a signature that is there is found, so the one that is not found is another
    have differs : other ≠ signature := by
      rintro rfl
      have found := get?_isSome cache other
      rw [(contains_iff_mem_keys cache other).mpr member, get?, entry?, there] at found
      contradiction
    rw [if_neg differs]
    rfl
  | some entry =>
    have named : entry.signature = other := by simpa using List.find?_some there
    by_cases same : other = signature
    · simp [named, same]
    · simp [named, same]

/-- What is found for a signature after something was put under one, if anything is. -/
theorem get?_put (cache : Cache α) (signature other : String) (payload : α) :
    (cache.put signature payload).get? other = none ∨
      (cache.put signature payload).get? other =
        if other = signature then some payload else cache.get? other := by
  by_cases member : signature ∈ cache.keys
  · exact .inr (get?_put_of_mem member other payload)
  · rw [put_of_not_mem member, get?, entry?]
    rcases find?_evict cache.capacity (cache.appended signature payload) other with gone | stays
    · left
      rw [gone, Option.map_none]
    · right
      rw [stays, appended, List.find?_append]
      by_cases same : other = signature
      · subst same
        have missing : cache.entries.find? (·.signature == other) = none := by
          rw [List.find?_eq_none]
          intro entry there named
          exact member (List.mem_map.mpr ⟨entry, there, by simpa using named⟩)
        simp [missing]
      · simp [get?, entry?, same, Ne.symm same]

/-! ## What every operation keeps -/

/-- The signatures are listed as they stand. -/
theorem Ordered.signatures_eq {cache : Cache α} (ordered : cache.Ordered) :
    cache.signatures = cache.keys := by
  have sorted : cache.entries.Pairwise fun left right => decide (left.order ≤ right.order) :=
    ordered.increasing.imp fun before => decide_eq_true (Nat.le_of_lt before)
  rw [signatures, List.mergeSort_of_pairwise sorted, keys]

namespace Ordered

variable {cache : Cache α} {signature : String}

/-- An empty cache is ordered. -/
theorem create (capacity : Int) : (Cache.create capacity : Cache α).Ordered where
  positive := by
    change 0 < (max 1 capacity).toNat
    omega
  distinct := List.nodup_nil
  increasing := List.Pairwise.nil
  past := by simp [Cache.create]
  bounded := Nat.zero_le _

/-- The signatures stay different when a new one is added. -/
theorem distinct_appended (ordered : cache.Ordered) (absent : signature ∉ cache.keys)
    (payload : α) : ((cache.appended signature payload).map (·.signature)).Nodup := by
  rw [appended, List.map_append, List.map_singleton, ← List.concat_eq_append]
  exact ordered.distinct.concat absent

/-- A new entry has the greatest number. -/
theorem increasing_appended (ordered : cache.Ordered) (signature : String) (payload : α) :
    (cache.appended signature payload).Pairwise (·.order < ·.order) := by
  rw [appended, List.pairwise_append]
  refine ⟨ordered.increasing, List.pairwise_singleton _ _, ?_⟩
  intro entry there new only
  rw [List.mem_singleton.mp only]
  exact ordered.past entry there

/-- Putting a signature that is not there adds an entry, and the first goes if there are too
many. -/
theorem entries_put (ordered : cache.Ordered) (absent : signature ∉ cache.keys) (payload : α) :
    (cache.put signature payload).entries =
      if cache.capacity < (cache.appended signature payload).length then
        (cache.appended signature payload).tail
      else cache.appended signature payload := by
  rw [put_of_not_mem absent]
  exact evict_eq (ordered.distinct_appended absent payload)
    (ordered.increasing_appended signature payload)

/-- The signatures after a new one was put. -/
theorem keys_put (ordered : cache.Ordered) (absent : signature ∉ cache.keys) (payload : α) :
    (cache.put signature payload).keys =
      if cache.capacity < cache.keys.length + 1 then (cache.keys ++ [signature]).tail
      else cache.keys ++ [signature] := by
  rw [keys, ordered.entries_put absent, appended, keys]
  simp only [List.length_append, List.length_map, List.length_singleton]
  split
  · rw [List.map_tail, List.map_append, List.map_singleton]
  · rw [List.map_append, List.map_singleton]

/-- A signature that was put is there: the one that goes is another. -/
theorem mem_keys_put (ordered : cache.Ordered) (signature : String) (payload : α) :
    signature ∈ (cache.put signature payload).keys := by
  by_cases member : signature ∈ cache.keys
  · rw [keys_put_of_mem member]
    exact member
  · rw [ordered.keys_put member]
    split
    · next full =>
      have room := ordered.positive
      have others : cache.keys ≠ [] := by
        rintro empty
        rw [empty, List.length_nil] at full
        omega
      rw [List.tail_append_of_ne_nil others]
      exact List.mem_append_right _ List.mem_cons_self
    · exact List.mem_append_right _ List.mem_cons_self

/-- Putting something keeps a cache ordered. -/
theorem put (ordered : cache.Ordered) (signature : String) (payload : α) :
    (cache.put signature payload).Ordered := by
  by_cases member : signature ∈ cache.keys
  · have signatures := keys_put_of_mem member payload
    rw [put_of_mem member] at signatures ⊢
    have orders : (overwrite cache.entries signature payload).map (·.order) =
        cache.entries.map (·.order) := map_overwrite _ (fun _ => rfl) _ _
    exact
      { positive := ordered.positive
        distinct := by
          rw [signatures]
          exact ordered.distinct
        increasing := by
          have increasing := List.pairwise_map.mpr ordered.increasing
          rw [← orders] at increasing
          exact List.pairwise_map.mp increasing
        past := by
          intro entry there
          have numbered := List.mem_map_of_mem there (f := CacheEntry.order)
          rw [orders] at numbered
          obtain ⟨before, thereBefore, same⟩ := List.mem_map.mp numbered
          rw [← same]
          exact ordered.past before thereBefore
        bounded := by simpa [overwrite] using ordered.bounded }
  · have entries := ordered.entries_put member payload
    have fewer : (cache.put signature payload).entries.Sublist
        (cache.appended signature payload) := by
      rw [entries]
      split
      · exact List.tail_sublist _
      · exact List.Sublist.refl _
    have capacity := capacity_put cache signature payload
    exact
      { positive := capacity ▸ ordered.positive
        distinct := (ordered.distinct_appended member payload).sublist (fewer.map _)
        increasing := (ordered.increasing_appended signature payload).sublist fewer
        past := by
          intro entry there
          rw [put_of_not_mem member]
          rcases List.mem_append.mp (fewer.subset there) with old | new
          · exact Nat.lt_succ_of_lt (ordered.past entry old)
          · rw [List.mem_singleton.mp new]
            exact Nat.lt_succ_self _
        bounded := by
          have room := ordered.bounded
          have one : (cache.appended signature payload).length = cache.entries.length + 1 := by
            simp [appended]
          rw [capacity, entries]
          split
          · rw [List.length_tail]
            omega
          · omega }

/-- A cleared cache is ordered. -/
theorem clear (ordered : cache.Ordered) : cache.clear.Ordered where
  positive := ordered.positive
  distinct := List.nodup_nil
  increasing := List.Pairwise.nil
  past := by simp [Cache.clear]
  bounded := Nat.zero_le _

/-- What was put last is found. -/
theorem get?_put_self (ordered : cache.Ordered) (signature : String) (payload : α) :
    (cache.put signature payload).get? signature = some payload := by
  have present := ordered.mem_keys_put signature payload
  rcases get?_put cache signature signature payload with gone | found
  · have missing := get?_isSome (cache.put signature payload) signature
    rw [gone, (contains_iff_mem_keys _ _).mpr present] at missing
    contradiction
  · rw [found, if_pos rfl]

end Ordered

end CompletionServer.Cache
