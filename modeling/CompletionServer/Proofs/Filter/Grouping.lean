import CompletionServer.Proofs.Filter.Selection

/-!
# Grouping is a stable sort

Candidates are dealt into buckets in one pass, each behind those that lie in its bucket already, and
the buckets one after the other are the groups. So grouping loses no candidate and shows none twice,
puts the candidates in the order of their buckets, and leaves those of one bucket in the order in
which they came.

What lies in a bucket hangs on the candidates one by one. That gives the laws: grouping twice is
grouping once, buckets of two lists are put together bucket by bucket, and candidates may be left
out before or after.
-/

namespace CompletionServer.Filter.Categories

variable (categories : Categories) (candidates others : List Candidate)

/-! ## Groups -/

/-- Two lists dealt one after the other give the buckets of both, put together bucket by bucket. -/
theorem dealt_append :
    categories.dealt (candidates ++ others) =
      List.zipWith (· ++ ·) (categories.dealt candidates) (categories.dealt others) := by
  rw [dealt_eq_map, dealt_eq_map, dealt_eq_map, List.zipWith_map, List.zipWith_self]
  exact congrArg (List.map · _) (funext fun number => List.filter_append candidates others)

/-- If only one of some lists is not empty, all of them put together are this one. -/
theorem flatMap_range_eq {α : Type} {count number : Nat} {lists : Nat → List α}
    (there : number < count) (empty : ∀ other, other ≠ number → lists other = []) :
    (List.range count).flatMap lists = lists number := by
  induction count with
  | zero => contradiction
  | succ count ih =>
    rw [List.range_succ, List.flatMap_append, List.flatMap_singleton]
    by_cases last : number = count
    · have before : (List.range count).flatMap lists = [] :=
        List.flatMap_eq_nil_iff.mpr fun other member =>
          empty other (last ▸ Nat.ne_of_lt (List.mem_range.mp member))
      rw [before, last, List.nil_append]
    · rw [ih (by omega), empty count (Ne.symm last), List.append_nil]

/-- Candidates may be left out before or after they are grouped. -/
theorem group_filter (passes : Candidate → Bool) :
    categories.group (candidates.filter passes) = (categories.group candidates).filter passes := by
  rw [group_eq_flatMap, group_eq_flatMap, List.filter_flatMap]
  exact congrArg (List.flatMap · _) (funext fun number => List.filter_comm _ _ candidates)

/-- Grouping leaves every bucket as it is. -/
theorem members_group {number : Nat} (there : number ≤ categories.last) :
    categories.members (categories.group candidates) number =
      categories.members candidates number := by
  have only : ∀ other, other ≠ number →
      categories.members (categories.members candidates number) other = [] := by
    intro other different
    refine List.filter_eq_nil_iff.mpr fun candidate member => ?_
    have own : categories.bucket candidate = number := by
      simpa using (List.mem_filter.mp member).2
    simpa [own] using Ne.symm different
  calc
    categories.members (categories.group candidates) number
      = categories.group (categories.members candidates number) :=
        (categories.group_filter candidates _).symm
    _ = categories.members (categories.members candidates number) number :=
        (categories.group_eq_flatMap _).trans (flatMap_range_eq (Nat.lt_succ_of_le there) only)
    _ = categories.members candidates number := by
        rw [members, List.filter_eq_self]
        exact fun candidate member => (List.mem_filter.mp member).2

/-- Grouping twice is grouping once. -/
theorem group_group :
    categories.group (categories.group candidates) = categories.group candidates := by
  rw [group_eq_flatMap _ (categories.group candidates), categories.group_eq_flatMap candidates]
  refine List.flatMap_congr fun number member => ?_
  rw [← categories.group_eq_flatMap candidates]
  exact categories.members_group candidates (Nat.le_of_lt_succ (List.mem_range.mp member))

/-! ## Places -/

/-- Grouping puts the places of candidates in another order, by bucket and then by place. -/
theorem exists_places_group :
    ∃ places : List (Fin candidates.length),
      places.Perm (List.finRange candidates.length) ∧
      categories.group candidates = places.map candidates.get ∧
      places.Pairwise (placeKey (fun place => categories.bucket (candidates.get place)) · <
        placeKey (fun place => categories.bucket (candidates.get place)) ·) := by
  let places := selectedPlaces candidates categories ""
  have increasing := pairwise_selectedPlaces candidates categories ""
  have all : ∀ place, place ∈ places ↔ place ∈ List.finRange candidates.length := by
    intro place
    simp [places, mem_selectedPlaces]
  refine ⟨places, ?_, selected_eq_map_places candidates categories "", increasing⟩
  exact (List.perm_ext_iff_of_nodup (nodup_of_increasing increasing)
    (List.nodup_finRange _)).mpr all

/-- Grouping is a stable sort. For all categories, whichever markers there are, and for every list
of candidates:

- the bucket of a candidate is given by the rules for its category alone, among them that the first
  nonempty marker wins;
- the groups have the candidates of the list, each as often as the list, in the order of their
  buckets, and those of one bucket in the order of their places in the list;
- dealing the candidates one by one leaves in each bucket its own, and the groups are the buckets
  one after the other;
- so grouping twice is grouping once, each bucket of two lists together is that of the first and
  then that of the second, and candidates may be left out before or after. -/
theorem group_sorts_stably :
    (∀ candidate number,
      categories.bucket candidate = number ↔ categories.Numbers candidate number) ∧
    (categories.group candidates).Perm candidates ∧
    (categories.group candidates).Pairwise (categories.bucket · ≤ categories.bucket ·) ∧
    (∃ places : List (Fin candidates.length),
      places.Perm (List.finRange candidates.length) ∧
      categories.group candidates = places.map candidates.get ∧
      places.Pairwise fun place later =>
        categories.bucket (candidates.get place) = categories.bucket (candidates.get later) →
          place < later) ∧
    categories.dealt candidates =
      (List.range (categories.last + 1)).map (categories.members candidates) ∧
    categories.group candidates = (categories.dealt candidates).flatten ∧
    categories.group (categories.group candidates) = categories.group candidates ∧
    categories.dealt (candidates ++ others) =
      List.zipWith (· ++ ·) (categories.dealt candidates) (categories.dealt others) ∧
    ∀ passes,
      categories.group (candidates.filter passes) =
        (categories.group candidates).filter passes := by
  obtain ⟨places, all, grouped, increasing⟩ := categories.exists_places_group candidates
  refine ⟨?_, ?_, ?_, ⟨places, all, grouped, ?_⟩, categories.dealt_eq_map candidates,
    rfl, categories.group_group candidates,
    categories.dealt_append candidates others, categories.group_filter candidates⟩
  · intro candidate number
    exact ⟨fun same => same ▸ numbers_bucket, fun numbers => numbers.eq_bucket⟩
  · have moved := all.map candidates.get
    rwa [← grouped, List.map_get_finRange] at moved
  · rw [grouped, List.pairwise_map]
    refine increasing.imp fun before => ?_
    rcases Prod.Lex.toLex_lt_toLex.mp before with smaller | ⟨same, _⟩
    · exact Nat.le_of_lt smaller
    · exact Nat.le_of_eq same
  · refine increasing.imp fun before same => ?_
    rcases Prod.Lex.toLex_lt_toLex.mp before with smaller | ⟨_, earlier⟩
    · exact absurd same (Nat.ne_of_lt smaller)
    · exact earlier

end CompletionServer.Filter.Categories
