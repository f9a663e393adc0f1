import CompletionServer.Fuzzy.Span
import Mathlib.Data.List.Infix
import Mathlib.Order.Bounds.Basic

/-!
# The leftmost places of a query

A query is found character by character, each at its first place after the one before it. What is
used up in this way is the shortest front of the text that the query occurs in. A query is therefore
found if it occurs in order at all, and the text splits into what stands before its first character,
the window, and the rest. The first place is the least at which the query's first character stands,
and the last is the least up to which the query occurs, however many other matches there are.
-/

namespace CompletionServer.Fuzzy

/-! ## One character -/

/-- A character is found at its first place, and the rest begins after it. -/
theorem locate_eq_some_iff {c : Char} {place found : Nat} {text rest : List Char} :
    locate c place text = some (found, rest) ↔
      ∃ before, text = before ++ c :: rest ∧ c ∉ before ∧ found = place + before.length := by
  induction text generalizing place with
  | nil => simp [locate]
  | cons d text ih =>
    rw [locate]
    by_cases same : d = c
    · rw [if_pos same, Option.some_inj, Prod.mk.injEq]
      subst same
      constructor
      · rintro ⟨rfl, rfl⟩
        exact ⟨[], rfl, List.not_mem_nil, rfl⟩
      · rintro ⟨before, split, absent, rfl⟩
        cases before with
        | nil => exact ⟨rfl, (List.cons.inj split).2⟩
        | cons e before =>
          have first : d = e := (List.cons.inj split).1
          exact absurd (first ▸ List.mem_cons_self) absent
    · rw [if_neg same, ih]
      constructor
      · rintro ⟨before, rfl, absent, rfl⟩
        refine ⟨d :: before, rfl, ?_, ?_⟩
        · simp [Ne.symm same, absent]
        · simp only [List.length_cons]
          omega
      · rintro ⟨before, split, absent, rfl⟩
        cases before with
        | nil => exact absurd (List.cons.inj split).1 same
        | cons e before =>
          obtain ⟨-, rfl⟩ := List.cons.inj split
          refine ⟨before, rfl, fun inside => absent (List.mem_cons_of_mem _ inside), ?_⟩
          simp only [List.length_cons]
          omega

/-! ## What a query uses up -/

/-- Where a query's first character is first met, the others have to occur after it. -/
theorem cons_sublist_append_cons {c : Char} {before query rest : List Char} (absent : c ∉ before) :
    (c :: query).Sublist (before ++ c :: rest) ↔ query.Sublist rest := by
  induction before with
  | nil => exact List.cons_sublist_cons
  | cons d before ih =>
    have other : c ≠ d := List.ne_of_not_mem_cons absent
    rw [← ih (List.not_mem_of_not_mem_cons absent)]
    constructor
    · intro occurs
      exact occurs.of_cons_of_ne other
    · intro occurs
      exact occurs.cons d

/-- A text in which the characters of a query stand at their leftmost places, the last at its
end. -/
inductive Leftmost : (query used : List Char) → Prop
  | nil : Leftmost [] []
  | cons {c : Char} {before query used : List Char} (absent : c ∉ before)
      (later : Leftmost query used) : Leftmost (c :: query) (before ++ c :: used)

namespace Leftmost

variable {query used : List Char}

/-- The query occurs in what it uses up. -/
theorem sublist (leftmost : Leftmost query used) : query.Sublist used := by
  induction leftmost with
  | nil => exact .slnil
  | cons absent _ ih => exact (cons_sublist_append_cons absent).mpr ih

/-- A query at the front of a text uses up itself. -/
theorem self (query : List Char) : Leftmost query query := by
  induction query with
  | nil => exact .nil
  | cons c query ih =>
    have stands : Leftmost (c :: query) ([] ++ c :: query) := cons List.not_mem_nil ih
    exact stands

/-- A query that occurs in a text has leftmost places in it. -/
theorem exists_of_sublist {text : List Char} (occurs : query.Sublist text) :
    ∃ used rest, text = used ++ rest ∧ Leftmost query used := by
  induction query generalizing text with
  | nil => exact ⟨[], text, rfl, .nil⟩
  | cons c query ih =>
    have inText : c ∈ text := occurs.subset List.mem_cons_self
    obtain ⟨before, later, rfl, absent⟩ := List.eq_append_cons_of_mem inText
    rw [cons_sublist_append_cons absent] at occurs
    obtain ⟨used, rest, rfl, leftmost⟩ := ih occurs
    refine ⟨before ++ c :: used, rest, ?_, cons absent leftmost⟩
    rw [List.append_assoc, List.cons_append]

/-- No shorter front of the text holds the query. -/
theorem length_le_of_sublist (leftmost : Leftmost query used) {rest : List Char} {size : Nat}
    (occurs : query.Sublist ((used ++ rest).take size)) : used.length ≤ size := by
  induction leftmost generalizing size with
  | nil => exact Nat.zero_le size
  | @cons c before query used absent _ ih =>
    rw [List.append_assoc, List.cons_append] at occurs
    -- The first character is not met before its place, so the front reaches beyond it.
    have beyond : before.length < size := by
      by_contra short
      rw [List.take_append_of_le_length (Nat.le_of_not_lt short)] at occurs
      exact absent (List.mem_of_mem_take (occurs.subset List.mem_cons_self))
    obtain ⟨more, rfl⟩ := Nat.exists_eq_add_of_lt beyond
    have front : (before ++ c :: (used ++ rest)).take (before.length + more + 1) =
        before ++ c :: (used ++ rest).take more := by
      rw [Nat.add_assoc, List.take_length_add_append, List.take_succ_cons]
    rw [front, cons_sublist_append_cons absent] at occurs
    have later := ih occurs
    rw [List.length_append, List.length_cons]
    omega

/-- What a query uses up ends with the query's last character. -/
theorem getLast?_eq (leftmost : Leftmost query used) : used.getLast? = query.getLast? := by
  induction leftmost with
  | nil => rfl
  | cons _ _ ih => rw [List.getLast?_append_cons, List.getLast?_cons, List.getLast?_cons, ih]

end Leftmost

/-! ## The span -/

/-- The last place is that of the end of what the query uses up; an empty query stays where it
is. -/
theorem lastPlace_eq_some_iff {query text : List Char} {last found : Nat} :
    lastPlace query last (last + 1) text = some found ↔
      ∃ used rest, text = used ++ rest ∧ Leftmost query used ∧ found = last + used.length := by
  induction query generalizing text last with
  | nil =>
    rw [lastPlace, Option.some_inj]
    constructor
    · rintro rfl
      exact ⟨[], text, rfl, .nil, rfl⟩
    · rintro ⟨_, _, _, ⟨⟩, rfl⟩
      rfl
  | cons c query ih =>
    rw [lastPlace]
    constructor
    · intro finds
      split at finds
      · contradiction
      · next place later located =>
        obtain ⟨before, rfl, absent, rfl⟩ := locate_eq_some_iff.mp located
        obtain ⟨used, rest, rfl, leftmost, rfl⟩ := ih.mp finds
        refine ⟨before ++ c :: used, rest, ?_, .cons absent leftmost, ?_⟩
        · rw [List.append_assoc, List.cons_append]
        · simp only [List.length_append, List.length_cons]
          omega
    · rintro ⟨_, rest, rfl, stands, rfl⟩
      cases stands with
      | @cons _ before _ used absent leftmost =>
        have located : locate c (last + 1) (before ++ c :: used ++ rest) =
            some (last + 1 + before.length, used ++ rest) :=
          locate_eq_some_iff.mpr ⟨before, by simp, absent, rfl⟩
        simp only [located]
        refine ih.mpr ⟨used, rest, rfl, leftmost, ?_⟩
        simp only [List.length_append, List.length_cons]
        omega

/-- Where a query that begins with a character is found in a text: what stands before that
character, what the rest of the query uses up after it, and the rest of the text. -/
structure Window (c : Char) (query text : List Char) where
  before : List Char
  used : List Char
  rest : List Char
  split : text = before ++ c :: used ++ rest
  absent : c ∉ before
  leftmost : Leftmost query used

/-- The characters of a text from one place to another, both included. -/
def between (text : List Char) (first last : Nat) : List Char :=
  (text.drop first).take (last + 1 - first)

namespace Window

variable {c : Char} {query text : List Char}

/-- There is a window if the query occurs in the text. -/
theorem nonempty_iff : Nonempty (Window c query text) ↔ (c :: query).Sublist text := by
  constructor
  · rintro ⟨before, used, rest, rfl, absent, leftmost⟩
    rw [List.append_assoc, List.cons_append, cons_sublist_append_cons absent]
    exact leftmost.sublist.trans (List.sublist_append_left _ _)
  · intro occurs
    obtain ⟨_, rest, rfl, stands⟩ := Leftmost.exists_of_sublist occurs
    cases stands with
    | @cons _ before _ used absent leftmost =>
      exact ⟨⟨before, used, rest, rfl, absent, leftmost⟩⟩

/-- A query in front of a text is its own window. -/
def ofPrefix (c : Char) (query rest : List Char) : Window c query (c :: query ++ rest) :=
  ⟨[], query, rest, rfl, List.not_mem_nil, Leftmost.self query⟩

/-- A query is no longer than its window. -/
theorem length_le (window : Window c query text) : query.length ≤ window.used.length :=
  window.leftmost.sublist.length_le

/-- A window as long as its query is the query. -/
theorem used_eq (window : Window c query text) (short : window.used.length ≤ query.length) :
    window.used = query :=
  (window.leftmost.sublist.eq_of_length_le short).symm

/-- The window lies between its first place and its last. -/
theorem between_eq (window : Window c query text) :
    between text window.before.length (window.before.length + window.used.length) =
      c :: window.used := by
  obtain ⟨before, used, rest, rfl, _, _⟩ := window
  have extent : before.length + used.length + 1 - before.length = (c :: used).length := by
    rw [List.length_cons]
    omega
  show ((before ++ c :: used ++ rest).drop before.length).take
    (before.length + used.length + 1 - before.length) = c :: used
  rw [extent, List.append_assoc, List.drop_left, List.take_left]

end Window

/-- The span of a query is that of its window. -/
theorem spanOf_eq_some_iff {c : Char} {query text : List Char} {first last : Nat} :
    spanOf (c :: query) text = some (first, last) ↔
      ∃ window : Window c query text, first = window.before.length ∧
        last = window.before.length + window.used.length := by
  rw [spanOf]
  constructor
  · intro found
    split at found
    · contradiction
    · next place later located =>
      obtain ⟨before, rfl, absent, rfl⟩ := locate_eq_some_iff.mp located
      obtain ⟨place, reaches, ends⟩ := Option.map_eq_some_iff.mp found
      obtain ⟨used, rest, rfl, leftmost, rfl⟩ := lastPlace_eq_some_iff.mp reaches
      obtain ⟨rfl, rfl⟩ := Prod.mk.inj ends
      have split : before ++ c :: (used ++ rest) = before ++ c :: used ++ rest := by simp
      refine ⟨⟨before, used, rest, split, absent, leftmost⟩, ?_⟩
      simp
  · rintro ⟨⟨before, used, rest, rfl, absent, leftmost⟩, rfl, rfl⟩
    have located : locate c 0 (before ++ c :: used ++ rest) = some (before.length, used ++ rest) :=
      locate_eq_some_iff.mpr ⟨before, by simp, absent, by simp⟩
    have reaches : lastPlace query before.length (before.length + 1) (used ++ rest) =
        some (before.length + used.length) :=
      lastPlace_eq_some_iff.mpr ⟨used, rest, rfl, leftmost, rfl⟩
    simp only [located, reaches, Option.map_some]

/-- A query has a span if it occurs in the text. -/
theorem spanOf_eq_none_iff {c : Char} {query text : List Char} :
    spanOf (c :: query) text = none ↔ ¬ (c :: query).Sublist text := by
  rw [← Window.nonempty_iff, Option.eq_none_iff_forall_ne_some]
  constructor
  · rintro unfound ⟨window⟩
    exact unfound _ (spanOf_eq_some_iff.mpr ⟨window, rfl, rfl⟩)
  · rintro absent ⟨first, last⟩ found
    obtain ⟨window, _⟩ := spanOf_eq_some_iff.mp found
    exact absent ⟨window⟩

/-! ## Least places -/

/-- The places of a query that is matched as far to the left as can be. The window between them is
no shorter than the query, and as long as the query only if it is the query. -/
structure LeftmostPlaces (query text : List Char) (first last : Nat) : Prop where
  isLeast_first : IsLeast {place | place < text.length ∧ text[place]? = query.head?} first
  isLeast_last :
    IsLeast {place | place < text.length ∧ query.Sublist (between text 0 place)} last
  ordered : first ≤ last
  occurs : query.Sublist (between text first last)
  ends : text[last]? = query.getLast?
  length_le : query.length ≤ last - first + 1
  length_eq_iff : last - first + 1 = query.length ↔ between text first last = query

namespace Window

variable {c : Char} {query text : List Char} (window : Window c query text)

/-- What the whole query uses up, counted from the beginning of the text. -/
theorem leftmost_front : Leftmost (c :: query) (window.before ++ c :: window.used) :=
  .cons window.absent window.leftmost

/-- Up to its end a window has the characters before it, its first and those it used. -/
theorem length_front :
    (window.before ++ c :: window.used).length =
      window.before.length + window.used.length + 1 := by
  simp only [List.length_append, List.length_cons]
  omega

/-- A window ends inside its text. -/
theorem last_lt_length : window.before.length + window.used.length < text.length := by
  have size := congrArg List.length window.split
  rw [List.length_append, window.length_front] at size
  omega

/-- The first place is the least at which the query's first character stands. -/
theorem isLeast_first :
    IsLeast {place | place < text.length ∧ text[place]? = some c} window.before.length := by
  have split : text = window.before ++ (c :: window.used ++ window.rest) := by
    rw [← List.append_assoc]
    exact window.split
  constructor
  · refine ⟨Nat.lt_of_le_of_lt (Nat.le_add_right _ _) window.last_lt_length, ?_⟩
    have stands : (window.before ++ (c :: window.used ++ window.rest))[window.before.length]? =
        some c := by
      rw [List.getElem?_append_right (Nat.le_refl _), Nat.sub_self]
      rfl
    rwa [← split] at stands
  · rintro place ⟨-, stands⟩
    by_contra early
    rw [split, List.getElem?_append_left (Nat.lt_of_not_le early)] at stands
    exact window.absent (List.mem_of_getElem? stands)

/-- The last place is the least up to which the query occurs. -/
theorem isLeast_last :
    IsLeast {place | place < text.length ∧ (c :: query).Sublist (between text 0 place)}
      (window.before.length + window.used.length) := by
  have size := window.length_front
  constructor
  · refine ⟨window.last_lt_length, ?_⟩
    have front : between text 0 (window.before.length + window.used.length) =
        window.before ++ c :: window.used := by
      have taken : (window.before ++ c :: window.used ++ window.rest).take
          (window.before.length + window.used.length + 1) = window.before ++ c :: window.used := by
        rw [← size, List.take_left]
      rwa [← window.split] at taken
    rw [front]
    exact window.leftmost_front.sublist
  · rintro place ⟨-, occurs⟩
    have inFront : (c :: query).Sublist
        ((window.before ++ c :: window.used ++ window.rest).take (place + 1)) := by
      rw [← window.split]
      exact occurs
    have reaches := window.leftmost_front.length_le_of_sublist inFront
    omega

/-- The text has the query's last character at the last place. -/
theorem getElem?_last :
    text[window.before.length + window.used.length]? = (c :: query).getLast? := by
  have size := window.length_front
  have stands : (window.before ++ c :: window.used ++
      window.rest)[window.before.length + window.used.length]? = (c :: query).getLast? := by
    rw [List.getElem?_append_left (by omega), ← window.leftmost_front.getLast?_eq,
      List.getLast?_eq_getElem?, size, Nat.add_sub_cancel]
  rwa [← window.split] at stands

/-- A window has its query at the leftmost places. -/
theorem leftmostPlaces :
    LeftmostPlaces (c :: query) text window.before.length
      (window.before.length + window.used.length) where
  isLeast_first := window.isLeast_first
  isLeast_last := window.isLeast_last
  ordered := Nat.le_add_right _ _
  occurs := by
    rw [window.between_eq]
    exact window.leftmost.sublist.cons_cons c
  ends := window.getElem?_last
  length_le := by
    have fits := window.length_le
    rw [List.length_cons]
    omega
  length_eq_iff := by
    rw [window.between_eq, List.length_cons, Nat.add_sub_cancel_left, Nat.add_right_cancel_iff]
    constructor
    · intro short
      rw [window.used_eq (Nat.le_of_eq short)]
    · intro same
      rw [(List.cons.inj same).2]

end Window

/-- A query that is not empty is matched as far to the left as can be: it has no places exactly if
it does not occur in the text, and otherwise the places that it has are the leftmost ones. -/
theorem span_gives_leftmost_places {query text : String} (typed : query ≠ "") :
    (span query text = none ↔ ¬query.toList.Sublist text.toList) ∧
    (query.toList.Sublist text.toList → ∃ first last : Nat,
      span query text = some ((first : Int), (last : Int)) ∧
        LeftmostPlaces query.toList text.toList first last) := by
  rw [span, if_neg typed, Option.map_eq_none_iff]
  cases chars : query.toList with
  | nil => exact absurd (String.toList_eq_nil_iff.mp chars) typed
  | cons c rest =>
    refine ⟨spanOf_eq_none_iff, fun occurs => ?_⟩
    obtain ⟨window⟩ := Window.nonempty_iff.mpr occurs
    refine ⟨_, _, ?_, window.leftmostPlaces⟩
    rw [spanOf_eq_some_iff.mpr ⟨window, rfl, rfl⟩]
    rfl

/-- With repeated characters many matches compete: the first places are taken, though a shorter
window comes later. -/
theorem span_gives_leftmost_places_repeated :
    span "aba" "xaabcbaaba" = some (1, 6) ∧
    LeftmostPlaces "aba".toList "xaabcbaaba".toList 1 6 := by
  have found : span "aba" "xaabcbaaba" = some (1, 6) := by decide
  obtain ⟨-, places⟩ := @span_gives_leftmost_places "aba" "xaabcbaaba" (by decide)
  obtain ⟨first, last, same, leftmost⟩ := places (by decide)
  obtain ⟨one, six⟩ := Prod.mk.inj (Option.some.inj (found.symm.trans same))
  obtain rfl : first = 1 := by omega
  obtain rfl : last = 6 := by omega
  exact ⟨found, leftmost⟩

end CompletionServer.Fuzzy
