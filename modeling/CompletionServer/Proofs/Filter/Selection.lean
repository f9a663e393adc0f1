import CompletionServer.Proofs.Filter.Stages
import Mathlib.Data.Finset.Card
import Mathlib.Data.Fintype.Basic
import Mathlib.Data.List.FinRange
import Mathlib.Data.Prod.Lex

/-!
# Which candidates are shown, and in which order

The stages of filtering are described place by place: a candidate has a rank, all places are ordered
by rank and then by place, and whether the candidate of a place is shown depends on its own fields
and, for a superclass, on how many inherited candidates come later in that order.

The ranks are stated by the rules for categories, one after the other, and not by the function that
finds them.
-/

namespace CompletionServer.Filter

/-! ## The number of a category -/

/-- A nonempty text stands at the front of another. -/
def Fronts (front text : String) : Prop :=
  front ≠ "" ∧ front.toList <+: text.toList

namespace Categories

/-- The rules that give a candidate the number of its category. -/
inductive Numbers (categories : Categories) (candidate : Candidate) : Nat → Prop
  /-- Its key begins with the session's prefix. -/
  | session (own : Fronts categories.sessionPrefix candidate.descriptionKey) :
      Numbers categories candidate 0
  /-- It has no module. -/
  | nameless (other : ¬Fronts categories.sessionPrefix candidate.descriptionKey)
      (unnamed : candidate.moduleName = none ∨ candidate.moduleName = some "") :
      Numbers categories candidate (categories.markers.length + 2)
  /-- Its module begins with the project's. -/
  | project {name : String} (other : ¬Fronts categories.sessionPrefix candidate.descriptionKey)
      (named : candidate.moduleName = some name) (nonempty : name ≠ "")
      (own : Fronts categories.projectModule name) : Numbers categories candidate 1
  /-- Its module begins with a marker, and with none before that. -/
  | marked {name : String} {place : Nat}
      (other : ¬Fronts categories.sessionPrefix candidate.descriptionKey)
      (named : candidate.moduleName = some name) (nonempty : name ≠ "")
      (foreign : ¬Fronts categories.projectModule name) (there : place < categories.markers.length)
      (marks : Fronts categories.markers[place] name)
      (first : ∀ earlier, (before : earlier < place) → ¬Fronts categories.markers[earlier] name) :
      Numbers categories candidate (2 + place)
  /-- Its module begins with nothing of that. -/
  | unmarked {name : String} (other : ¬Fronts categories.sessionPrefix candidate.descriptionKey)
      (named : candidate.moduleName = some name) (nonempty : name ≠ "")
      (foreign : ¬Fronts categories.projectModule name)
      (unmarked : ∀ marker ∈ categories.markers, ¬Fronts marker name) :
      Numbers categories candidate (categories.markers.length + 2)

/-- The test for a nonempty front is right. -/
theorem leads_iff {front text : String} : leads front text = true ↔ Fronts front text := by
  simp [leads, Fronts, List.isPrefixOf_iff_prefix]

variable {categories : Categories} {candidate : Candidate}

/-- The bucket of a candidate has the number of its category. -/
theorem numbers_bucket : categories.Numbers candidate (categories.bucket candidate) := by
  unfold bucket
  dsimp only
  split_ifs with session unnamed project
  · exact .session (leads_iff.mp session)
  · refine .nameless (mt leads_iff.mpr session) ?_
    cases named : candidate.moduleName with
    | none => exact .inl rfl
    | some name => exact .inr (by simpa [named] using unnamed)
  · cases named : candidate.moduleName with
    | none => simp [named] at unnamed
    | some name =>
      rw [named, Option.getD_some] at unnamed project
      exact .project (mt leads_iff.mpr session) named unnamed (leads_iff.mp project)
  · cases named : candidate.moduleName with
    | none => simp [named] at unnamed
    | some name =>
      rw [named, Option.getD_some] at unnamed project
      rw [Option.getD_some]
      split
      · next place found =>
        obtain ⟨there, marks, first⟩ := List.findIdx?_eq_some_iff_getElem.mp found
        exact .marked (mt leads_iff.mpr session) named unnamed (mt leads_iff.mpr project) there
          (leads_iff.mp marks) fun earlier before => mt leads_iff.mpr (first earlier before)
      · next absent =>
        refine .unmarked (mt leads_iff.mpr session) named unnamed (mt leads_iff.mpr project) ?_
        intro marker member fronts
        have fails := List.findIdx?_eq_none_iff.mp absent marker member
        rw [leads_iff.mpr fronts] at fails
        contradiction

/-- The rules give no candidate two numbers. -/
theorem Numbers.eq_bucket {number : Nat} (numbers : categories.Numbers candidate number) :
    categories.bucket candidate = number := by
  cases numbers with
  | session own => rw [bucket, if_pos (leads_iff.mpr own)]
  | nameless other unnamed =>
    have empty : candidate.moduleName.getD "" = "" := by
      rcases unnamed with none | some
      · rw [none, Option.getD_none]
      · rw [some, Option.getD_some]
    rw [bucket, if_neg (mt leads_iff.mp other), if_pos empty, last]
  | project other named nonempty own =>
    rw [bucket, named, Option.getD_some, if_neg (mt leads_iff.mp other), if_neg nonempty,
      if_pos (leads_iff.mpr own)]
  | @marked name place other named nonempty foreign there marks first =>
    have found : categories.markers.findIdx? (leads · name) = some place :=
      List.findIdx?_eq_some_iff_getElem.mpr ⟨there, leads_iff.mpr marks,
        fun earlier before => mt leads_iff.mp (first earlier before)⟩
    rw [bucket, named, Option.getD_some, if_neg (mt leads_iff.mp other), if_neg nonempty,
      if_neg (mt leads_iff.mp foreign), found]
  | @unmarked name other named nonempty foreign unmarked =>
    have absent : categories.markers.findIdx? (leads · name) = none :=
      List.findIdx?_eq_none_iff.mpr fun marker member =>
        Bool.eq_false_iff.mpr (mt leads_iff.mp (unmarked marker member))
    rw [bucket, named, Option.getD_some, if_neg (mt leads_iff.mp other), if_neg nonempty,
      if_neg (mt leads_iff.mp foreign), absent, last]

/-- No bucket lies behind the last one. -/
theorem bucket_le_last (categories : Categories) (candidate : Candidate) :
    categories.bucket candidate ≤ categories.last := by
  unfold bucket
  dsimp only
  split_ifs
  · exact Nat.zero_le _
  · exact Nat.le_refl _
  · exact Nat.le_add_left 1 (categories.markers.length + 1)
  · split
    · next place found =>
      have there := (List.findIdx?_eq_some_iff_getElem.mp found).1
      rw [last]
      omega
    · exact Nat.le_refl _

end Categories

/-! ## The last items of an increasing list -/

section Increasing

variable {α β : Type} [LinearOrder β] {key : α → β} {items : List α}

/-- An increasing list has no item twice. -/
theorem nodup_of_increasing (increasing : items.Pairwise (key · < key ·)) : items.Nodup := by
  refine List.Pairwise.imp ?_ increasing
  rintro item other before rfl
  exact lt_irrefl _ before

/-- The last items of an increasing list are those that few others follow. -/
theorem mem_rtake_iff (increasing : items.Pairwise (key · < key ·)) (room : Nat) (item : α) :
    item ∈ items.rtake room ↔
      item ∈ items ∧ (items.filter (key item < key ·)).length < room := by
  induction items with
  | nil => simp
  | cons first rest ih =>
    obtain ⟨least, increasing⟩ := List.pairwise_cons.mp increasing
    by_cases fits : rest.length < room
    · -- Everything is among the last items, and no item has more than `rest.length` others.
      have whole : (first :: rest).rtake room = first :: rest := by
        rw [List.rtake, List.length_cons, Nat.sub_eq_zero_of_le fits, List.drop_zero]
      rw [whole, iff_self_and]
      intro member
      have shorter : ((first :: rest).filter (key item < key ·)).length < (first :: rest).length :=
        List.length_filter_lt_length_iff_exists.mpr ⟨item, member, by simp⟩
      rw [List.length_cons] at shorter
      omega
    · have moved : (first :: rest).rtake room = rest.rtake room := by
        rw [List.rtake, List.rtake, List.length_cons, Nat.succ_sub (Nat.le_of_not_lt fits),
          List.drop_succ_cons]
      rw [moved, ih increasing, List.mem_cons]
      constructor
      · rintro ⟨member, few⟩
        have later : ¬key item < key first := lt_asymm (least item member)
        rw [List.filter_cons_of_neg (by simpa using later)]
        exact ⟨.inr member, few⟩
      · rintro ⟨rfl | member, few⟩
        · have all : rest.filter (key item < key ·) = rest :=
            List.filter_eq_self.mpr fun other member => decide_eq_true (least other member)
          rw [List.filter_cons_of_neg (by simp), all] at few
          exact absurd few fits
        · have later : ¬key item < key first := lt_asymm (least item member)
          rw [List.filter_cons_of_neg (by simpa using later)] at few
          exact ⟨member, few⟩

end Increasing

/-! ## Places -/

section Places

variable {length : Nat} (rank : Fin length → Nat)

/-- What places are ordered by: the rank, and then the place. -/
def placeKey (place : Fin length) : Nat ×ₗ Fin length :=
  toLex (rank place, place)

/-- Places of equal rank are ordered as they are. -/
theorem placeKey_lt_of_eq {place other : Fin length} (same : rank place = rank other)
    (before : place < other) : placeKey rank place < placeKey rank other :=
  Prod.Lex.toLex_lt_toLex.mpr (.inr ⟨same, before⟩)

/-- Places of a smaller rank come first. -/
theorem placeKey_lt_of_lt {place other : Fin length} (smaller : rank place < rank other) :
    placeKey rank place < placeKey rank other :=
  Prod.Lex.toLex_lt_toLex.mpr (.inl smaller)

/-- Places that pass a test and have one rank are in order. -/
theorem pairwise_filter_finRange (passes : Fin length → Bool) (number : Nat)
    (same : ∀ place, passes place = true → rank place = number) :
    ((List.finRange length).filter passes).Pairwise (placeKey rank · < placeKey rank ·) := by
  have increasing := (List.pairwise_lt_finRange length).filter passes
  refine increasing.imp_of_mem ?_
  intro place other member otherMember before
  refine placeKey_lt_of_eq rank ?_ before
  rw [same place (List.mem_filter.mp member).2, same other (List.mem_filter.mp otherMember).2]

/-- Places put together by their ranks are in order. -/
theorem pairwise_flatMap_rank (count : Nat) :
    ((List.range count).flatMap fun number =>
      (List.finRange length).filter fun place => rank place == number).Pairwise
      (placeKey rank · < placeKey rank ·) := by
  rw [List.pairwise_flatMap]
  constructor
  · intro number _
    exact pairwise_filter_finRange rank _ number fun place passes => by simpa using passes
  · refine List.pairwise_lt_range.imp ?_
    intro number larger before place member other otherMember
    apply placeKey_lt_of_lt
    have own : rank place = number := by simpa using member
    have others : rank other = larger := by simpa using otherMember
    omega

end Places

/-! ## Stages on places -/

section Stages

variable (candidates : List Candidate) (categories : Categories) (front : String)

/-- The rank of a place: the bucket of its candidate, if nothing was typed. -/
def rankAt (place : Fin candidates.length) : Nat :=
  if front = "" then categories.bucket (candidates.get place) else 0

/-- The places that the first stage leaves. -/
def selectedPlaces : List (Fin candidates.length) :=
  if front = "" then
    (List.range (categories.last + 1)).flatMap fun number =>
      (List.finRange candidates.length).filter fun place =>
        categories.bucket (candidates.get place) == number
  else
    (List.finRange candidates.length).filter fun place =>
      front.toList.isPrefixOf (candidates.get place).sourceText.toList

/-- The places that the relation leaves of some. -/
def relatedPlaces (relation : Relation) (limit : Int) (places : List (Fin candidates.length)) :
    List (Fin candidates.length) :=
  match relation with
  | .thisClass => places.filter fun place => !(candidates.get place).isInherited
  | .superClass =>
    (places.filter fun place => (candidates.get place).isInherited).rtake limit.toNat

/-- The candidates that pass a test are those at the places where it is passed. -/
theorem filter_eq_map_places (passes : Candidate → Bool) :
    candidates.filter passes =
      ((List.finRange candidates.length).filter fun place =>
        passes (candidates.get place)).map candidates.get := by
  conv_lhs => rw [← List.map_get_finRange candidates, List.filter_map]
  rfl

/-- What the first stage selects stands at the selected places, in their order. -/
theorem selected_eq_map_places :
    selected categories front candidates =
      (selectedPlaces candidates categories front).map candidates.get := by
  unfold selected selectedPlaces
  split
  · rw [Categories.group_eq_flatMap, List.map_flatMap]
    exact congrArg (List.flatMap · _) (funext fun number => filter_eq_map_places candidates _)
  · exact filter_eq_map_places candidates _

/-- What the relation leaves of the candidates at some places stands at the related places. -/
theorem byRelation_map_places (relation : Relation) (limit : Int)
    (places : List (Fin candidates.length)) :
    byRelation relation limit (places.map candidates.get) =
      (relatedPlaces candidates relation limit places).map candidates.get := by
  cases relation with
  | thisClass => exact List.filter_map
  | superClass =>
    rw [byRelation_superClass, List.filter_map, List.rtake, List.length_map, ← List.map_drop]
    rfl

/-- The first stage leaves places in the order of ranks. -/
theorem pairwise_selectedPlaces :
    (selectedPlaces candidates categories front).Pairwise
      (placeKey (rankAt candidates categories front) · <
        placeKey (rankAt candidates categories front) ·) := by
  unfold selectedPlaces
  split
  · next typed =>
    have ranks : rankAt candidates categories front =
        fun place => categories.bucket (candidates.get place) :=
      funext fun place => if_pos typed
    rw [ranks]
    exact pairwise_flatMap_rank _ _
  · next typed =>
    exact pairwise_filter_finRange _ _ 0 fun place _ => if_neg typed

/-- The first stage leaves the places whose text begins with what was typed. -/
theorem mem_selectedPlaces {place : Fin candidates.length} :
    place ∈ selectedPlaces candidates categories front ↔
      front.toList <+: (candidates.get place).sourceText.toList := by
  unfold selectedPlaces
  split
  · next typed =>
    have below := Nat.lt_succ_of_le (categories.bucket_le_last (candidates.get place))
    simpa [typed] using below
  · simp [List.isPrefixOf_iff_prefix]

/-- The relation only leaves places out. -/
theorem relatedPlaces_sublist (relation : Relation) (limit : Int)
    (places : List (Fin candidates.length)) :
    (relatedPlaces candidates relation limit places).Sublist places := by
  cases relation with
  | thisClass => exact List.filter_sublist
  | superClass => exact (List.drop_sublist _ _).trans List.filter_sublist

/-- The relation to the class itself leaves what is not inherited; the relation to the superclass
leaves what is inherited and has few inherited places after it. -/
theorem mem_relatedPlaces {rank : Fin candidates.length → Nat}
    {places : List (Fin candidates.length)}
    (increasing : places.Pairwise (placeKey rank · < placeKey rank ·)) (relation : Relation)
    (limit : Int) (place : Fin candidates.length) :
    place ∈ relatedPlaces candidates relation limit places ↔
      place ∈ places ∧
        match relation with
        | .thisClass => (candidates.get place).isInherited = false
        | .superClass =>
          (candidates.get place).isInherited = true ∧
            ((Finset.univ.filter fun other =>
              other ∈ places ∧ (candidates.get other).isInherited = true ∧
                placeKey rank place < placeKey rank other).card : Int) < limit := by
  cases relation with
  | thisClass => simp [relatedPlaces]
  | superClass =>
    have inherited := increasing.filter fun place => (candidates.get place).isInherited
    have later : ((places.filter fun other => (candidates.get other).isInherited).filter
        (placeKey rank place < placeKey rank ·)).length =
        (Finset.univ.filter fun other =>
          other ∈ places ∧ (candidates.get other).isInherited = true ∧
            placeKey rank place < placeKey rank other).card := by
      rw [← List.toFinset_card_of_nodup ((nodup_of_increasing inherited).filter _)]
      congr 1
      ext other
      simp only [List.mem_toFinset, List.mem_filter, decide_eq_true_eq, Finset.mem_filter,
        Finset.mem_univ, true_and, and_assoc]
    simp only [relatedPlaces]
    rw [mem_rtake_iff inherited, later, Int.lt_toNat, List.mem_filter, and_assoc]

end Stages

/-! ## The pipeline -/

/-- Without workers the pipeline never fails, and for every list of candidates, every request, all
options and every matcher or none it shows candidates as follows.

- The rank of a place is zero if something was typed, and else the number of its candidate's
  category.
- Places are shown in the order of their ranks, and places of one rank in their own order, so that
  none is shown twice.
- The candidate of a place is shown exactly if its text begins with what was typed; if it is not
  inherited, for a request about the class itself, or else is inherited and fewer than the limit of
  such candidates come later in that order; and if, when something was typed and there is a matcher,
  its description, or its text if it has none, weighs more than the threshold.
- An item has the candidate's text as its word, its description beside it, and the name of its
  module, if there is one, as its menu. -/
theorem apply_shows_ranked_places (options : Options)
    (matcher : Option (String → String → Float)) (candidates : List Candidate) (request : Request)
    (projectModule : String) :
    ∃ (rank : Fin candidates.length → Nat) (shown : List (Fin candidates.length)),
      Pipeline.apply ⟨options, matcher, .absent⟩ candidates request projectModule =
        .ok (shown.map fun place =>
          { word := (candidates.get place).sourceText
            abbr := (candidates.get place).descriptionKey
            menu := (candidates.get place).moduleName.getD "" }) ∧
      (∀ place number, rank place = number ↔
        if request.prefixText = "" then
          Categories.Numbers ⟨projectModule, options.markers, request.sessionPrefix⟩
            (candidates.get place) number
        else number = 0) ∧
      shown.Pairwise (placeKey rank · < placeKey rank ·) ∧ shown.Nodup ∧
      ∀ place, place ∈ shown ↔
        request.prefixText.toList <+: (candidates.get place).sourceText.toList ∧
        (match request.relation with
        | .thisClass => (candidates.get place).isInherited = false
        | .superClass =>
          (candidates.get place).isInherited = true ∧
            ((Finset.univ.filter fun other =>
              request.prefixText.toList <+: (candidates.get other).sourceText.toList ∧
                (candidates.get other).isInherited = true ∧
                placeKey rank place < placeKey rank other).card : Int) < options.scanLimit) ∧
        (request.prefixText ≠ "" → ∀ weigh, matcher = some weigh →
          weigh request.prefixText
            (if (candidates.get place).descriptionKey = "" then (candidates.get place).sourceText
              else (candidates.get place).descriptionKey) > options.threshold) := by
  let categories : Categories := ⟨projectModule, options.markers, request.sessionPrefix⟩
  let rank := rankAt candidates categories request.prefixText
  let places := selectedPlaces candidates categories request.prefixText
  let related := relatedPlaces candidates request.relation options.scanLimit places
  let heavy (place : Fin candidates.length) : Bool :=
    isHeavy matcher options.threshold request.prefixText (candidates.get place)
  have increasing : places.Pairwise (placeKey rank · < placeKey rank ·) :=
    pairwise_selectedPlaces candidates categories request.prefixText
  have shownIncreasing : (related.filter heavy).Pairwise (placeKey rank · < placeKey rank ·) :=
    increasing.sublist (List.filter_sublist.trans (relatedPlaces_sublist candidates _ _ places))
  refine ⟨rank, related.filter heavy, ?_, ?_, shownIncreasing,
    nodup_of_increasing shownIncreasing, ?_⟩
  · rw [apply_absent, selected_eq_map_places, byRelation_map_places, List.filter_map, List.map_map]
    rfl
  · intro place number
    by_cases typed : request.prefixText = ""
    · have own : rank place = categories.bucket (candidates.get place) := if_pos typed
      rw [if_pos typed, own]
      exact ⟨fun same => same ▸ Categories.numbers_bucket, fun numbers => numbers.eq_bucket⟩
    · have zero : rank place = 0 := if_neg typed
      rw [if_neg typed, zero]
      exact eq_comm
  · intro place
    have weighed : heavy place = true ↔ (request.prefixText ≠ "" → ∀ weigh, matcher = some weigh →
        weigh request.prefixText (candidates.get place).label > options.threshold) := by
      cases matcher with
      | none => simp [heavy, isHeavy]
      | some weigh => simp [heavy, isHeavy, or_iff_not_imp_left]
    rw [List.mem_filter, weighed, mem_relatedPlaces candidates increasing, mem_selectedPlaces,
      and_assoc]
    simp only [places, mem_selectedPlaces, Candidate.label]

end CompletionServer.Filter
