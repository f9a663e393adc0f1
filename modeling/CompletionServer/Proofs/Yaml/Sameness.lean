import CompletionServer.Proofs.Yaml.Keys
import Mathlib.Algebra.BigOperators.Group.Finset.Basic
import Mathlib.Data.List.Zip
import Mathlib.Logic.Relation

/-!
# The same value in two documents

A value of one document is the same as a value of another if a relation between their collections
leads from place to place in both: related collections are of one kind and hold the same single
values and related collections, and a collection comes back to itself in both or in neither. How
collections are numbered, and whether equal ones are shared, makes no difference. Values that are
the same have the same text, or the same fault in its place.
-/

namespace CompletionServer.Yaml

/-! ## The relation -/

/-- The items that a collection holds, a mapping's keys before their values. -/
def Object.parts : Object → List Item
  | .list items | .tuple items | .set items => items
  | .mapping pairs => pairs.flatMap fun pair => [pair.1, pair.2]

/-- Items that are one single value, or related collections. -/
inductive Item.Matches (related : Nat → Nat → Prop) : Item → Item → Prop
  | scalar (value : Scalar) : Item.Matches related (.scalar value) (.scalar value)
  | stray (node again : Nat) : Item.Matches related (.stray node) (.stray again)
  | object {number again : Nat} (own : related number again) :
      Item.Matches related (.object number) (.object again)

/-- Collections of one kind whose items match place by place. -/
inductive Object.Matches (related : Nat → Nat → Prop) : Object → Object → Prop
  | list {items others : List Item} (each : List.Forall₂ (Item.Matches related) items others) :
      Object.Matches related (.list items) (.list others)
  | tuple {items others : List Item} (each : List.Forall₂ (Item.Matches related) items others) :
      Object.Matches related (.tuple items) (.tuple others)
  | mapping {pairs others : List (Item × Item)}
      (each : List.Forall₂ (fun pair again => Item.Matches related pair.1 again.1 ∧
        Item.Matches related pair.2 again.2) pairs others) :
      Object.Matches related (.mapping pairs) (.mapping others)
  | set {items others : List Item} (each : List.Forall₂ (Item.Matches related) items others) :
      Object.Matches related (.set items) (.set others)

section Rules

variable (document other : Document)

/-- Collections of two documents that stand at the same place of others. -/
def Holds (outer inner : Nat × Nat) : Prop :=
  ∃ object again, document.objects[outer.1]? = some object ∧
    other.objects[outer.2]? = some again ∧
    (Item.object inner.1, Item.object inner.2) ∈ object.parts.zip again.parts

/-- A relation under which the collections of two documents are alike. -/
structure Correspondence (related : Nat → Nat → Prop) : Prop where
  contents : ∀ number again, related number again → ∃ object counterpart,
    document.objects[number]? = some object ∧ other.objects[again]? = some counterpart ∧
    Object.Matches related object counterpart
  /-- A path of places leads back to where it starts in both documents or in neither. -/
  returns : ∀ outer inner : Nat × Nat, related outer.1 outer.2 →
    Relation.TransGen (Holds document other) outer inner → (inner.1 = outer.1 ↔ inner.2 = outer.2)

/-- An item of one document is the same value as an item of another. -/
def SameValue (item again : Item) : Prop :=
  ∃ related, Correspondence document other related ∧ Item.Matches related item again

end Rules

section Flat

variable {document other : Document} {number again : Nat} {object : Object}

/-- A single value is the same in every document. -/
theorem SameValue.scalar (value : Scalar) :
    SameValue document other (.scalar value) (.scalar value) :=
  ⟨fun _ _ => False, ⟨by simp, by simp⟩, .scalar value⟩

/-- An object of single values matches itself. -/
theorem Object.Matches.of_single {related : Nat → Nat → Prop}
    (single : ∀ part ∈ object.parts, part.isSingle = true) :
    Object.Matches related object object := by
  have matching : ∀ part ∈ object.parts, Item.Matches related part part := by
    intro part member
    have own := single part member
    cases part with
    | scalar value => exact .scalar value
    | stray node => exact .stray node node
    | object _ => cases own
  cases object with
  | list items => exact .list (List.forall₂_same.mpr matching)
  | tuple items => exact .tuple (List.forall₂_same.mpr matching)
  | set items => exact .set (List.forall₂_same.mpr matching)
  | mapping pairs =>
    refine .mapping (List.forall₂_same.mpr fun pair member => ⟨matching _ ?_, matching _ ?_⟩)
    · exact List.mem_flatMap.mpr ⟨pair, member, by simp⟩
    · exact List.mem_flatMap.mpr ⟨pair, member, by simp⟩

/-- A collection of single values is the same wherever it stands. -/
theorem SameValue.flat (here : document.objects[number]? = some object)
    (there : other.objects[again]? = some object)
    (single : ∀ part ∈ object.parts, part.isSingle = true) :
    SameValue document other (.object number) (.object again) := by
  refine ⟨fun own counterpart => own = number ∧ counterpart = again, ⟨?_, ?_⟩, .object ⟨rfl, rfl⟩⟩
  · rintro _ _ ⟨rfl, rfl⟩
    exact ⟨object, object, here, there, .of_single single⟩
  · intro outer inner own path
    obtain ⟨_, ⟨first, _, found, -, place⟩, -⟩ := Relation.TransGen.head'_iff.mp path
    rw [own.1, here] at found
    obtain rfl := Option.some.inj found
    cases single _ (List.of_mem_zip place).1

end Flat

/-! ## Room for printing

Collections that are being printed are entered once, so that what is left to enter bounds the
printing.
-/

section Room

/-- The number of items or pairs of a collection. -/
def Object.width : Object → Nat
  | .list items | .tuple items | .set items => items.length
  | .mapping pairs => pairs.length

namespace Document

/-- The room that a collection takes. -/
def roomOf (document : Document) (number : Nat) : Nat :=
  (document.objects[number]?.map fun object => object.width + 2).getD 0

/-- The room that the collections take of which none is being printed. -/
def room (document : Document) (around : List Nat) : Nat :=
  ∑ number ∈ Finset.range document.objects.size \ around.toFinset, document.roomOf number

variable {document : Document} {around : List Nat} {number : Nat} {object : Object}

/-- A collection that is being printed leaves the room to the others. -/
theorem room_cons (here : document.objects[number]? = some object) (fresh : number ∉ around) :
    object.width + 2 + document.room (number :: around) = document.room around := by
  have small : number < document.objects.size := (Array.getElem?_eq_some_iff.mp here).1
  have own : document.roomOf number = object.width + 2 := by rw [roomOf, here]; rfl
  rw [room, room, ← own, List.toFinset_cons, Finset.sdiff_insert]
  exact Finset.add_sum_erase _ _ (by simp [small, fresh])

/-- If nothing is being printed, all collections take room. -/
theorem room_nil : document.room [] = document.places := by
  have summed (objects : List Object) (weigh : Object → Nat) :
      ∑ number ∈ Finset.range objects.length, (objects[number]?.map weigh).getD 0 =
        (objects.map weigh).foldr (· + ·) 0 := by
    induction objects with
    | nil => rfl
    | cons first rest ih =>
      rw [List.length_cons, Finset.sum_range_succ', List.map_cons, List.foldr_cons, ← ih, add_comm]
      rfl
  have weights : document.places =
      (document.objects.toList.map fun object => object.width + 2).foldr (· + ·) 0 := by
    refine congrArg (List.foldr (· + ·) 0) (List.map_congr_left fun object _ => ?_)
    cases object <;> rfl
  rw [weights, ← summed, room]
  simp [roomOf]

end Document

end Room

/-! ## Printing the same -/

section Printing

variable {document other : Document} {related : Nat → Nat → Prop} {around others : List Nat}
  {number again : Nat} {object counterpart : Object}

/-- Objects that match have matching parts. -/
theorem Object.Matches.parts (matching : Object.Matches related object counterpart) :
    List.Forall₂ (Item.Matches related) object.parts counterpart.parts := by
  cases matching with
  | list each => exact each
  | tuple each => exact each
  | set each => exact each
  | mapping each =>
    induction each with
    | nil => exact .nil
    | cons here _ ih => exact .cons here.1 (.cons here.2 ih)

/-- Two collections are reached on one path of places from each of those inside which they are
printed. -/
def Leads (document other : Document) (related : Nat → Nat → Prop) (around others : List Nat)
    (number again : Nat) : Prop :=
  List.Forall₂ (fun outer counterpart => related outer counterpart ∧
    Relation.TransGen (Holds document other) (outer, counterpart) (number, again)) around others

/-- Items that are printed at the same place of two documents. -/
inductive Faces (document other : Document) (related : Nat → Nat → Prop)
    (around others : List Nat) : Item → Item → Prop
  | scalar (value : Scalar) :
      Faces document other related around others (.scalar value) (.scalar value)
  | stray (node again : Nat) :
      Faces document other related around others (.stray node) (.stray again)
  | object {number again : Nat} (own : related number again)
      (leads : Leads document other related around others number again) :
      Faces document other related around others (.object number) (.object again)

/-- A collection is being printed already in both documents or in neither. -/
theorem Leads.mem_iff (correspondence : Correspondence document other related)
    (leads : Leads document other related around others number again) :
    number ∈ around ↔ again ∈ others := by
  induction leads with
  | nil => simp
  | cons here _ ih =>
    have back := correspondence.returns _ _ here.1 here.2
    rw [List.mem_cons, List.mem_cons, ih, back]

/-- The parts of collections that are printed at the same place are so themselves. -/
theorem Leads.parts (leads : Leads document other related around others number again)
    (own : related number again) (here : document.objects[number]? = some object)
    (there : other.objects[again]? = some counterpart)
    (matching : Object.Matches related object counterpart) :
    List.Forall₂ (Faces document other related (number :: around) (again :: others))
      object.parts counterpart.parts := by
  obtain ⟨length, each⟩ := List.forall₂_iff_zip.mp matching.parts
  refine List.forall₂_iff_zip.mpr ⟨length, fun {item part} member => ?_⟩
  cases each member with
  | scalar value => exact .scalar value
  | stray node other => exact .stray node other
  | @object inner innerAgain related =>
    have step : Holds document other (number, again) (inner, innerAgain) :=
      ⟨object, counterpart, here, there, member⟩
    exact .object related (.cons ⟨own, .single step⟩
      (leads.imp fun _ _ before => ⟨before.1, before.2.tail step⟩))

/-- A set is not printed inside itself, since it holds no collections. -/
theorem Leads.not_mem_of_set {items : List Item} (keyed : document.IsKeyed)
    (leads : Leads document other related around others number again)
    (here : document.objects[number]? = some (.set items)) : number ∉ around := by
  intro member
  induction leads with
  | nil => cases member
  | @cons outer counterpart _ _ own _ ih =>
    rcases List.mem_cons.mp member with rfl | later
    · obtain ⟨inner, ⟨object, _, found, -, place⟩, -⟩ := Relation.TransGen.head'_iff.mp own.2
      obtain rfl := Option.some.inj (found.symm.trans here)
      have single := keyed _ (Array.mem_of_getElem? here) _ (List.of_mem_zip place).1
      cases single
    · exact ih later

/-- Pairs of a mapping from its parts. -/
theorem forall₂_pairs {relation : Item → Item → Prop} {pairs others : List (Item × Item)}
    (each : List.Forall₂ relation (pairs.flatMap fun pair => [pair.1, pair.2])
      (others.flatMap fun pair => [pair.1, pair.2])) :
    List.Forall₂ (fun pair again => relation pair.1 again.1 ∧ relation pair.2 again.2)
      pairs others := by
  induction pairs generalizing others with
  | nil =>
    cases others with
    | nil => exact .nil
    | cons _ _ => cases each
  | cons pair rest ih =>
    cases others with
    | nil => cases each
    | cons again others =>
      cases each with
      | cons key each =>
        cases each with
        | cons value each => exact .cons ⟨key, value⟩ (ih each)

/-- With so much fuel, items at the same place of two documents are printed the same, if there is
room for all that is not being printed. -/
def ShowsItem (document other : Document) (related : Nat → Nat → Prop) (fuel : Nat) : Prop :=
  ∀ spare around others item again, Faces document other related around others item again →
    document.room around < fuel → other.room others < spare →
    document.shownIn fuel around item = other.shownIn spare others again

/-- The same of items in a row. -/
def ShowsItems (document other : Document) (related : Nat → Nat → Prop) (fuel : Nat) : Prop :=
  ∀ spare around others items agains,
    List.Forall₂ (Faces document other related around others) items agains →
    document.room around + items.length < fuel → other.room others + agains.length < spare →
    document.shownItems fuel around items = other.shownItems spare others agains

/-- The same of pairs in a row. -/
def ShowsPairs (document other : Document) (related : Nat → Nat → Prop) (fuel : Nat) : Prop :=
  ∀ spare around others pairs agains,
    List.Forall₂ (fun pair again => Faces document other related around others pair.1 again.1 ∧
      Faces document other related around others pair.2 again.2) pairs agains →
    document.room around + pairs.length < fuel → other.room others + agains.length < spare →
    document.shownPairs fuel around pairs = other.shownPairs spare others agains

section Steps

variable {fuel : Nat}

/-- Collections at the same place are printed the same if their parts are. -/
theorem shownIn_object_of_leads {spare : Nat}
    (correspondence : Correspondence document other related) (keyed : document.IsKeyed)
    (showsItems : ShowsItems document other related fuel)
    (showsPairs : ShowsPairs document other related fuel) (own : related number again)
    (leads : Leads document other related around others number again)
    (small : document.room around ≤ fuel) (smaller : other.room others ≤ spare) :
    document.shownIn (fuel + 1) around (.object number) =
      other.shownIn (spare + 1) others (.object again) := by
  obtain ⟨object, counterpart, here, there, matching⟩ := correspondence.contents _ _ own
  have faces := leads.parts own here there matching
  have length : around.length = others.length := leads.length_eq
  have opened : around.contains number = others.contains again := by
    rw [Bool.eq_iff_iff]
    simpa using leads.mem_iff correspondence
  rw [Document.shownIn, Document.shownIn, here, there, length, opened]
  split
  · rfl
  cases isOpen : others.contains again with
  | true =>
    cases matching with
    | list _ => rfl
    | tuple _ => rfl
    | mapping _ => rfl
    | set _ =>
      have fresh := leads.not_mem_of_set keyed here
      exact absurd (opened.trans isOpen) (by simpa using fresh)
  | false =>
    -- What is being printed now takes the room of its own parts, which are printed next.
    have fewer := Document.room_cons here (by simpa using opened.trans isOpen)
    have fewerAgain := Document.room_cons there (by simpa using isOpen)
    have within : document.room (number :: around) + object.width < fuel := by omega
    have withinAgain : other.room (again :: others) + counterpart.width < spare := by omega
    cases matching with
    | @list items agains _ =>
      have printed := showsItems _ _ _ items agains faces within withinAgain
      dsimp only
      rw [printed]
    | @tuple items agains _ =>
      have printed := showsItems _ _ _ items agains faces within withinAgain
      dsimp only
      rw [printed]
    | @mapping pairs agains _ =>
      have printed := showsPairs _ _ _ pairs agains (forall₂_pairs faces) within withinAgain
      dsimp only
      rw [printed]
    | @set items agains each =>
      have printed := showsItems _ _ _ items agains faces within withinAgain
      cases each with
      | nil => rfl
      | cons _ _ =>
        dsimp only
        rw [printed]

/-- Items are printed the same with more fuel, if rows of items and of pairs are. -/
theorem ShowsItem.succ (correspondence : Correspondence document other related)
    (keyed : document.IsKeyed) (showsItems : ShowsItems document other related fuel)
    (showsPairs : ShowsPairs document other related fuel) :
    ShowsItem document other related (fuel + 1) := by
  intro spare around others item again faces small smaller
  cases faces with
  | scalar value => rw [Document.shownIn, Document.shownIn]
  | stray node again => rw [Document.shownIn, Document.shownIn]
  | object own leads =>
    obtain ⟨spare, rfl⟩ := Nat.exists_eq_succ_of_ne_zero (Nat.ne_zero_of_lt smaller)
    exact shownIn_object_of_leads correspondence keyed showsItems showsPairs own leads
      (Nat.le_of_lt_succ small) (Nat.le_of_lt_succ smaller)

/-- Rows of items are printed the same with more fuel, if items and shorter rows are. -/
theorem ShowsItems.succ (showsItem : ShowsItem document other related fuel)
    (showsItems : ShowsItems document other related fuel) :
    ShowsItems document other related (fuel + 1) := by
  intro spare around others items agains each small smaller
  cases each with
  | nil => rw [Document.shownItems, Document.shownItems]
  | cons here later =>
    obtain ⟨spare, rfl⟩ := Nat.exists_eq_succ_of_ne_zero (Nat.ne_zero_of_lt smaller)
    rw [List.length_cons] at small smaller
    rw [Document.shownItems, Document.shownItems,
      showsItem spare around others _ _ here (by omega) (by omega),
      showsItems spare around others _ _ later (by omega) (by omega)]

/-- Rows of pairs are printed the same with more fuel, if items and shorter rows are. -/
theorem ShowsPairs.succ (showsItem : ShowsItem document other related fuel)
    (showsPairs : ShowsPairs document other related fuel) :
    ShowsPairs document other related (fuel + 1) := by
  intro spare around others pairs agains each small smaller
  cases each with
  | nil => rw [Document.shownPairs, Document.shownPairs]
  | cons here later =>
    obtain ⟨spare, rfl⟩ := Nat.exists_eq_succ_of_ne_zero (Nat.ne_zero_of_lt smaller)
    rw [List.length_cons] at small smaller
    rw [Document.shownPairs, Document.shownPairs,
      showsItem spare around others _ _ here.1 (by omega) (by omega),
      showsItem spare around others _ _ here.2 (by omega) (by omega),
      showsPairs spare around others _ _ later (by omega) (by omega)]

end Steps

/-- Items at the same place of two documents are printed the same. -/
theorem shown_of_faces (correspondence : Correspondence document other related)
    (keyed : document.IsKeyed) (fuel : Nat) :
    ShowsItem document other related fuel ∧ ShowsItems document other related fuel ∧
      ShowsPairs document other related fuel := by
  induction fuel with
  | zero =>
    refine ⟨?_, ?_, ?_⟩
    · exact fun _ _ _ _ _ _ small => absurd small (Nat.not_lt_zero _)
    · exact fun _ _ _ _ _ _ small => absurd small (Nat.not_lt_zero _)
    · exact fun _ _ _ _ _ _ small => absurd small (Nat.not_lt_zero _)
  | succ fuel ih =>
    obtain ⟨item, items, pairs⟩ := ih
    exact ⟨.succ correspondence keyed items pairs, .succ item items, .succ item pairs⟩

/-- Items with the same value are shown the same. -/
theorem SameValue.shown_eq {item again : Item} (keyed : document.IsKeyed)
    (same : SameValue document other item again) : document.shown item = other.shown again := by
  obtain ⟨related, correspondence, matching⟩ := same
  have faces : Faces document other related [] [] item again := by
    cases matching with
    | scalar value => exact .scalar value
    | stray node again => exact .stray node again
    | object own => exact .object own .nil
  have room : document.room [] < document.places + 1 := by
    rw [Document.room_nil]
    exact Nat.lt_succ_self _
  have roomAgain : other.room [] < other.places + 1 := by
    rw [Document.room_nil]
    exact Nat.lt_succ_self _
  exact (shown_of_faces correspondence keyed _).1 _ _ _ _ _ faces room roomAgain

/-- The same value has the same text in both documents, or the same fault in its place. -/
theorem SameValue.plain_eq {item again : Item} (keyed : document.IsKeyed)
    (same : SameValue document other item again) : document.plain item = other.plain again := by
  have shown := same.shown_eq keyed
  obtain ⟨related, correspondence, matching⟩ := same
  cases matching with
  | scalar value => rfl
  | stray node again => exact shown
  | object own => exact shown

/-- Of items with the same value both are given or none is. -/
theorem SameValue.isGiven_eq {item again : Item} (same : SameValue document other item again) :
    document.isGiven item = other.isGiven again := by
  obtain ⟨related, correspondence, matching⟩ := same
  cases matching with
  | scalar value => rfl
  | stray node again => rfl
  | object own =>
    obtain ⟨object, counterpart, here, there, matching⟩ := correspondence.contents _ _ own
    rw [Document.isGiven, Document.isGiven, here, there]
    cases matching with
    | list each => cases each <;> rfl
    | tuple each => cases each <;> rfl
    | mapping each => cases each <;> rfl
    | set each => cases each <;> rfl

end Printing

end CompletionServer.Yaml
