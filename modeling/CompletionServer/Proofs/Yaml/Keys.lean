import CompletionServer.Proofs.Outcome
import CompletionServer.Yaml.Document

/-!
# Keys are single values

A document that is read has no collection among the keys of its mappings or the members of its sets:
each step of making its values keeps this, since a key is looked at before its pair is put in.
-/

namespace CompletionServer.Yaml

/-- Whether an item is a value without parts. -/
def Item.isSingle : Item → Bool
  | .object _ => false
  | .scalar _ | .stray _ => true

/-- Only single values are keys or members. -/
def Object.IsKeyed : Object → Prop
  | .mapping pairs => ∀ pair ∈ pairs, pair.1.isSingle = true
  | .set items => ∀ item ∈ items, item.isSingle = true
  | .list _ | .tuple _ => True

/-- Only single values are keys or members in a document. -/
def Document.IsKeyed (document : Document) : Prop :=
  ∀ object ∈ document.objects, object.IsKeyed

/-! ## Members in the order of a set -/

namespace MemberOrder

variable {α : Type}

/-- A slot of a row with a new member is an old one or that of the member. -/
theorem mem_insert {row : List (Option α)} {residue : Nat} {member : α} {slot : Option α}
    (there : slot ∈ insert row residue member) : slot ∈ row ∨ slot = some member := by
  unfold insert at there
  dsimp only at there
  split at there
  · exact List.mem_or_eq_of_mem_set there
  · exact .inl there

/-- A row that members are put into holds what it held before and the members. -/
theorem mem_foldl_insert {members : List (Nat × α)} {row : List (Option α)} {member : α}
    (found : some member ∈ members.foldl (fun row entry => insert row entry.1 entry.2) row) :
    some member ∈ row ∨ ∃ residue, (residue, member) ∈ members := by
  induction members generalizing row with
  | nil => exact .inl found
  | cons first rest ih =>
    rcases ih found with earlier | ⟨residue, later⟩
    · rcases mem_insert earlier with before | same
      · exact .inl before
      · refine .inr ⟨first.1, ?_⟩
        rw [Option.some.inj same]
        exact List.mem_cons_self
    · exact .inr ⟨residue, List.mem_cons_of_mem _ later⟩

/-- Sorting members by slots brings in no others. -/
theorem mem_bySlot {members : List (Nat × α)} {member : α} (there : member ∈ bySlot members) :
    ∃ residue, (residue, member) ∈ members := by
  obtain ⟨slot, found, rfl⟩ := List.mem_filterMap.mp there
  rcases mem_foldl_insert found with empty | within
  · exact absurd (List.eq_of_mem_replicate empty) (by simp)
  · exact within

/-- Members are numbered in place. -/
theorem mem_of_numbered {residue? : α → Option Nat} {members : List α} {numbered : List (Nat × α)}
    (made : (members.mapM fun member => (residue? member).map (·, member)) = some numbered)
    {residue : Nat} {member : α} (there : (residue, member) ∈ numbered) : member ∈ members := by
  induction members generalizing numbered with
  | nil =>
    rw [List.mapM_nil] at made
    obtain rfl := Option.some.inj made
    contradiction
  | cons first rest ih =>
    rw [List.mapM_cons] at made
    obtain ⟨one, here, made⟩ := Option.bind_eq_some_iff.mp made
    obtain ⟨others, later, same⟩ := Option.bind_eq_some_iff.mp made
    obtain ⟨_, -, rfl⟩ := Option.map_eq_some_iff.mp here
    obtain rfl := Option.some.inj same
    rcases List.mem_cons.mp there with equal | among
    · rw [(Prod.mk.inj equal).2]
      exact List.mem_cons_self
    · exact List.mem_cons_of_mem _ (ih later among)

/-- A set lists no members but its own. -/
theorem mem_of_mem_listed {residue? : α → Option Nat} {members : List α} {member : α}
    (there : member ∈ listed residue? members) : member ∈ members := by
  unfold listed at there
  split at there
  · next numbered made =>
    obtain ⟨residue, within⟩ := mem_bySlot there
    exact mem_of_numbered made within
  · exact there

end MemberOrder

/-! ## Making values -/

namespace Construction

variable {construction next : Construction}

/-- Only single values are keys or members so far. -/
def IsKeyed (construction : Construction) : Prop :=
  ∀ object ∈ construction.objects, object.IsKeyed

/-- One more object with single keys keeps all keys single. -/
theorem IsKeyed.push (keyed : construction.IsKeyed) (object : Object) (own : object.IsKeyed)
    (same : next.objects = construction.objects.push object) : next.IsKeyed := by
  intro other member
  rw [same] at member
  rcases Array.mem_push.mp member with before | rfl
  · exact keyed other before
  · exact own

/-- What leaves the objects as they are keeps all keys single. -/
theorem IsKeyed.of_objects (keyed : construction.IsKeyed)
    (same : next.objects = construction.objects) : next.IsKeyed := by
  rw [IsKeyed, same]
  exact keyed

/-- Making a value adds one empty collection at most. -/
theorem IsKeyed.makeNew {number : Nat} {item : Item} (keyed : construction.IsKeyed)
    (made : construction.makeNew number = .ok (item, next)) : next.IsKeyed := by
  have single {value : Except Problem Scalar}
      (done : (do return (.scalar (← value), construction)) =
        (Except.ok (item, next) : Except Problem (Item × Construction))) : next.IsKeyed := by
    obtain ⟨_, -, same⟩ := Outcome.bind_eq_ok_iff.mp done
    rw [← (Prod.mk.inj (Except.ok.inj same)).2]
    exact keyed
  have postponed {object : Object} (own : object.IsKeyed)
      (done : Except.ok (construction.postpone number object) =
        (Except.ok (item, next) : Except Problem (Item × Construction))) : next.IsKeyed := by
    refine keyed.push object own ?_
    rw [← (Prod.mk.inj (Except.ok.inj done)).2]
  unfold Construction.makeNew at made
  dsimp only at made
  split at made
  case h_4 =>
    obtain ⟨_, -, made⟩ := Outcome.bind_eq_ok_iff.mp made
    obtain ⟨value?, -, made⟩ := Outcome.bind_eq_ok_iff.mp made
    cases value? with
    | none => exact (Prod.mk.inj (Except.ok.inj made)).2 ▸ keyed
    | some value => exact (Prod.mk.inj (Except.ok.inj made)).2 ▸ keyed
  all_goals first
    | exact single made
    | exact postponed (by simp [Object.IsKeyed]) made
    | cases made

/-- Making a value keeps all keys single. -/
theorem IsKeyed.make {number : Nat} {item : Item} (keyed : construction.IsKeyed)
    (made : construction.make number = .ok (item, next)) : next.IsKeyed := by
  unfold Construction.make at made
  split at made
  · exact (Prod.mk.inj (Except.ok.inj made)).2 ▸ keyed
  · obtain ⟨⟨own, after⟩, here, same⟩ := Outcome.bind_eq_ok_iff.mp made
    rw [← (Prod.mk.inj (Except.ok.inj same)).2]
    exact (keyed.makeNew here).of_objects rfl

/-- Making values in a row keeps all keys single. -/
theorem IsKeyed.makeAll {numbers : List Nat} {items : List Item} (keyed : construction.IsKeyed)
    (made : construction.makeAll numbers = .ok (items, next)) : next.IsKeyed := by
  induction numbers generalizing construction items with
  | nil => exact (Prod.mk.inj (Except.ok.inj made)).2 ▸ keyed
  | cons number rest ih =>
    obtain ⟨⟨_, middle⟩, first, made⟩ := Outcome.bind_eq_ok_iff.mp made
    obtain ⟨⟨_, last⟩, later, same⟩ := Outcome.bind_eq_ok_iff.mp made
    obtain rfl := (Prod.mk.inj (Except.ok.inj same)).2
    exact ih (keyed.make first) later

/-- Making tuples keeps all keys single. -/
theorem IsKeyed.makeTuples {numbers : List Nat} {items : List Item} (keyed : construction.IsKeyed)
    (made : construction.makeTuples numbers = .ok (items, next)) : next.IsKeyed := by
  induction numbers generalizing construction items with
  | nil => exact (Prod.mk.inj (Except.ok.inj made)).2 ▸ keyed
  | cons number rest ih =>
    unfold Construction.makeTuples at made
    split at made
    · obtain ⟨⟨_, first⟩, key, made⟩ := Outcome.bind_eq_ok_iff.mp made
      obtain ⟨⟨_, second⟩, value, made⟩ := Outcome.bind_eq_ok_iff.mp made
      obtain ⟨⟨_, last⟩, later, same⟩ := Outcome.bind_eq_ok_iff.mp made
      obtain rfl := (Prod.mk.inj (Except.ok.inj same)).2
      exact ih (((keyed.make key).make value).push (.tuple _) trivial rfl) later
    · cases made

/-- What may be a key has no parts. -/
theorem isSingle_of_checkKey {item : Item} (passes : checkKey item = .ok ()) :
    item.isSingle = true := by
  cases item with
  | object _ => cases passes
  | scalar _ => rfl
  | stray _ => rfl

/-- A pair with a single key keeps the keys of the pairs single. -/
theorem isSingle_insertPair {pairs : List (Item × Item)} {key value : Item}
    (keys : ∀ pair ∈ pairs, pair.1.isSingle = true) (own : key.isSingle = true) :
    ∀ pair ∈ insertPair pairs key value, pair.1.isSingle = true := by
  intro pair member
  unfold insertPair at member
  split at member
  · obtain ⟨before, among, rfl⟩ := List.mem_map.mp member
    have kept := keys before among
    split
    · exact kept
    · exact kept
  · rcases List.mem_append.mp member with before | last
    · exact keys pair before
    · rw [List.mem_singleton.mp last]
      exact own

/-- The keys of gathered pairs are single values, since each is looked at. -/
theorem IsKeyed.makePairs {numbers : List (Nat × Nat)} {gathered pairs : List (Item × Item)}
    (keyed : construction.IsKeyed) (keys : ∀ pair ∈ gathered, pair.1.isSingle = true)
    (made : construction.makePairs gathered numbers = .ok (pairs, next)) :
    next.IsKeyed ∧ ∀ pair ∈ pairs, pair.1.isSingle = true := by
  induction numbers generalizing construction gathered with
  | nil =>
    obtain ⟨rfl, rfl⟩ := Prod.mk.inj (Except.ok.inj made)
    exact ⟨keyed, keys⟩
  | cons number rest ih =>
    obtain ⟨⟨keyItem, first⟩, key, made⟩ := Outcome.bind_eq_ok_iff.mp made
    obtain ⟨_, passes, made⟩ := Outcome.bind_eq_ok_iff.mp made
    obtain ⟨⟨item, second⟩, value, made⟩ := Outcome.bind_eq_ok_iff.mp made
    exact ih ((keyed.make key).make value)
      (isSingle_insertPair keys (isSingle_of_checkKey passes)) made

/-- Merging changes nodes and no values. -/
theorem objects_of_flatten (fuel : Nat) :
    (∀ number construction next, flatten fuel number construction = .ok next →
      next.objects = construction.objects) ∧
    (∀ number place merged construction next,
      flattenFrom fuel number place merged construction = .ok next →
      next.objects = construction.objects) ∧
    ∀ numbers construction brought next,
      flattenAll fuel numbers construction = .ok (brought, next) →
      next.objects = construction.objects := by
  induction fuel with
  | zero =>
    refine ⟨fun number construction next made => ?_,
      fun number place merged construction next made => ?_,
      fun numbers construction brought next made => ?_⟩
    · rw [Except.ok.inj made]
    · rw [Except.ok.inj made]
    · rw [(Prod.mk.inj (Except.ok.inj made)).2]
  | succ fuel ih =>
    obtain ⟨ihOne, ihFrom, ihAll⟩ := ih
    refine ⟨fun number construction next made => ihFrom _ _ _ _ _ made,
      fun number place merged construction next made => ?_,
      fun numbers construction brought next made => ?_⟩
    · unfold flattenFrom at made
      dsimp only at made
      split at made
      · rw [← Except.ok.inj made]
        split
        · rfl
        · rfl
      · split at made
        · obtain ⟨sources, -, made⟩ := Outcome.bind_eq_ok_iff.mp made
          obtain ⟨⟨brought, middle⟩, all, made⟩ := Outcome.bind_eq_ok_iff.mp made
          have after := ihFrom _ _ _ _ _ made
          have before := ihAll _ _ _ _ all
          exact after.trans before
        · have after := ihFrom _ _ _ _ _ made
          exact after
        · exact ihFrom _ _ _ _ _ made
    · cases numbers with
      | nil => rw [(Prod.mk.inj (Except.ok.inj made)).2]
      | cons number rest =>
        obtain ⟨middle, one, made⟩ := Outcome.bind_eq_ok_iff.mp made
        obtain ⟨⟨further, last⟩, all, same⟩ := Outcome.bind_eq_ok_iff.mp made
        rw [← (Prod.mk.inj (Except.ok.inj same)).2]
        exact (ihAll _ _ _ _ all).trans (ihOne _ _ _ one)

/-- The pairs of a mapping have single keys, and making them keeps all keys single. -/
theorem IsKeyed.mappingPairs {number : Nat} {pairs : List (Item × Item)}
    (keyed : construction.IsKeyed) (made : construction.mappingPairs number = .ok (pairs, next)) :
    next.IsKeyed ∧ ∀ pair ∈ pairs, pair.1.isSingle = true := by
  unfold Construction.mappingPairs at made
  split at made
  · obtain ⟨merged, flat, made⟩ := Outcome.bind_eq_ok_iff.mp made
    exact (keyed.of_objects ((objects_of_flatten _).1 _ _ _ flat)).makePairs (by simp) made
  · cases made

/-- An object with single keys in the place of another keeps all keys single. -/
theorem IsKeyed.setObject (keyed : construction.IsKeyed) (number : Nat) (object : Object)
    (own : object.IsKeyed) : (construction.setObject number object).IsKeyed := by
  intro other member
  obtain ⟨place, small, rfl⟩ := Array.mem_iff_getElem.mp member
  simp only [Construction.setObject, Array.getElem_modify]
  split
  · exact own
  · exact keyed _ (Array.getElem_mem _)

/-- Filling a collection keeps keys and members single. -/
theorem IsKeyed.run {task : Task} (keyed : construction.IsKeyed)
    (ran : construction.run task = .ok next) : next.IsKeyed := by
  unfold Construction.run at ran
  dsimp only at ran
  split at ran
  · obtain ⟨⟨pairs, after⟩, made, same⟩ := Outcome.bind_eq_ok_iff.mp ran
    obtain ⟨filled, keys⟩ := keyed.mappingPairs made
    exact Except.ok.inj same ▸ filled.setObject _ (.mapping pairs) keys
  · obtain ⟨⟨pairs, after⟩, made, same⟩ := Outcome.bind_eq_ok_iff.mp ran
    obtain ⟨filled, keys⟩ := keyed.mappingPairs made
    refine Except.ok.inj same ▸ filled.setObject _ (.set _) fun item member => ?_
    obtain ⟨pair, among, rfl⟩ := List.mem_map.mp (MemberOrder.mem_of_mem_listed member)
    exact keys pair among
  · obtain ⟨⟨items, after⟩, made, same⟩ := Outcome.bind_eq_ok_iff.mp ran
    exact Except.ok.inj same ▸ (keyed.makeAll made).setObject _ (.list items) trivial
  · obtain ⟨⟨items, after⟩, made, same⟩ := Outcome.bind_eq_ok_iff.mp ran
    exact Except.ok.inj same ▸ (keyed.makeTuples made).setObject _ (.list items) trivial
  · obtain ⟨⟨items, after⟩, made, same⟩ := Outcome.bind_eq_ok_iff.mp ran
    exact Except.ok.inj same ▸ (keyed.makeTuples made).setObject _ (.list items) trivial
  · cases ran

/-- Filling all that was begun keeps all keys single. -/
theorem IsKeyed.runAll {fuel : Nat} (keyed : construction.IsKeyed)
    (ran : Construction.runAll fuel construction = .ok next) : next.IsKeyed := by
  induction fuel generalizing construction with
  | zero => exact Except.ok.inj ran ▸ keyed
  | succ fuel ih =>
    unfold Construction.runAll at ran
    split at ran
    · exact Except.ok.inj ran ▸ keyed
    · next task rest _ =>
      obtain ⟨middle, first, ran⟩ := Outcome.bind_eq_ok_iff.mp ran
      have began : IsKeyed { construction with waiting := rest } := keyed.of_objects rfl
      exact ih (began.run first) ran

end Construction

/-- No key and no member of a document that is read is a collection. -/
theorem Document.isKeyed_of_ofText {text : String} {document : Document}
    (read : ofText text = .ok document) : document.IsKeyed := by
  obtain ⟨graph?, -, read⟩ := Outcome.bind_eq_ok_iff.mp read
  cases graph? with
  | none =>
    rw [← Except.ok.inj read]
    simp [Document.IsKeyed, empty]
  | some start =>
    obtain ⟨⟨item, first⟩, made, read⟩ := Outcome.bind_eq_ok_iff.mp read
    obtain ⟨last, ran, same⟩ := Outcome.bind_eq_ok_iff.mp read
    have initial : Construction.IsKeyed ⟨start.2, #[], [], []⟩ := by simp [Construction.IsKeyed]
    rw [← Except.ok.inj same]
    exact (initial.make made).runAll ran

end CompletionServer.Yaml
