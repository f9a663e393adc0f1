import CompletionServer.Proofs.Filter.Stages

/-!
# Workers cannot be seen in what is kept

A list that workers filter is cut at bounds, and each worker filters parts of it on its own. They
finish the parts in whatever order; what they made of them is collected in the order of the list.
Collecting waits where a part is not finished and stops where one has failed, also if a later part
failed earlier.

The parts tile the list, so what is collected is what one pass over the list would give, and if a
test fails, it is the first item that fails it whose fault is the outcome. Since the settings never
ask for empty parts, `Pipeline.apply` gives the same with workers as without.
-/

namespace CompletionServer.Filter

variable {α : Type} {test : α → Except Fault Bool}

/-! ## One pass -/

/-- A list in two pieces is filtered piece by piece. -/
theorem serial_append (first second : List α) :
    serial test (first ++ second) = do
      let kept ← serial test first
      let others ← serial test second
      return kept ++ others := by
  induction first with
  | nil => cases outcome : serial test second <;> simp [serial, outcome, bind, Except.bind, pure,
      Except.pure]
  | cons item rest ih =>
    rw [List.cons_append, serial, ih, serial]
    cases test item with
    | error fault => rfl
    | ok passes => cases serial test rest <;> cases serial test second <;> cases passes <;> rfl

/-- Parts that are filtered each on its own give what one pass over all of them gives. -/
theorem inParts_eq_serial (parts : List (List α)) :
    inParts test parts = serial test parts.flatten := by
  induction parts with
  | nil => rfl
  | cons part rest ih =>
    rw [List.flatten_cons, serial_append, ← ih]
    simp only [inParts, List.mapM_cons, bind_assoc, pure_bind, List.flatten_cons]

/-- No item fails a test. -/
def NoneFails (test : α → Except Fault Bool) (items : List α) : Prop :=
  ∀ item ∈ items, ∃ passes, test item = .ok passes

/-- The first item that fails a test fails it with a fault. -/
def FirstFails (test : α → Except Fault Bool) (items : List α) (fault : Fault) : Prop :=
  ∃ before item after,
    items = before ++ item :: after ∧ NoneFails test before ∧ test item = .error fault

/-- Either no item fails a test, or there is a first one that does. -/
theorem noneFails_or_firstFails (test : α → Except Fault Bool) (items : List α) :
    NoneFails test items ∨ ∃ fault, FirstFails test items fault := by
  induction items with
  | nil => exact .inl fun _ member => absurd member List.not_mem_nil
  | cons item rest ih =>
    cases tested : test item with
    | error fault =>
      exact .inr ⟨fault, [], item, rest, rfl, fun _ member => absurd member List.not_mem_nil,
        tested⟩
    | ok passes =>
      rcases ih with others | ⟨fault, before, failing, after, rfl, earlier, failed⟩
      · exact .inl (List.forall_mem_cons.mpr ⟨⟨passes, tested⟩, others⟩)
      · exact .inr ⟨fault, item :: before, failing, after, rfl,
          List.forall_mem_cons.mpr ⟨⟨passes, tested⟩, earlier⟩, failed⟩

/-- If no item fails the test, those that pass it are kept. -/
theorem serial_of_noneFails {items : List α} (tested : NoneFails test items) :
    serial test items = .ok (items.filter fun item => (test item).toOption = some true) := by
  induction items with
  | nil => rfl
  | cons item rest ih =>
    obtain ⟨⟨passes, own⟩, others⟩ := List.forall_mem_cons.mp tested
    rw [serial, own, ih others, List.filter_cons, own]
    cases passes <;> rfl

/-- The first item that fails the test gives the fault. -/
theorem serial_of_firstFails {items : List α} {fault : Fault}
    (fails : FirstFails test items fault) : serial test items = .error fault := by
  obtain ⟨before, item, after, rfl, earlier, failed⟩ := fails
  rw [serial_append, serial_of_noneFails earlier, serial, failed]
  rfl

/-- Items are kept if none fails the test, and then they are those that pass it. -/
theorem serial_eq_ok_iff {items kept : List α} :
    serial test items = .ok kept ↔
      NoneFails test items ∧
        kept = items.filter fun item => (test item).toOption = some true := by
  constructor
  · intro keeps
    rcases noneFails_or_firstFails test items with tested | ⟨fault, fails⟩
    · rw [serial_of_noneFails tested] at keeps
      exact ⟨tested, (Except.ok.inj keeps).symm⟩
    · rw [serial_of_firstFails fails] at keeps
      contradiction
  · rintro ⟨tested, rfl⟩
    exact serial_of_noneFails tested

/-- A fault is the outcome if the first item that fails the test fails it so. -/
theorem serial_eq_error_iff {items : List α} {fault : Fault} :
    serial test items = .error fault ↔ FirstFails test items fault := by
  refine ⟨?_, serial_of_firstFails⟩
  intro outcome
  rcases noneFails_or_firstFails test items with tested | ⟨other, fails⟩
  · rw [serial_of_noneFails tested] at outcome
    contradiction
  · rw [serial_of_firstFails fails] at outcome
    exact Except.error.inj outcome ▸ fails

/-! ## Parts -/

/-- Where a part of a list begins, and where it ends. -/
structure Bounds where
  start : Nat
  stop : Nat
  deriving DecidableEq, Repr

/-- The bounds of the parts, by the length of a part and that of the list. -/
def boundsOf (length total : Nat) : List Bounds :=
  (List.range ((total + length - 1) / length)).map fun place =>
    ⟨place * length, min (place * length + length) total⟩

/-- The items of a part. -/
def Bounds.itemsOf (bounds : Bounds) (items : List α) : List α :=
  (items.take bounds.stop).drop bounds.start

/-- The parts of a list put together are the list. -/
theorem flatten_cutInto {length : Nat} (positive : 0 < length) (count : Nat) (items : List α)
    (enough : items.length ≤ count) : (cutInto length count items).flatten = items := by
  induction count generalizing items with
  | zero =>
    rw [List.length_eq_zero_iff.mp (Nat.le_zero.mp enough)]
    rfl
  | succ count ih =>
    cases items with
    | nil => rfl
    | cons item rest =>
      have fewer : ((item :: rest).drop length).length ≤ count := by
        rw [List.length_drop]
        omega
      rw [cutInto, List.flatten_cons, ih _ fewer, List.take_append_drop]

/-- The part with a number, if the list reaches that far. -/
theorem getElem?_cutInto (length count place : Nat) (items : List α) :
    (cutInto length count items)[place]? =
      if place < count ∧ place * length < items.length then
        some ((items.drop (place * length)).take length)
      else none := by
  induction place generalizing count items with
  | zero => cases count <;> cases items <;> simp [cutInto]
  | succ place ih =>
    cases count with
    | zero => simp [cutInto]
    | succ count =>
      cases items with
      | nil => simp [cutInto]
      | cons item rest =>
        have reaches : place * length < (item :: rest).length - length ↔
            (place + 1) * length < (item :: rest).length := by
          rw [Nat.succ_mul]
          omega
        rw [cutInto, List.getElem?_cons_succ, ih, List.length_drop, List.drop_drop,
          Nat.add_comm length, ← Nat.succ_mul]
        simp only [reaches, Nat.succ_lt_succ_iff]

/-- The list reaches as far as there are bounds. -/
theorem getElem?_boundsOf {length : Nat} (positive : 0 < length) (total place : Nat) :
    (boundsOf length total)[place]? =
      if place * length < total then
        some ⟨place * length, min (place * length + length) total⟩
      else none := by
  have reaches : place < (total + length - 1) / length ↔ place * length < total := by
    rw [Nat.lt_iff_add_one_le, Nat.le_div_iff_mul_le positive, Nat.succ_mul]
    omega
  rw [boundsOf, List.getElem?_map]
  split
  · next far => rw [List.getElem?_range (reaches.mpr far), Option.map_some]
  · next short =>
    rw [List.getElem?_eq_none (by simpa using mt reaches.mp short), Option.map_none]

/-- The items between two bounds are those of a part. -/
theorem itemsOf_eq (start length : Nat) (items : List α) :
    Bounds.itemsOf ⟨start, min (start + length) items.length⟩ items =
      (items.drop start).take length := by
  have slice : (items.take (min (start + length) items.length)).drop start =
      (items.drop start).take length := by
    rw [List.drop_take, List.take_eq_take_iff, List.length_drop]
    omega
  exact slice

/-- A list is cut at the bounds of its parts. -/
theorem cutInto_eq_map_boundsOf {length : Nat} (positive : 0 < length) (items : List α) :
    cutInto length items.length items =
      (boundsOf length items.length).map (Bounds.itemsOf · items) := by
  apply List.ext_getElem?
  intro place
  rw [getElem?_cutInto, List.getElem?_map, getElem?_boundsOf positive]
  by_cases reaches : place * length < items.length
  · have there : place < items.length :=
      Nat.lt_of_le_of_lt (Nat.le_mul_of_pos_right place positive) reaches
    rw [if_pos ⟨there, reaches⟩, if_pos reaches, Option.map_some, itemsOf_eq]
  · rw [if_neg (fun both => reaches both.2), if_neg reaches, Option.map_none]

/-! ## Workers -/

/-- A part that workers were given. -/
inductive Slot (α : Type)
  /-- No worker has finished it. -/
  | pending (part : List α)
  /-- A worker has, and this came out. -/
  | finished (outcome : Except Fault (List α))

/-- A worker finishes a part. -/
def Slot.finish (test : α → Except Fault Bool) : Slot α → Slot α
  | .pending part => .finished (serial test part)
  | .finished outcome => .finished outcome

/-- A list as it is given to workers. -/
def handedOut (length : Nat) (items : List α) : List (Slot α) :=
  (boundsOf length items.length).map fun bounds => .pending (bounds.itemsOf items)

/-- Parts after workers have finished some of them, one after the other. -/
def worked (test : α → Except Fault Bool) (slots : List (Slot α)) (finishing : List Nat) :
    List (Slot α) :=
  finishing.foldl (fun slots place => slots.modify place (Slot.finish test)) slots

/-- What is collected of the parts, in their order; nothing yet if a part is to be waited for. -/
def collected : List (Slot α) → Option (Except Fault (List α))
  | [] => some (.ok [])
  | .pending _ :: _ => none
  | .finished (.error fault) :: _ => some (.error fault)
  | .finished (.ok kept) :: rest => (collected rest).map (Except.map (kept ++ ·))

/-- Parts of which some are finished. -/
def progress (test : α → Except Fault Bool) (isDone : Nat → Bool) (parts : List (List α)) :
    List (Slot α) :=
  parts.mapIdx fun place part =>
    if isDone place then .finished (serial test part) else .pending part

/-- The progress of some parts is that of the first and then that of the others. -/
theorem progress_cons (isDone : Nat → Bool) (part : List α) (rest : List (List α)) :
    progress test isDone (part :: rest) =
      (if isDone 0 then .finished (serial test part) else .pending part) ::
        progress test (fun place => isDone (place + 1)) rest :=
  List.mapIdx_cons

/-- Finishing a part changes this part only, and if it was finished, nothing. -/
theorem modify_progress (isDone : Nat → Bool) (parts : List (List α)) (place : Nat) :
    (progress test isDone parts).modify place (Slot.finish test) =
      progress test (fun other => isDone other || other == place) parts := by
  apply List.ext_getElem?
  intro other
  rw [List.getElem?_modify, progress, progress, List.getElem?_mapIdx, List.getElem?_mapIdx]
  cases parts[other]? with
  | none => rfl
  | some part =>
    by_cases same : other = place
    · cases done : isDone place <;> simp [same, done, Slot.finish]
    · simp [same, Ne.symm same]

/-- After a run of the workers the parts that they have named are finished. -/
theorem worked_progress (isDone : Nat → Bool) (parts : List (List α)) (finishing : List Nat) :
    worked test (progress test isDone parts) finishing =
      progress test (fun place => isDone place || finishing.contains place) parts := by
  induction finishing generalizing isDone with
  | nil => simp [worked]
  | cons place rest ih =>
    rw [worked, List.foldl_cons, modify_progress]
    refine (ih _).trans ?_
    simp only [List.contains_cons, Bool.or_assoc]

/-- What is collected, whenever it is, is what one pass over the parts gives. -/
theorem eq_serial_of_collected (isDone : Nat → Bool) (parts : List (List α))
    {outcome : Except Fault (List α)}
    (collects : collected (progress test isDone parts) = some outcome) :
    outcome = serial test parts.flatten := by
  induction parts generalizing isDone outcome with
  | nil => exact (Option.some.inj collects).symm
  | cons part rest ih =>
    rw [progress_cons] at collects
    rw [List.flatten_cons, serial_append]
    split at collects
    · cases filtered : serial test part with
      | error fault =>
        rw [filtered] at collects
        exact (Option.some.inj collects).symm
      | ok kept =>
        rw [filtered, collected] at collects
        obtain ⟨others, later, rfl⟩ := Option.map_eq_some_iff.mp collects
        rw [ih _ later]
        cases serial test rest.flatten <;> rfl
    · contradiction

/-- Once all parts are finished, something is collected. -/
theorem exists_collected (test : α → Except Fault Bool) (isDone : Nat → Bool)
    (parts : List (List α))
    (all : ∀ place < parts.length, isDone place = true) :
    ∃ outcome, collected (progress test isDone parts) = some outcome := by
  induction parts generalizing isDone with
  | nil => exact ⟨_, rfl⟩
  | cons part rest ih =>
    obtain ⟨others, collects⟩ := ih (fun place => isDone (place + 1)) fun place there =>
      all (place + 1) (Nat.succ_lt_succ there)
    rw [progress_cons, if_pos (all 0 (Nat.succ_pos _))]
    cases serial test part with
    | error fault => exact ⟨_, rfl⟩
    | ok kept =>
      rw [collected, collects]
      exact ⟨_, rfl⟩

/-- A list is given to workers in the parts that it is cut into, none of them finished. -/
theorem handedOut_eq_progress {length : Nat} (positive : 0 < length) (items : List α) :
    handedOut length items =
      progress test (fun _ => false) (cutInto length items.length items) := by
  apply List.ext_getElem?
  intro place
  simp [handedOut, progress, cutInto_eq_map_boundsOf positive, Function.comp_def]

/-- What is collected from workers, in whatever order they finish the parts, is what one pass over
the list gives. -/
theorem collected_worked {length : Nat} (positive : 0 < length) {items : List α}
    {finishing : List Nat} {outcome : Except Fault (List α)}
    (collects : collected (worked test (handedOut length items) finishing) = some outcome) :
    outcome = serial test items := by
  rw [handedOut_eq_progress positive, worked_progress] at collects
  rw [eq_serial_of_collected _ _ collects, flatten_cutInto positive _ _ (Nat.le_refl _)]

/-- Once workers have finished all parts, what one pass gives is collected. -/
theorem collected_worked_of_all {length : Nat} (positive : 0 < length) (items : List α)
    {finishing : List Nat}
    (all : ∀ place < (boundsOf length items.length).length, place ∈ finishing) :
    collected (worked test (handedOut length items) finishing) = some (serial test items) := by
  have done : ∀ place < (cutInto length items.length items).length,
      (false || finishing.contains place) = true := by
    intro place there
    rw [cutInto_eq_map_boundsOf positive, List.length_map] at there
    simpa using all place there
  obtain ⟨outcome, collects⟩ := exists_collected test _ _ done
  rw [← worked_progress, ← handedOut_eq_progress positive] at collects
  rw [collects, collected_worked positive collects]

/-! ## The filters with workers -/

/-- Workers that are there filter as one pass does, if parts are not empty. -/
theorem ordered_working {length : Int} (positive : 1 ≤ length) (test : α → Except Fault Bool)
    (items : List α) : ordered .working length test items = serial test items := by
  unfold ordered
  split
  · rfl
  · have some : 0 < length.toNat := by omega
    rw [if_neg (by omega), if_neg (by omega), if_neg (by decide), inParts_eq_serial,
      flatten_cutInto some _ _ (Nat.le_refl _)]

/-- Without workers there is one pass. -/
theorem ordered_absent (length : Int) (test : α → Except Fault Bool) (items : List α) :
    ordered .absent length test items = serial test items :=
  rfl

/-- A pipeline whose parts are not empty gives the same with workers as without. -/
theorem Pipeline.apply_working {options : Options} (positive : 1 ≤ options.partLength)
    (matcher : Option (String → String → Float)) (candidates : List Candidate) (request : Request)
    (projectModule : String) :
    apply ⟨options, matcher, .working⟩ candidates request projectModule =
      apply ⟨options, matcher, .absent⟩ candidates request projectModule := by
  simp only [apply, byPrefix, byWeight, ordered_working positive, ordered_absent]

/-- Filtering with workers is filtering without them. For every test, which an item may pass, not
pass or fail with a fault, every list of items, and parts of any length but zero:

- in whatever order workers finish the parts, and however many of them they have finished, what is
  collected, if anything is, is what one pass gives; and once all are finished, it is collected;
- `ordered` gives the same with workers as without: if no item fails the test, the items that pass
  it in their order, and else the fault of the first item that fails it.

So for all settings, which never ask for empty parts, and every matcher or none, the pipeline gives
the same with workers as without. -/
theorem filters_alike_with_workers :
    (∀ (α : Type) (test : α → Except Fault Bool) (items : List α) (length : Int), 1 ≤ length →
      (∀ finishing outcome,
        collected (worked test (handedOut length.toNat items) finishing) = some outcome →
          outcome = ordered .absent length test items) ∧
      (∀ finishing, (∀ place < (boundsOf length.toNat items.length).length, place ∈ finishing) →
        collected (worked test (handedOut length.toNat items) finishing) =
          some (ordered .absent length test items)) ∧
      ordered .working length test items = ordered .absent length test items ∧
      (∀ kept, ordered .working length test items = .ok kept ↔
        NoneFails test items ∧
          kept = items.filter fun item => (test item).toOption = some true) ∧
      ∀ fault, ordered .working length test items = .error fault ↔ FirstFails test items fault) ∧
    ∀ (settings : Settings) (matcher : Option (String → String → Float))
      (candidates : List Candidate) (request : Request) (projectModule : String),
      Pipeline.apply ⟨.ofSettings settings, matcher, .working⟩ candidates request projectModule =
        Pipeline.apply ⟨.ofSettings settings, matcher, .absent⟩ candidates request
          projectModule := by
  refine ⟨?_, ?_⟩
  · intro α test items length positive
    have some : 0 < length.toNat := by omega
    rw [ordered_working positive, ordered_absent]
    exact ⟨fun _ _ => collected_worked some, fun _ => collected_worked_of_all some items, rfl,
      fun _ => serial_eq_ok_iff, fun _ => serial_eq_error_iff⟩
  · intro settings
    have positive : 1 ≤ (Options.ofSettings settings).partLength := Int.le_max_left _ _
    exact Pipeline.apply_working positive

/-- A test that odd numbers pass, and that four and five fail. -/
def oddBelowFour : Nat → Except Fault Bool
  | 4 => .error .emptyNumber
  | 5 => .error .notMoment
  | number => .ok (number % 2 == 1)

/-- The last part fails first, but the fault of the part before it is the outcome. -/
theorem filters_alike_with_workers_backwards :
    (1 : Int) ≤ 2 ∧ (∀ place < (boundsOf 2 5).length, place ∈ [2, 1, 0]) ∧
      collected (worked oddBelowFour (handedOut 2 [1, 2, 3, 4, 5]) [2]) = none ∧
      collected (worked oddBelowFour (handedOut 2 [1, 2, 3, 4, 5]) [2, 1, 0]) =
        some (.error .emptyNumber) := by
  have all : ∀ place < (boundsOf 2 5).length, place ∈ [2, 1, 0] := by decide
  have positive : (1 : Int) ≤ 2 := by decide
  obtain ⟨_, complete, _⟩ :=
    filters_alike_with_workers.1 Nat oddBelowFour [1, 2, 3, 4, 5] 2 positive
  exact ⟨positive, all, rfl, complete [2, 1, 0] all⟩

end CompletionServer.Filter
