import Mathlib.Data.List.Forall2

/-!
# Operations that can fail

What follows from the outcome of a sequence of operations, and of one operation on every item of a
list.
-/

namespace CompletionServer.Outcome

variable {ε α β : Type}

/-- A result that gives a value is a success. -/
theorem eq_ok_of_toOption {result : Except ε α} {value : α}
    (given : result.toOption = some value) : result = .ok value := by
  cases result with
  | ok _ => rw [Option.some.inj given]
  | error _ => contradiction

/-- The cause of a failure. -/
def cause? : Except ε α → Option ε
  | .ok _ => none
  | .error cause => some cause

/-- A result that has a cause is a failure. -/
theorem eq_error_of_cause? {result : Except ε α} {cause : ε}
    (given : cause? result = some cause) : result = .error cause := by
  cases result with
  | ok _ => contradiction
  | error _ => rw [Option.some.inj given]

/-- An outcome is fine exactly if it has a value. -/
theorem isOk_iff {result : Except ε α} : result.isOk = true ↔ ∃ value, result = .ok value := by
  cases result <;> simp [Except.isOk, Except.toBool]

/-- After a value the next operation goes on with it. -/
theorem ok_bind (value : α) (next : α → Except ε β) : (Except.ok value >>= next) = next value :=
  rfl

/-- A sequence comes to a value exactly if its first part does and its second part goes on from
there. -/
theorem bind_eq_ok_iff {first : Except ε α} {next : α → Except ε β} {value : β} :
    first >>= next = .ok value ↔ ∃ middle, first = .ok middle ∧ next middle = .ok value := by
  cases first with
  | error cause => simp [bind, Except.bind]
  | ok middle => simp [bind, Except.bind]

/-- A sequence fails exactly if its first part does or its second part goes on to fail. -/
theorem bind_eq_error_iff {first : Except ε α} {next : α → Except ε β} {cause : ε} :
    first >>= next = .error cause ↔
      first = .error cause ∨ ∃ middle, first = .ok middle ∧ next middle = .error cause := by
  cases first with
  | error cause => simp [bind, Except.bind]
  | ok middle => simp [bind, Except.bind]

/-- A changed outcome has a value exactly if the outcome has one that is changed into it. -/
theorem map_eq_ok_iff {outcome : Except ε α} {change : α → β} {value : β} :
    change <$> outcome = .ok value ↔ ∃ result, outcome = .ok result ∧ change result = value := by
  cases outcome with
  | error cause => simp [Functor.map, Except.map]
  | ok result => simp [Functor.map, Except.map]

/-- A changed outcome fails exactly as the outcome does. -/
theorem map_eq_error_iff {outcome : Except ε α} {change : α → β} {cause : ε} :
    change <$> outcome = .error cause ↔ outcome = .error cause := by
  cases outcome with
  | error own => simp [Functor.map, Except.map]
  | ok result => simp [Functor.map, Except.map]

/-- An operation whose value is only changed fails as before. -/
theorem bind_pure_eq_error_iff {outcome : Except ε α} {change : α → β} {cause : ε} :
    (outcome >>= fun value => pure (change value)) = .error cause ↔ outcome = .error cause := by
  cases outcome with
  | error own => simp [bind, Except.bind]
  | ok value => simp [bind, Except.bind, pure, Except.pure]

/-- An operation on every item comes to values exactly if it does on each item. -/
theorem mapM_eq_ok_iff {operation : α → Except ε β} {items : List α} {results : List β} :
    items.mapM operation = .ok results ↔
      List.Forall₂ (fun item result => operation item = .ok result) items results := by
  induction items generalizing results with
  | nil =>
    rw [List.mapM_nil, List.forall₂_nil_left_iff]
    exact ⟨fun same => (Except.ok.inj same).symm, fun same => congrArg Except.ok same.symm⟩
  | cons item rest ih =>
    rw [List.mapM_cons, bind_eq_ok_iff, List.forall₂_cons_left_iff]
    constructor
    · rintro ⟨result, here, goes⟩
      obtain ⟨further, later, same⟩ := bind_eq_ok_iff.mp goes
      exact ⟨result, further, here, ih.mp later, (Except.ok.inj same).symm⟩
    · rintro ⟨result, further, here, later, rfl⟩
      exact ⟨result, here, bind_eq_ok_iff.mpr ⟨further, ih.mpr later, rfl⟩⟩

/-- Each value comes from an item. -/
theorem exists_of_mem_mapM {operation : α → Except ε β} {items : List α} {results : List β}
    (each : items.mapM operation = .ok results) {result : β} (member : result ∈ results) :
    ∃ item ∈ items, operation item = .ok result := by
  rw [mapM_eq_ok_iff] at each
  induction each with
  | nil => contradiction
  | @cons item own _ _ here _ ih =>
    rcases List.mem_cons.mp member with rfl | later
    · exact ⟨item, List.mem_cons_self, here⟩
    · obtain ⟨other, among, made⟩ := ih later
      exact ⟨other, List.mem_cons_of_mem _ among, made⟩

/-- Each item gives one of the values. -/
theorem exists_mem_of_mapM {operation : α → Except ε β} {items : List α} {results : List β}
    (each : items.mapM operation = .ok results) {item : α} (member : item ∈ items) :
    ∃ result ∈ results, operation item = .ok result := by
  rw [mapM_eq_ok_iff] at each
  induction each with
  | nil => contradiction
  | @cons _ own _ _ here _ ih =>
    rcases List.mem_cons.mp member with rfl | later
    · exact ⟨own, List.mem_cons_self, here⟩
    · obtain ⟨result, among, made⟩ := ih later
      exact ⟨result, List.mem_cons_of_mem _ among, made⟩

/-- An operation that gives a value on every item gives these values in order. -/
theorem mapM_eq_map {operation : α → Except ε β} {value : α → β} {items : List α}
    (each : ∀ item ∈ items, operation item = .ok (value item)) :
    items.mapM operation = .ok (items.map value) :=
  mapM_eq_ok_iff.mpr (List.forall₂_map_right_iff.mpr (List.forall₂_same.mpr each))

/-- An operation succeeds on all items exactly if it does on each. -/
theorem exists_mapM_eq_ok_iff {operation : α → Except ε β} {items : List α} :
    (∃ results, items.mapM operation = .ok results) ↔
      ∀ item ∈ items, ∃ result, operation item = .ok result := by
  simp only [mapM_eq_ok_iff]
  induction items with
  | nil => simp
  | cons item rest ih =>
    rw [List.forall_mem_cons, ← ih]
    simp only [List.forall₂_cons_left_iff]
    constructor
    · rintro ⟨_, result, further, here, later, rfl⟩
      exact ⟨⟨result, here⟩, further, later⟩
    · rintro ⟨⟨result, here⟩, further, later⟩
      exact ⟨_, result, further, here, later, rfl⟩

/-- Operations that come to the same on items at the same place do so on lists. -/
theorem mapM_eq_of_forall₂ {γ : Type} {operation : α → Except ε γ} {counterpart : β → Except ε γ}
    {items : List α} {others : List β}
    (each : List.Forall₂ (fun item other => operation item = counterpart other) items others) :
    items.mapM operation = others.mapM counterpart := by
  induction each with
  | nil => rfl
  | cons here _ ih => rw [List.mapM_cons, List.mapM_cons, here, ih]

/-! ## The first failure -/

/-- A cause for which the first item that fails does. -/
inductive FirstFailure (fails : α → ε → Prop) (cause : ε) : List α → Prop
  | here {item : α} {rest : List α} (own : fails item cause) :
      FirstFailure fails cause (item :: rest)
  | later {item : α} {rest : List α} (passes : ∀ other, ¬fails item other)
      (further : FirstFailure fails cause rest) : FirstFailure fails cause (item :: rest)

/-- The first failure is the failure of an item. -/
theorem FirstFailure.exists {fails : α → ε → Prop} {cause : ε} {items : List α}
    (first : FirstFailure fails cause items) : ∃ item ∈ items, fails item cause := by
  induction first with
  | @here item _ own => exact ⟨item, List.mem_cons_self, own⟩
  | later _ _ ih =>
    obtain ⟨item, member, own⟩ := ih
    exact ⟨item, List.mem_cons_of_mem _ member, own⟩

/-- What has no further parts does not fail. -/
theorem FirstFailure.ok_iff {γ : Type} {fails : γ → ε → Prop} {value : α} {cause : ε} :
    (Except.ok value : Except ε α) = .error cause ↔ FirstFailure fails cause [] := by
  constructor
  · intro fails
    cases fails
  · intro fails
    cases fails

/-- A sequence fails as the first of its parts that do, if the rest of it does once its first part
has passed. -/
theorem FirstFailure.bind_iff {γ : Type} {fails : γ → ε → Prop} {part : γ} {rest : List γ}
    {first : Except ε α} {next : α → Except ε β} {cause : ε}
    (own : ∀ other, first = .error other ↔ fails part other)
    (further : ∀ value, first = .ok value →
      (next value = .error cause ↔ FirstFailure fails cause rest)) :
    first >>= next = .error cause ↔ FirstFailure fails cause (part :: rest) := by
  rw [bind_eq_error_iff]
  constructor
  · rintro (fails | ⟨value, passes, goes⟩)
    · exact .here ((own cause).mp fails)
    · refine .later (fun other fails => ?_) ((further value passes).mp goes)
      rw [(own other).mpr fails] at passes
      cases passes
  · rintro (fails | ⟨passes, later⟩)
    · exact .inl ((own cause).mpr fails)
    · cases made : first with
      | error other => exact absurd ((own other).mp made) (passes other)
      | ok value => exact .inr ⟨value, rfl, (further value made).mpr later⟩

/-- An operation on every item fails as it does on the first item where it does. -/
theorem mapM_eq_error_iff {operation : α → Except ε β} {items : List α} {cause : ε} :
    items.mapM operation = .error cause ↔
      FirstFailure (fun item other => operation item = .error other) cause items := by
  induction items with
  | nil => exact FirstFailure.ok_iff
  | cons item rest ih =>
    rw [List.mapM_cons]
    refine FirstFailure.bind_iff (fun _ => Iff.rfl) fun value _ => ?_
    rw [← ih]
    exact bind_pure_eq_error_iff

/-- An operation on a list fails as it does on one of the items. -/
theorem exists_of_mapM_eq_error {operation : α → Except ε β} {items : List α} {cause : ε}
    (fails : items.mapM operation = .error cause) :
    ∃ item ∈ items, operation item = .error cause :=
  (mapM_eq_error_iff.mp fails).exists

/-! ## Two runs -/

/-- Outcomes of two runs that come to values in a relation, or both fail for a flaw. -/
inductive Paired (flaw : Prop) (relation : α → β → Prop) : Except ε α → Except ε β → Prop
  | failed {cause other : ε} (flawed : flaw) : Paired flaw relation (.error cause) (.error other)
  | done {value : α} {other : β} (related : relation value other) :
      Paired flaw relation (.ok value) (.ok other)

/-- Every item of either list has one in the other that is related to it. -/
structure Mirrors (relation : α → β → Prop) (items : List α) (others : List β) : Prop where
  there : ∀ item ∈ items, ∃ other ∈ others, relation item other
  back : ∀ other ∈ others, ∃ item ∈ items, relation item other

variable {γ δ : Type} {flaw : Prop}

/-- Runs that go on in the same way from related values stay paired. -/
theorem Paired.bind {relation : α → β → Prop} {final : γ → δ → Prop} {first : Except ε α}
    {second : Except ε β} {next : α → Except ε γ} {goes : β → Except ε δ}
    (paired : Paired flaw relation first second)
    (each : ∀ value other, relation value other → Paired flaw final (next value) (goes other)) :
    Paired flaw final (first >>= next) (second >>= goes) := by
  cases paired with
  | failed flawed => exact .failed flawed
  | done related => exact each _ _ related

/-- If the first of two paired outcomes has a value, the second has a related one. -/
theorem Paired.exists_right {relation : α → β → Prop} {value : α} {second : Except ε β}
    (paired : Paired flaw relation (.ok value) second) :
    ∃ other, second = .ok other ∧ relation value other := by
  cases paired with
  | done related => exact ⟨_, rfl, related⟩

/-- If the second of two paired outcomes has a value, the first has a related one. -/
theorem Paired.exists_left {relation : α → β → Prop} {first : Except ε α} {other : β}
    (paired : Paired flaw relation first (.ok other)) :
    ∃ value, first = .ok value ∧ relation value other := by
  cases paired with
  | done related => exact ⟨_, rfl, related⟩

/-- If the first of two paired outcomes fails, there is a flaw and the second fails as well. -/
theorem Paired.flaw_of_error {relation : α → β → Prop} {cause : ε} {second : Except ε β}
    (paired : Paired flaw relation (.error cause) second) :
    flaw ∧ ∃ other, second = .error other := by
  cases paired with
  | failed flawed => exact ⟨flawed, _, rfl⟩

/-- An operation that is paired on related items is so on lists that mirror each other, in whatever
order they are. -/
theorem Mirrors.mapM {relation : α → β → Prop} {final : γ → δ → Prop} {items : List α}
    {others : List β} {operation : α → Except ε γ} {counterpart : β → Except ε δ}
    (mirrors : Mirrors relation items others)
    (each : ∀ item other, relation item other →
      Paired flaw final (operation item) (counterpart other)) :
    Paired flaw (Mirrors final) (items.mapM operation) (others.mapM counterpart) := by
  have right {item : α} {result : γ} (member : item ∈ items) (made : operation item = .ok result) :
      ∃ other ∈ others, ∃ found, counterpart other = .ok found ∧ final result found := by
    obtain ⟨other, among, related⟩ := mirrors.there item member
    exact ⟨other, among, (made ▸ each item other related).exists_right⟩
  have left {other : β} {found : δ} (member : other ∈ others)
      (made : counterpart other = .ok found) :
      ∃ item ∈ items, ∃ result, operation item = .ok result ∧ final result found := by
    obtain ⟨item, among, related⟩ := mirrors.back other member
    exact ⟨item, among, (made ▸ each item other related).exists_left⟩
  cases ran : items.mapM operation with
  | error cause =>
    obtain ⟨item, member, fails⟩ := exists_of_mapM_eq_error ran
    obtain ⟨other, among, related⟩ := mirrors.there item member
    obtain ⟨flawed, otherReason, otherFails⟩ := (fails ▸ each item other related).flaw_of_error
    cases ranOther : others.mapM counterpart with
    | error _ => exact .failed flawed
    | ok founds =>
      obtain ⟨found, -, made⟩ := exists_mem_of_mapM ranOther among
      rw [otherFails] at made
      cases made
  | ok results =>
    have passes : ∀ other ∈ others, ∃ found, counterpart other = .ok found := by
      intro other member
      obtain ⟨item, among, related⟩ := mirrors.back other member
      obtain ⟨result, -, made⟩ := exists_mem_of_mapM ran among
      obtain ⟨found, done, -⟩ := (made ▸ each item other related).exists_right
      exact ⟨found, done⟩
    obtain ⟨founds, ranOther⟩ := exists_mapM_eq_ok_iff.mpr passes
    rw [ranOther]
    refine .done ⟨fun result member => ?_, fun found member => ?_⟩
    · obtain ⟨item, among, made⟩ := exists_of_mem_mapM ran member
      obtain ⟨other, there, found, done, related⟩ := right among made
      obtain ⟨same, listed, again⟩ := exists_mem_of_mapM ranOther there
      obtain rfl := Except.ok.inj (done.symm.trans again)
      exact ⟨found, listed, related⟩
    · obtain ⟨other, among, made⟩ := exists_of_mem_mapM ranOther member
      obtain ⟨item, there, result, done, related⟩ := left among made
      obtain ⟨same, listed, again⟩ := exists_mem_of_mapM ran there
      obtain rfl := Except.ok.inj (done.symm.trans again)
      exact ⟨result, listed, related⟩

/-- No items mirror no items. -/
theorem Mirrors.nil {relation : α → β → Prop} : Mirrors relation [] [] :=
  ⟨fun _ member => absurd member List.not_mem_nil, fun _ member => absurd member List.not_mem_nil⟩

/-- Items that mirror others do so for a wider relation. -/
theorem Mirrors.imp {relation wider : α → β → Prop} {items : List α} {others : List β}
    (mirrors : Mirrors relation items others)
    (weaken : ∀ item other, relation item other → wider item other) :
    Mirrors wider items others := by
  constructor
  · intro item member
    obtain ⟨other, among, related⟩ := mirrors.there item member
    exact ⟨other, among, weaken item other related⟩
  · intro other member
    obtain ⟨item, among, related⟩ := mirrors.back other member
    exact ⟨item, among, weaken item other related⟩

/-- A related pair in front keeps two lists mirrored. -/
theorem Mirrors.cons {relation : α → β → Prop} {item : α} {other : β} {items : List α}
    {others : List β} (head : relation item other) (mirrors : Mirrors relation items others) :
    Mirrors relation (item :: items) (other :: others) := by
  constructor
  · refine List.forall_mem_cons.mpr ⟨⟨other, List.mem_cons_self, head⟩, fun found member => ?_⟩
    obtain ⟨again, among, related⟩ := mirrors.there found member
    exact ⟨again, List.mem_cons_of_mem _ among, related⟩
  · refine List.forall_mem_cons.mpr ⟨⟨item, List.mem_cons_self, head⟩, fun found member => ?_⟩
    obtain ⟨again, among, related⟩ := mirrors.back found member
    exact ⟨again, List.mem_cons_of_mem _ among, related⟩

/-- Lists of lists that mirror each other are so when they are put together. -/
theorem Mirrors.flatten {relation : α → β → Prop} {groups : List (List α)}
    {others : List (List β)} (mirrors : Mirrors (Mirrors relation) groups others) :
    Mirrors relation groups.flatten others.flatten := by
  constructor
  · intro item member
    obtain ⟨group, among, own⟩ := List.mem_flatten.mp member
    obtain ⟨other, there, mirrored⟩ := mirrors.there group among
    obtain ⟨found, listed, related⟩ := mirrored.there item own
    exact ⟨found, List.mem_flatten.mpr ⟨other, there, listed⟩, related⟩
  · intro found member
    obtain ⟨other, among, own⟩ := List.mem_flatten.mp member
    obtain ⟨group, there, mirrored⟩ := mirrors.back other among
    obtain ⟨item, listed, related⟩ := mirrored.back found own
    exact ⟨item, List.mem_flatten.mpr ⟨group, there, listed⟩, related⟩

/-- Two lists stay mirrored if related items are changed into related ones. -/
theorem Mirrors.map {relation : α → β → Prop} {final : γ → δ → Prop} {items : List α}
    {others : List β} {change : α → γ} {counterpart : β → δ}
    (mirrors : Mirrors relation items others)
    (each : ∀ item other, relation item other → final (change item) (counterpart other)) :
    Mirrors final (items.map change) (others.map counterpart) := by
  constructor
  · intro result member
    obtain ⟨item, among, rfl⟩ := List.mem_map.mp member
    obtain ⟨other, there, related⟩ := mirrors.there item among
    exact ⟨counterpart other, List.mem_map_of_mem there, each item other related⟩
  · intro result member
    obtain ⟨other, among, rfl⟩ := List.mem_map.mp member
    obtain ⟨item, there, related⟩ := mirrors.back other among
    exact ⟨change item, List.mem_map_of_mem there, each item other related⟩

/-- Two lists stay mirrored if related items pass the same test. -/
theorem Mirrors.filter {relation : α → β → Prop} {items : List α} {others : List β}
    {passes : α → Bool} {counterpart : β → Bool} (mirrors : Mirrors relation items others)
    (each : ∀ item other, relation item other → passes item = counterpart other) :
    Mirrors relation (items.filter passes) (others.filter counterpart) := by
  constructor
  · intro item member
    obtain ⟨among, kept⟩ := List.mem_filter.mp member
    obtain ⟨other, there, related⟩ := mirrors.there item among
    exact ⟨other, List.mem_filter.mpr ⟨there, each item other related ▸ kept⟩, related⟩
  · intro other member
    obtain ⟨among, kept⟩ := List.mem_filter.mp member
    obtain ⟨item, there, related⟩ := mirrors.back other among
    exact ⟨item, List.mem_filter.mpr ⟨there, (each item other related).symm ▸ kept⟩, related⟩

end CompletionServer.Outcome
