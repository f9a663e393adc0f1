/-!
# Tables

A table holds a value for each of some keys, in the order in which the keys came. A key is there at
most once when every change goes through `set`.
-/

namespace CompletionServer

/-- Keys and their values. -/
abbrev Table (κ ν : Type) := List (κ × ν)

namespace Table

variable {κ ν : Type} [DecidableEq κ]

/-- The value of a key. -/
def get? (table : Table κ ν) (key : κ) : Option ν :=
  (table.find? fun entry => entry.1 = key).map (·.2)

/-- Whether a key has a value. -/
def has (table : Table κ ν) (key : κ) : Bool :=
  table.any fun entry => entry.1 = key

/-- The table without a key. -/
def remove (table : Table κ ν) (key : κ) : Table κ ν :=
  table.filter fun entry => entry.1 ≠ key

/-- A key given a value; a key that is there keeps its position. -/
def set (table : Table κ ν) (key : κ) (value : ν) : Table κ ν :=
  if table.has key then table.map fun entry => if entry.1 = key then (key, value) else entry
  else table ++ [(key, value)]

/-- An empty table holds nothing. -/
@[simp] theorem get?_nil (key : κ) : get? ([] : Table κ ν) key = none := rfl

/-- A table holds the value of its first entry, if that has the key, and else what the others hold.
-/
theorem get?_cons (entry : κ × ν) (table : Table κ ν) (key : κ) :
    get? (entry :: table) key = if entry.1 = key then some entry.2 else get? table key := by
  by_cases same : entry.1 = key <;> simp [get?, same]

/-- A table in two parts holds what the first does, or else what the second does. -/
theorem get?_append (front back : Table κ ν) (key : κ) :
    get? (front ++ back) key = (get? front key).or (get? back key) := by
  simp [get?, List.find?_append, Option.map_or]

/-- A key has a value exactly if one is found for it. -/
theorem has_eq_isSome (table : Table κ ν) (key : κ) : table.has key = (table.get? key).isSome := by
  induction table with
  | nil => rfl
  | cons entry rest ih =>
    rw [get?_cons]
    by_cases same : entry.1 = key
    · simp [has, same]
    · simpa [has, same] using ih

/-- A removed key has no value. -/
@[simp] theorem get?_remove_self (table : Table κ ν) (key : κ) :
    (table.remove key).get? key = none := by
  simp [get?, remove, List.find?_eq_none]

/-- Removing a key keeps the values of the others. -/
theorem get?_remove_of_ne (table : Table κ ν) {key other : κ} (differs : other ≠ key) :
    (table.remove key).get? other = table.get? other := by
  induction table with
  | nil => rfl
  | cons entry rest ih =>
    by_cases same : entry.1 = key
    · simp only [remove, List.filter_cons, same, ne_eq, not_true_eq_false, decide_false,
        Bool.false_eq_true, if_false, get?_cons, if_neg (Ne.symm differs)]
      exact ih
    · simp only [remove, List.filter_cons, same, ne_eq, not_false_eq_true, decide_true, if_true,
        get?_cons]
      by_cases here : entry.1 = other
      · simp [here]
      · simp only [here, if_false]
        exact ih

/-- Giving the entries of a key another value changes what the table holds for this key only. -/
theorem get?_map_set (table : Table κ ν) (key other : κ) (value : ν) :
    get? (table.map fun entry => if entry.1 = key then (key, value) else entry) other =
      if key = other then (table.get? key).map fun _ => value else table.get? other := by
  induction table with
  | nil => by_cases same : key = other <;> simp [get?, same]
  | cons entry rest ih =>
    rw [List.map_cons, get?_cons, ih, get?_cons, get?_cons]
    by_cases same : key = other
    · subst same
      by_cases here : entry.1 = key <;> simp [here]
    · by_cases here : entry.1 = key
      · simp [here, same]
      · simp [here, same]

/-- A key that is given a value has it. -/
@[simp] theorem get?_set_self (table : Table κ ν) (key : κ) (value : ν) :
    (table.set key value).get? key = some value := by
  unfold set
  split
  · next present =>
    rw [has_eq_isSome, Option.isSome_iff_exists] at present
    obtain ⟨old, found⟩ := present
    rw [get?_map_set, if_pos rfl, found, Option.map_some]
  · next absent =>
    have none : table.get? key = none := by
      simpa [has_eq_isSome] using absent
    rw [get?_append, none, get?_cons, if_pos rfl, Option.none_or]

/-- Giving a key a value keeps the values of the others. -/
theorem get?_set_of_ne (table : Table κ ν) {key other : κ} (value : ν) (differs : other ≠ key) :
    (table.set key value).get? other = table.get? other := by
  unfold set
  split
  · rw [get?_map_set, if_neg (Ne.symm differs)]
  · rw [get?_append, get?_cons, if_neg (Ne.symm differs), get?_nil, Option.or_none]

/-- What is found after a key was given a value. -/
theorem get?_set (table : Table κ ν) (key other : κ) (value : ν) :
    (table.set key value).get? other = if other = key then some value else table.get? other := by
  by_cases same : other = key
  · rw [if_pos same, same, get?_set_self]
  · rw [if_neg same, get?_set_of_ne table value same]

/-- What is found after a key was removed. -/
theorem get?_remove (table : Table κ ν) (key other : κ) :
    (table.remove key).get? other = if other = key then none else table.get? other := by
  by_cases same : other = key
  · rw [if_pos same, same, get?_remove_self]
  · rw [if_neg same, get?_remove_of_ne table same]

/-- A table in which nothing is found is empty. -/
theorem eq_nil_of_get?_eq_none {table : Table κ ν} (absent : ∀ key, table.get? key = none) :
    table = [] := by
  cases table with
  | nil => rfl
  | cons entry rest =>
    have found := absent entry.1
    rw [get?_cons, if_pos rfl] at found
    contradiction

end Table

end CompletionServer
