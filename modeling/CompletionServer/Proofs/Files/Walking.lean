import CompletionServer.Proofs.Files.Spelling

/-!
# Where names lead

`Leads` is the rule by which names lead from a place to another, one constructor for each kind of
step, with the number of links that are followed on the way and without a limit on it. A walk that
comes to an end follows the rule. The goal is unique, and so is the number of links: what a link
leads to always takes fewer links than the link itself, which is why no link is met again on its own
way.
-/

namespace CompletionServer.Files

namespace Tree

/-- The ways in which names lead from a place to another through some links. -/
inductive Leads (tree : Tree) : (links : Nat) → Place → List String → Place → Prop
  /-- No names are left, and something is there. -/
  | done {place : Place} {entry : Entry} (there : tree.get? place = some entry) :
      Leads tree 0 place [] place
  /-- A dot stays in a directory. -/
  | stay {links : Nat} {place goal : Place} {name : String} {rest : List String}
      (within : tree.get? place = some .directory) (here : name = ".")
      (goes : Leads tree links place rest goal) : Leads tree links place (name :: rest) goal
  /-- Two dots go to the directory above. -/
  | up {links : Nat} {place goal : Place} {name : String} {rest : List String}
      (within : tree.get? place = some .directory) (above : name = "..")
      (goes : Leads tree links place.dropLast rest goal) :
      Leads tree links place (name :: rest) goal
  /-- A name goes to what is there. -/
  | enter {links : Nat} {place goal : Place} {name : String} {rest : List String} {entry : Entry}
      (within : tree.get? place = some .directory) (notHere : name ≠ ".") (notAbove : name ≠ "..")
      (short : name.utf8ByteSize ≤ nameLimit) (there : tree.get? (place ++ [name]) = some entry)
      (plain : ∀ target, entry ≠ .link target)
      (goes : Leads tree links (place ++ [name]) rest goal) :
      Leads tree links place (name :: rest) goal
  /-- A name of a link goes where its target leads. -/
  | follow {links : Nat} {place goal : Place} {name target : String} {rest : List String}
      (within : tree.get? place = some .directory) (notHere : name ≠ ".") (notAbove : name ≠ "..")
      (short : name.utf8ByteSize ≤ nameLimit)
      (there : tree.get? (place ++ [name]) = some (.link target))
      (goes : Leads tree links (startOf place target) (stepsOf target ++ rest) goal) :
      Leads tree (links + 1) place (name :: rest) goal

variable {tree : Tree} {links : Nat} {place goal : Place} {names : List String}

/-- What can be entered is a directory. -/
theorem get?_eq_directory_of_any (within : (tree.get? place).any Entry.isDirectory = true) :
    tree.get? place = some .directory := by
  cases found : tree.get? place with
  | none => simp [found] at within
  | some entry => cases entry <;> simp_all [Entry.isDirectory]

/-- A walk that leaves links to a rule follows it. -/
theorem leads_of_walkWith {jump : Place → String → List String → Except Obstacle (Place × Entry)}
    (jumps : ∀ place target rest goal entry, jump place target rest = .ok (goal, entry) →
      tree.get? goal = some entry ∧
        ∃ links, tree.Leads links (startOf place target) (stepsOf target ++ rest) goal)
    {entry : Entry} (walked : tree.walkWith true jump place names = .ok (goal, entry)) :
    tree.get? goal = some entry ∧ ∃ links, tree.Leads links place names goal := by
  induction names generalizing place with
  | nil =>
    rw [walkWith] at walked
    split at walked
    · next found there =>
      obtain ⟨rfl, rfl⟩ := Prod.mk.inj (Except.ok.inj walked)
      exact ⟨there, 0, .done there⟩
    · contradiction
  | cons name rest ih =>
    rw [walkWith] at walked
    simp only [Bool.not_true, Bool.and_false, Bool.false_eq_true, if_false] at walked
    split_ifs at walked with outside here above long
    · have within := get?_eq_directory_of_any (by simpa using outside)
      obtain ⟨there, links, goes⟩ := ih walked
      exact ⟨there, links, .stay within here goes⟩
    · have within := get?_eq_directory_of_any (by simpa using outside)
      obtain ⟨there, links, goes⟩ := ih walked
      exact ⟨there, links, .up within above goes⟩
    · have within := get?_eq_directory_of_any (by simpa using outside)
      have short := Nat.le_of_not_lt long
      split at walked
      · contradiction
      · next target there =>
        obtain ⟨found, links, goes⟩ := jumps _ _ _ _ _ walked
        exact ⟨found, links + 1, .follow within here above short there goes⟩
      · next found plain there =>
        obtain ⟨reached, links, goes⟩ := ih walked
        exact ⟨reached, links, .enter within here above short there plain goes⟩

/-- A walk that comes to an end follows the rule. -/
theorem leads_of_walk {bound : Nat} {entry : Entry}
    (walked : tree.walk true bound place names = .ok (goal, entry)) :
    tree.get? goal = some entry ∧ ∃ links, tree.Leads links place names goal := by
  induction bound generalizing place names goal entry with
  | zero => exact leads_of_walkWith (fun _ _ _ _ _ jumped => by contradiction) walked
  | succ bound ih => exact leads_of_walkWith (fun _ _ _ _ _ jumped => ih jumped) walked

namespace Leads

/-- Names lead on from where those before them lead. -/
theorem split {front back : List String} (leads : tree.Leads links place (front ++ back) goal) :
    ∃ first second middle, tree.Leads first place front middle ∧
      tree.Leads second middle back goal ∧ first + second = links := by
  generalize whole : front ++ back = names at leads
  induction leads generalizing front with
  | done there =>
    obtain ⟨rfl, rfl⟩ := List.append_eq_nil_iff.mp whole
    exact ⟨0, 0, _, .done there, .done there, rfl⟩
  | @stay links place goal name rest within here goes ih =>
    rcases List.append_eq_cons_iff.mp whole with ⟨rfl, rfl⟩ | ⟨others, rfl, rfl⟩
    · exact ⟨0, links, _, .done within, .stay within here goes, Nat.zero_add _⟩
    · obtain ⟨first, second, middle, front, back, sum⟩ := ih rfl
      exact ⟨first, second, middle, .stay within here front, back, sum⟩
  | @up links place goal name rest within above goes ih =>
    rcases List.append_eq_cons_iff.mp whole with ⟨rfl, rfl⟩ | ⟨others, rfl, rfl⟩
    · exact ⟨0, links, _, .done within, .up within above goes, Nat.zero_add _⟩
    · obtain ⟨first, second, middle, front, back, sum⟩ := ih rfl
      exact ⟨first, second, middle, .up within above front, back, sum⟩
  | @enter links place goal name rest entry within notHere notAbove short there plain goes ih =>
    rcases List.append_eq_cons_iff.mp whole with ⟨rfl, rfl⟩ | ⟨others, rfl, rfl⟩
    · exact ⟨0, links, _, .done within, .enter within notHere notAbove short there plain goes,
        Nat.zero_add _⟩
    · obtain ⟨first, second, middle, front, back, sum⟩ := ih rfl
      exact ⟨first, second, middle, .enter within notHere notAbove short there plain front, back,
        sum⟩
  | @follow links place goal name target rest within notHere notAbove short there goes ih =>
    rcases List.append_eq_cons_iff.mp whole with ⟨rfl, rfl⟩ | ⟨others, rfl, rfl⟩
    · exact ⟨0, links + 1, _, .done within, .follow within notHere notAbove short there goes,
        Nat.zero_add _⟩
    · obtain ⟨first, second, middle, front, back, sum⟩ := ih (List.append_assoc _ _ _)
      exact ⟨first + 1, second, middle, .follow within notHere notAbove short there front, back,
        by omega⟩

/-- Names lead to one goal, through one number of links. -/
theorem unique {other : Nat} {end' : Place} (leads : tree.Leads links place names goal)
    (again : tree.Leads other place names end') : links = other ∧ goal = end' := by
  induction leads generalizing other end' with
  | done _ =>
    cases again with
    | done _ => exact ⟨rfl, rfl⟩
  | stay _ here _ ih =>
    cases again with
    | stay _ _ goes => exact ih goes
    | up _ above => exact absurd (here.symm.trans above) (by decide)
    | enter _ notHere => exact absurd here notHere
    | follow _ notHere => exact absurd here notHere
  | up _ above _ ih =>
    cases again with
    | stay _ here => exact absurd (here.symm.trans above) (by decide)
    | up _ _ goes => exact ih goes
    | enter _ _ notAbove => exact absurd above notAbove
    | follow _ _ notAbove => exact absurd above notAbove
  | enter _ notHere notAbove _ there plain _ ih =>
    cases again with
    | stay _ here => exact absurd here notHere
    | up _ above => exact absurd above notAbove
    | enter _ _ _ _ _ _ goes => exact ih goes
    | follow _ _ _ _ linked => exact absurd (Option.some.inj (there.symm.trans linked)) (plain _)
  | follow _ notHere notAbove _ there _ ih =>
    cases again with
    | stay _ here => exact absurd here notHere
    | up _ above => exact absurd above notAbove
    | enter _ _ _ _ linked plain =>
      exact absurd (Option.some.inj (linked.symm.trans there)) (plain _)
    | follow _ _ _ _ linked goes =>
      obtain rfl := Entry.link.inj (Option.some.inj (there.symm.trans linked))
      obtain ⟨rfl, rfl⟩ := ih goes
      exact ⟨rfl, rfl⟩

/-! ## The goal -/

end Leads

/-- All places above a place are directories. -/
def IsRooted (tree : Tree) (place : Place) : Prop :=
  ∀ above below, above ++ below = place → below ≠ [] → tree.get? above = some .directory

/-- Nothing is above the root. -/
theorem isRooted_nil (tree : Tree) : tree.IsRooted [] := by
  intro above below whole nonempty
  exact absurd (List.append_eq_nil_iff.mp whole).2 nonempty

/-- If only directories are above a place, then so it is one directory up. -/
theorem IsRooted.dropLast (rooted : tree.IsRooted place) : tree.IsRooted place.dropLast := by
  intro above below whole nonempty
  by_cases root : place = []
  · rw [root] at whole
    exact absurd (List.append_eq_nil_iff.mp whole).2 nonempty
  · have longer : above ++ (below ++ [place.getLast root]) = place := by
      rw [← List.append_assoc, whole, List.dropLast_append_getLast]
    exact rooted above _ longer (by simp)

/-- If only directories are above a directory, then so it is below it. -/
theorem IsRooted.concat (rooted : tree.IsRooted place) (within : tree.get? place = some .directory)
    (name : String) : tree.IsRooted (place ++ [name]) := by
  intro above below whole nonempty
  obtain ⟨front, last, rfl⟩ := (List.eq_nil_or_concat' below).resolve_left nonempty
  rw [← List.append_assoc] at whole
  obtain ⟨same, -⟩ := List.append_inj' whole rfl
  by_cases short : front = []
  · rw [short, List.append_nil] at same
    exact same ▸ within
  · exact rooted above front same short

/-- If only directories are above a link's directory, then so it is where its target starts. -/
theorem IsRooted.startOf (rooted : tree.IsRooted place) (target : String) :
    tree.IsRooted (startOf place target) := by
  rw [Files.startOf]
  split
  · exact isRooted_nil tree
  · exact rooted

namespace Leads

/-- All places above the goal are directories if those above the beginning are. -/
theorem isRooted (leads : tree.Leads links place names goal) (rooted : tree.IsRooted place) :
    tree.IsRooted goal := by
  induction leads with
  | done _ => exact rooted
  | stay _ _ _ ih => exact ih rooted
  | up _ _ _ ih => exact ih rooted.dropLast
  | enter within _ _ _ _ _ _ ih => exact ih (rooted.concat within _)
  | follow _ _ _ _ _ _ ih => exact ih (rooted.startOf _)

/-- The goal has names that entries can have, and none that is too long. -/
theorem isName (leads : tree.Leads links place names goal)
    (parts : ∀ name ∈ names, name ≠ "" ∧ '/' ∉ name.toList)
    (named : ∀ name ∈ place, IsName name ∧ name.utf8ByteSize ≤ nameLimit) :
    ∀ name ∈ goal, IsName name ∧ name.utf8ByteSize ≤ nameLimit := by
  induction leads with
  | done _ => exact named
  | stay _ _ _ ih => exact ih (List.forall_mem_cons.mp parts).2 named
  | up _ _ _ ih =>
    exact ih (List.forall_mem_cons.mp parts).2 fun name member =>
      named name (List.dropLast_subset _ member)
  | enter _ notHere notAbove short _ _ _ ih =>
    obtain ⟨⟨nonempty, whole⟩, later⟩ := List.forall_mem_cons.mp parts
    refine ih later (List.forall_mem_append.mpr ⟨named, ?_⟩)
    simpa using ⟨⟨nonempty, whole, notHere, notAbove⟩, short⟩
  | @follow links place goal name target rest _ _ _ _ _ _ ih =>
    refine ih (List.forall_mem_append.mpr
      ⟨fun _ => of_mem_stepsOf, (List.forall_mem_cons.mp parts).2⟩) ?_
    rw [Files.startOf]
    split
    · exact fun _ member => absurd member List.not_mem_nil
    · exact named

end Leads

/-! ## Walks through directories -/

variable {followLast : Bool}
  {jump : Place → String → List String → Except Obstacle (Place × Entry)}

/-- A walk goes on from a directory below. -/
theorem walkWith_cons {name : String} (within : tree.get? place = some .directory)
    (isName : IsName name) (short : name.utf8ByteSize ≤ nameLimit)
    {entry : Entry} (there : tree.get? (place ++ [name]) = some entry)
    (plain : ∀ target, entry ≠ .link target) :
    tree.walkWith followLast jump place (name :: names) =
      tree.walkWith followLast jump (place ++ [name]) names := by
  rw [walkWith, within, there]
  rw [if_neg (by simp [Entry.isDirectory]), if_neg isName.notHere, if_neg isName.notAbove,
    if_neg (Nat.not_lt.mpr short)]
  cases entry with
  | link target => exact absurd rfl (plain target)
  | directory => rfl
  | file bytes => rfl
  | unreadable fault => rfl
  | barred refusal => rfl

/-- A walk through directories goes on from the last of them. -/
theorem walkWith_append {inner : Place}
    (within : ∀ above below, above ++ below = inner → tree.get? (place ++ above) = some .directory)
    (isName : ∀ name ∈ inner, IsName name ∧ name.utf8ByteSize ≤ nameLimit) :
    tree.walkWith followLast jump place (inner ++ names) =
      tree.walkWith followLast jump (place ++ inner) names := by
  induction inner generalizing place with
  | nil => rw [List.nil_append, List.append_nil]
  | cons name rest ih =>
    obtain ⟨⟨own, short⟩, later⟩ := List.forall_mem_cons.mp isName
    have here : tree.get? place = some .directory := by
      simpa using within [] (name :: rest) rfl
    have below : tree.get? (place ++ [name]) = some .directory := within [name] rest rfl
    rw [List.cons_append, walkWith_cons here own short below (by simp),
      ih (fun above further whole => ?_) later, List.append_assoc, List.singleton_append]
    have deeper := within (name :: above) further (by rw [List.cons_append, whole])
    rwa [List.append_assoc, List.singleton_append]

/-- What a walk does at a link depends on how many links there may be, the rest does not. -/
theorem walk_eq_walkWith (tree : Tree) (followLast : Bool) (bound : Nat) :
    ∃ jump, tree.walk followLast bound = tree.walkWith followLast jump := by
  cases bound with
  | zero => exact ⟨_, rfl⟩
  | succ bound => exact ⟨_, rfl⟩

/-- A walk along the names of a place below directories comes there. -/
theorem IsRooted.walk_eq (rooted : tree.IsRooted place)
    (isName : ∀ name ∈ place, IsName name ∧ name.utf8ByteSize ≤ nameLimit)
    {entry : Entry} (there : tree.get? place = some entry)
    (plain : ∀ target, entry ≠ .link target) (followLast : Bool) (bound : Nat) :
    tree.walk followLast bound [] place = .ok (place, entry) := by
  obtain ⟨jump, same⟩ := tree.walk_eq_walkWith followLast bound
  have arrived : tree.walkWith followLast jump place [] = .ok (place, entry) := by
    rw [walkWith, there]
  rw [same]
  rcases List.eq_nil_or_concat' place with rfl | ⟨front, last, rfl⟩
  · exact arrived
  · obtain ⟨before, own⟩ := List.forall_mem_append.mp isName
    obtain ⟨isName, short⟩ := own last (List.mem_singleton_self last)
    have within (above below : Place) (whole : above ++ below = front) :
        tree.get? ([] ++ above) = some .directory :=
      rooted above (below ++ [last]) (by rw [← List.append_assoc, whole]) (by simp)
    have directory : tree.get? front = some .directory := within front [] (List.append_nil _)
    rw [walkWith_append within before, List.nil_append,
      walkWith_cons directory isName short there plain, arrived]

end Tree

/-- The text of a place begins at the root. -/
theorem startOf_spell (here place : Place) (slash : Bool) :
    startOf here (spell place slash) = [] := by
  have front : (spell place slash).startsWith "/" = true := by
    rw [startsWith_slash_iff, spell, toString_absolute, String.append_assoc, String.toList_append]
    rfl
  rw [startOf, if_pos front]

/-- A place below directories is found by its text, unless that is too long. -/
theorem System.find_toString {system : System} {place : Place} {entry : Entry}
    (rooted : system.tree.IsRooted place)
    (isName : ∀ name ∈ place, IsName name ∧ name.utf8ByteSize ≤ nameLimit)
    (there : system.tree.get? place = some entry) (plain : ∀ target, entry ≠ .link target)
    (fits : (toString (Path.absolute place)).utf8ByteSize < pathLimit) (followLast : Bool) :
    system.find followLast (toString (Path.absolute place)) = .ok (place, entry) := by
  have spelled : toString (Path.absolute place) = spell place false := by simp [spell]
  have steps : stepsOf (spell place false) = place := by
    rw [stepsOf_spell fun name member => (isName name member).1]
    simp
  have nonempty : toString (Path.absolute place) ≠ "" := by
    rw [toString_absolute]
    intro empty
    have chars := congrArg String.toList empty
    rw [String.toList_append] at chars
    contradiction
  rw [find, if_neg nonempty, if_neg (Nat.not_le.mpr fits), spelled, startOf_spell, steps]
  exact rooted.walk_eq isName there plain followLast linkLimit

end CompletionServer.Files
