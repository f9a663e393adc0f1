import CompletionServer.Proofs.Files.Resolution
import Mathlib.Data.List.Induction

/-!
# What is below a directory

A directory's contents are a function from places below it to entries. What paths below the
directory lead to follows from the contents alone: the same contents can stand at another place of
another tree, and looking, listing and resolving have the same answers there, with the place of the
directory in front. The paths must be short enough in both.
-/

namespace CompletionServer.Files

/-! ## Lengths of paths -/

/-- The bytes that names take up in a path, each with a slash. -/
def extent : List String → Nat
  | [] => 0
  | name :: rest => name.utf8ByteSize + 1 + extent rest

/-- Names in two parts take up what the parts take up. -/
theorem extent_append (front back : List String) :
    extent (front ++ back) = extent front + extent back := by
  induction front with
  | nil => simp [extent]
  | cons name rest ih =>
    rw [List.cons_append, extent, extent, ih]
    omega

/-- Names with slashes between them take up one byte less than with a slash each. -/
theorem utf8ByteSize_intercalate {names : List String} (nonempty : names ≠ []) :
    ("/".intercalate names).utf8ByteSize + 1 = extent names := by
  have slash : "/".utf8ByteSize = 1 := by decide
  induction names with
  | nil => contradiction
  | cons name rest ih =>
    by_cases last : rest = []
    · simp [last, extent]
    · rw [String.intercalate_cons_of_ne_nil last, String.utf8ByteSize_append,
        String.utf8ByteSize_append, slash, extent, ← ih last]
      omega

/-- The text of a place is at most one byte longer than its names with a slash each. -/
theorem utf8ByteSize_spell_le (place : Place) (slash : Bool) :
    (spell place slash).utf8ByteSize ≤ extent place + 1 := by
  have single : "/".utf8ByteSize = 1 := by decide
  have nothing : "".utf8ByteSize = 0 := by decide
  rw [spell, toString_absolute, String.utf8ByteSize_append, String.utf8ByteSize_append, single]
  cases place with
  | nil => simp [extent]
  | cons name rest =>
    have whole := utf8ByteSize_intercalate (List.cons_ne_nil name rest)
    split
    · rw [single]
      omega
    · rw [nothing]
      omega

/-! ## Characters of paths -/

/-- A text holds NUL exactly if one of its parts does. -/
theorem hasNul_append (front back : String) :
    System.hasNul (front ++ back) = (System.hasNul front || System.hasNul back) := by
  simp [System.hasNul]

/-- Names with slashes between them hold NUL exactly if one of the names does. -/
theorem hasNul_intercalate (names : List String) :
    System.hasNul ("/".intercalate names) = names.any System.hasNul := by
  have slash : System.hasNul "/" = false := by decide
  induction names with
  | nil => decide
  | cons name rest ih =>
    by_cases last : rest = []
    · simp [last]
    · rw [String.intercalate_cons_of_ne_nil last, hasNul_append, hasNul_append, ih, slash,
        List.any_cons, Bool.or_false]

/-- The text of a place holds NUL exactly if one of its names does. -/
theorem hasNul_spell (place : Place) (slash : Bool) :
    System.hasNul (spell place slash) = place.any System.hasNul := by
  have single : System.hasNul "/" = false := by decide
  have nothing : System.hasNul "" = false := by decide
  rw [spell, toString_absolute, hasNul_append, hasNul_append, hasNul_intercalate, single]
  split <;> simp [single, nothing]

/-! ## Contents -/

/-- A name that a file system can keep. -/
structure IsKept (name : String) : Prop where
  isName : IsName name
  short : name.utf8ByteSize ≤ nameLimit
  legal : System.hasNul name = false

/-- It can be decided whether a file system can keep a name. -/
instance (name : String) : Decidable (IsKept name) :=
  decidable_of_iff (IsName name ∧ name.utf8ByteSize ≤ nameLimit ∧ System.hasNul name = false)
    ⟨fun ⟨isName, short, legal⟩ => ⟨isName, short, legal⟩,
      fun kept => ⟨kept.isName, kept.short, kept.legal⟩⟩

/-- Contents of a directory: there is no link, and everything stands in a directory under a name
that a file system can keep. -/
structure IsContents (inner : Place → Option Entry) : Prop where
  root : inner [] = some .directory
  unlinked : ∀ place target, inner place ≠ some (.link target)
  within : ∀ place name entry, inner (place ++ [name]) = some entry →
    inner place = some .directory ∧ IsKept name

/-- The entry that names lead to from a place. -/
def look (inner : Place → Option Entry) : Place → List String → Except Obstacle Entry
  | place, [] =>
    match inner place with
    | some entry => .ok entry
    | none => .error .missing
  | place, name :: rest =>
    if !(inner place).any Entry.isDirectory then .error (.beyond (inner place))
    else if nameLimit < name.utf8ByteSize then .error .nameTooLong
    else if (inner (place ++ [name])).isNone then .error .missing
    else look inner (place ++ [name]) rest

/-- The entry at a place, which must be a directory if asked. -/
def lookAt (inner : Place → Option Entry) (place : Place) (slash : Bool) :
    Except Obstacle Entry :=
  match look inner [] place with
  | .ok entry => if slash && !entry.isDirectory then .error (.beyond (some entry)) else .ok entry
  | .error obstacle => .error obstacle

/-- A directory of a system has contents, no link leads there, and every path to something in it
leaves some room. -/
structure System.Hosts (system : System) (root : Place) (inner : Place → Option Entry)
    (room : Nat) : Prop where
  contents : ∀ place, system.tree.get? (root ++ place) = inner place
  rooted : system.tree.IsRooted root
  names : ∀ name ∈ root, IsKept name
  fits : ∀ place entry, inner place = some entry → extent (root ++ place) + room + 1 < pathLimit

/-- Without a slash at its end the text of a place is that of its absolute path. -/
theorem spell_false (place : Place) : spell place false = toString (Path.absolute place) := by
  simp [spell]

/-- Resolving goes down along names that are no links. -/
theorem Tree.resolveFrom_plain (tree : Tree) (here : Place) (links : Nat) (opened : List Spot)
    (closed : List (Spot × Spot)) (place : Place) {names : List String}
    (isName : ∀ name ∈ names, IsName name)
    (unlinked : ∀ above below, above ++ below = place ++ names →
      ∀ target, tree.get? above ≠ some (.link target)) :
    tree.resolveFrom here links ⟨spotAt place, opened, closed⟩ (names.map Step.name) =
      (spotAt (place ++ names), false) := by
  induction names generalizing place with
  | nil =>
    rw [resolveFrom_eq, List.append_nil]
    rfl
  | cons name rest ih =>
    obtain ⟨own, later⟩ := List.forall_mem_cons.mp isName
    have plain (target : String) :
        tree.get? (((spotAt place).down name).place here) ≠ some (.link target) :=
      unlinked (place ++ [name]) rest (by simp) target
    have step : tree.resolveFrom here links ⟨spotAt place, opened, closed⟩
        (.name name :: rest.map Step.name) =
        tree.resolveFrom here links ⟨spotAt (place ++ [name]), opened, closed⟩
          (rest.map Step.name) :=
      resolveFrom_down own.nonempty own.notHere own.notAbove plain
    have whole : place ++ [name] ++ rest = place ++ name :: rest := by simp
    rw [List.map_cons, step, ih (place ++ [name]) later (whole ▸ unlinked), whole]

variable {inner : Place → Option Entry}

/-- What is at a place below is in directories, under names that a file system can keep. -/
theorem IsContents.names (isContents : IsContents inner) {place : Place} {entry : Entry}
    (there : inner place = some entry) : ∀ name ∈ place, IsKept name := by
  induction place using List.reverseRecOn generalizing entry with
  | nil => simp
  | append_singleton place name ih =>
    obtain ⟨within, own⟩ := isContents.within place name entry there
    exact List.forall_mem_append.mpr ⟨ih within, by simpa using own⟩

/-- Nothing is beyond what is no directory, unless it is a directory that cannot be entered. -/
theorem Obstacle.isAbsence_beyond (there? : Option Entry) :
    (Obstacle.beyond there?).isAbsence = true ∨ ∃ refusal, there? = some (.barred refusal) := by
  unfold Obstacle.beyond
  split
  · next refusal => exact .inr ⟨refusal, rfl⟩
  · exact .inl (by decide)

/-- Names that a file system can keep meet only absence, or a directory that cannot be entered. -/
theorem isAbsence_of_look {names : List String} (kept : ∀ name ∈ names, IsKept name)
    {place : Place} {obstacle : Obstacle} (met : look inner place names = .error obstacle) :
    obstacle.isAbsence = true ∨ ∃ other refusal, inner other = some (.barred refusal) := by
  induction names generalizing place with
  | nil =>
    rw [look] at met
    split at met
    · cases met
    · obtain rfl := Except.error.inj met
      exact .inl (by decide)
  | cons name rest ih =>
    obtain ⟨own, later⟩ := List.forall_mem_cons.mp kept
    rw [look, if_neg (Nat.not_lt.mpr own.short)] at met
    split at met
    · obtain rfl := Except.error.inj met
      exact (Obstacle.isAbsence_beyond _).imp_right fun ⟨refusal, there⟩ => ⟨place, refusal, there⟩
    split at met
    · obtain rfl := Except.error.inj met
      exact .inl (by decide)
    · exact ih later met

/-- A walk along names below a directory leads to what is there. -/
theorem Tree.walkWith_eq_look {tree : Tree} {root : Place} (isContents : IsContents inner)
    (contents : ∀ place, tree.get? (root ++ place) = inner place) {followLast : Bool}
    {jump : Place → String → List String → Except Obstacle (Place × Entry)}
    {place : Place} {entry : Entry} (there : inner place = some entry) {names : List String}
    (isName : ∀ name ∈ names, IsName name) (slash : Bool) :
    tree.walkWith followLast jump (root ++ place) (names ++ if slash then ["."] else []) =
      match look inner place names with
      | .ok entry =>
        if slash && !entry.isDirectory then .error (.beyond (some entry))
        else .ok (root ++ place ++ names, entry)
      | .error obstacle => .error obstacle := by
  induction names generalizing place entry with
  | nil =>
    cases slash with
    | false => simp [walkWith, contents, look, there]
    | true =>
      cases entry <;> simp [walkWith, contents, look, there, Entry.isDirectory, Obstacle.beyond]
  | cons name rest ih =>
    obtain ⟨own, later⟩ := List.forall_mem_cons.mp isName
    rw [List.cons_append, walkWith, look, contents, if_neg own.notHere, if_neg own.notAbove,
      List.append_assoc, contents]
    split
    · rfl
    split
    · rfl
    cases below : inner (place ++ [name]) with
    | none => rfl
    | some next =>
      have goes := ih below later
      have whole : root ++ (place ++ [name]) ++ rest = root ++ place ++ name :: rest := by simp
      rw [whole] at goes
      cases next with
      | link target => exact absurd below (isContents.unlinked _ target)
      | directory => simpa using goes
      | file bytes => simpa using goes
      | unreadable fault => simpa using goes
      | barred refusal => simpa using goes

namespace System.Hosts

variable {system : System} {root place : Place} {room : Nat}

/-- The directory itself is there. -/
theorem get?_root (hosts : system.Hosts root inner room) (isContents : IsContents inner) :
    system.tree.get? root = some .directory := by
  have own := hosts.contents []
  rwa [List.append_nil, isContents.root] at own

/-- Below the directory all names are names of entries. -/
theorem isName_append (hosts : system.Hosts root inner room)
    (isName : ∀ name ∈ place, IsName name) : ∀ name ∈ root ++ place, IsName name :=
  List.forall_mem_append.mpr ⟨fun name member => (hosts.names name member).isName, isName⟩

/-- A path below the directory holds NUL only in its names below. -/
theorem hasNul_spell_append (hosts : system.Hosts root inner room) (slash : Bool) :
    hasNul (spell (root ++ place) slash) = place.any hasNul := by
  have legal : root.any hasNul = false := by
    rw [List.any_eq_false]
    exact fun name member => by simp [(hosts.names name member).legal]
  rw [hasNul_spell, List.any_append, legal, Bool.false_or]

/-- What a path below the directory leads to. -/
theorem find_spell (hosts : system.Hosts root inner room) (isContents : IsContents inner)
    (isName : ∀ name ∈ place, IsName name) (slash : Bool)
    (short : (spell (root ++ place) slash).utf8ByteSize < pathLimit) (followLast : Bool) :
    system.find followLast (spell (root ++ place) slash) =
      (lookAt inner place slash).map ((root ++ place, ·)) := by
  have directory := hosts.get?_root isContents
  have nonempty : spell (root ++ place) slash ≠ "" := by
    rw [spell, toString_absolute, String.append_assoc]
    intro empty
    have chars := congrArg String.toList empty
    rw [String.toList_append] at chars
    contradiction
  obtain ⟨jump, same⟩ := system.tree.walk_eq_walkWith followLast linkLimit
  have walked : system.tree.walkWith followLast jump []
      (root ++ (place ++ if slash then ["."] else [])) =
      (lookAt inner place slash).map ((root ++ place, ·)) := by
    have within (above below : Place) (whole : above ++ below = root) :
        system.tree.get? ([] ++ above) = some .directory := by
      by_cases last : below = []
      · rw [last, List.append_nil] at whole
        rwa [List.nil_append, whole]
      · exact hosts.rooted above below whole last
    have goes : system.tree.walkWith followLast jump (root ++ [])
        (place ++ if slash then ["."] else []) = _ :=
      system.tree.walkWith_eq_look isContents hosts.contents isContents.root isName slash
    have short (name : String) (member : name ∈ root) :
        IsName name ∧ name.utf8ByteSize ≤ nameLimit :=
      ⟨(hosts.names name member).isName, (hosts.names name member).short⟩
    rw [Tree.walkWith_append within short, List.nil_append, ← List.append_nil root, goes, lookAt]
    cases look inner [] place with
    | error obstacle => rfl
    | ok entry =>
      dsimp only
      split <;> simp [Except.map]
  rw [find, if_neg nonempty, if_neg (Nat.not_le.mpr short), startOf_spell,
    stepsOf_spell (hosts.isName_append isName), same, ← walked]
  cases slash with
  | false => simp
  | true =>
    by_cases top : root ++ place = []
    · -- The text of the root ends with its slash, which asks for nothing more.
      obtain ⟨rfl, rfl⟩ := List.append_eq_nil_iff.mp top
      simp [Tree.walkWith, Entry.isDirectory]
    · simp [top]

/-- A path below the directory is short enough if its names take up no more than those of something
there and the room. -/
theorem short (hosts : system.Hosts root inner room) {other : Place} {entry : Entry}
    (there : inner other = some entry) (near : extent place ≤ extent other + room) (slash : Bool) :
    (spell (root ++ place) slash).utf8ByteSize < pathLimit := by
  have bound := hosts.fits other entry there
  have size := utf8ByteSize_spell_le (root ++ place) slash
  rw [extent_append] at bound size
  omega

/-! ## Questions about paths -/

section Questions

variable (hosts : system.Hosts root inner room) (isContents : IsContents inner)
  (isName : ∀ name ∈ place, IsName name) {slash : Bool}
  (short : (spell (root ++ place) slash).utf8ByteSize < pathLimit)

include hosts isContents isName short

/-- Only directories are listed, and a path with NUL fails. -/
theorem list_spell :
    system.list (spell (root ++ place) slash) =
      if place.any hasNul then .error .nulInPath
      else if lookAt inner place slash matches .ok .directory then
        .ok (system.tree.names (root ++ place))
      else .ok [] := by
  rw [list, hosts.hasNul_spell_append, hosts.find_spell isContents isName slash short]
  cases lookAt inner place slash with
  | error obstacle => simp [Except.map]
  | ok entry => cases entry <;> simp [Except.map]

/-- A path is a directory if it has no NUL and leads to one. -/
theorem isDirectory_spell :
    system.isDirectory (spell (root ++ place) slash) =
      (!place.any hasNul && lookAt inner place slash matches .ok .directory) := by
  rw [isDirectory, hosts.hasNul_spell_append, hosts.find_spell isContents isName slash short]
  cases lookAt inner place slash with
  | error obstacle => simp [Except.map]
  | ok entry => cases entry <;> simp [Except.map, Entry.isDirectory]

/-- A path has an entry if it has no NUL and leads to something. -/
theorem hasEntry_spell :
    system.hasEntry (spell (root ++ place) slash) =
      (!place.any hasNul && (lookAt inner place slash).isOk) := by
  rw [hasEntry, hosts.hasNul_spell_append, hosts.find_spell isContents isName slash short]
  cases lookAt inner place slash with
  | error obstacle => simp [Except.map, Except.isOk, Except.toBool]
  | ok entry => simp [Except.map, Except.isOk, Except.toBool]

end Questions

/-- An absolute path is a file if it leads to one; it fails with an obstacle that does not mean that
nothing is there. -/
theorem isFile_absolute (hosts : system.Hosts root inner room) (isContents : IsContents inner)
    (isName : ∀ name ∈ place, IsName name)
    (short : (spell (root ++ place) false).utf8ByteSize < pathLimit) :
    system.isFile (.absolute (root ++ place)) =
      if place.any hasNul then .ok false
      else
        match lookAt inner place false with
        | .ok entry => .ok entry.isFile
        | .error obstacle =>
          if obstacle.isAbsence then .ok false
          else .error (.system (obstacle.error (spell (root ++ place) false))) := by
  rw [isFile, ← spell_false, hosts.hasNul_spell_append,
    hosts.find_spell isContents isName false short]
  cases lookAt inner place false with
  | error obstacle => rfl
  | ok entry => rfl

/-- A path below the directory stands for itself. -/
theorem resolve_absolute (hosts : system.Hosts root inner room) (isContents : IsContents inner)
    (isName : ∀ name ∈ place, IsName name) :
    system.resolve (.absolute (root ++ place)) =
      if place.any hasNul then .error .nulInPath else .ok (.absolute (root ++ place)) := by
  have unlinked (above below : Place) (whole : above ++ below = root ++ place) (target : String) :
      system.tree.get? above ≠ some (.link target) := by
    rcases List.append_eq_append_iff.mp whole with ⟨middle, front, -⟩ | ⟨middle, front, -⟩
    · by_cases last : middle = []
      · rw [last, List.append_nil] at front
        rw [← front, hosts.get?_root isContents]
        simp
      · rw [hosts.rooted above middle front.symm last]
        simp
    · rw [front, hosts.contents]
      exact isContents.unlinked middle target
  have resolved := system.tree.resolveFrom_plain system.here system.openingBound [] [] []
    (hosts.isName_append isName) unlinked
  have steps : stepsOf (spell (root ++ place) false) = root ++ place := by
    rw [stepsOf_spell (hosts.isName_append isName)]
    simp
  have absolute : (Path.absolute (root ++ place)).isAbsolute = true := by
    simp [Path.isAbsolute, Path.absolute]
  rw [resolve, ← spell_false, hosts.hasNul_spell_append, steps]
  simp only [absolute, if_true]
  split
  · rfl
  · rw [show Spot.root = Tree.spotAt [] from rfl, resolved]
    rfl

end System.Hosts

/-! ## Trees of file systems -/

/-- Every entry of a tree stands in a directory, under names that a file system can keep. -/
def Tree.IsTidy (tree : Tree) : Prop :=
  ∀ pair ∈ tree.entries, (tree.get? pair.1.dropLast).any Entry.isDirectory = true ∧
    ∀ name ∈ pair.1, IsKept name

/-- It can be decided whether a tree is tidy. -/
instance (tree : Tree) : Decidable tree.IsTidy :=
  inferInstanceAs (Decidable (∀ pair ∈ tree.entries, _ ∧ _))

namespace Tree

variable {tree : Tree} {place : Place} {entry : Entry} {name : String}

/-- What is found is an entry of the tree. -/
theorem mem_entries_of_get? (there : tree.get? place = some entry) (below : place ≠ []) :
    (place, entry) ∈ tree.entries := by
  rw [get?, if_neg below] at there
  obtain ⟨pair, found, rfl⟩ := Option.map_eq_some_iff.mp there
  obtain rfl : pair.1 = place := by simpa using List.find?_some found
  exact List.mem_of_find?_eq_some found

/-- The entries below a place, with what their places add to it. -/
def under (tree : Tree) (root : Place) : List (Place × Entry) :=
  tree.entries.filterMap fun pair => (root.isPrefixOf? pair.1).map (·, pair.2)

/-- What is found below a place is found among the entries below it. -/
theorem get?_append {root : Place} (below : root ≠ []) (place : Place) :
    tree.get? (root ++ place) = ((tree.under root).find? (·.1 == place)).map (·.2) := by
  have stands (pair : Place × Entry) : (pair.1 == root ++ place) =
      ((root.isPrefixOf? pair.1).map (·, pair.2)).any (·.1 == place) := by
    cases inside : root.isPrefixOf? pair.1 with
    | some rest =>
      rw [← List.isPrefixOf?_eq_some_iff_append_eq.mp inside]
      simp
    | none =>
      rw [Option.map_none, Option.any_none, beq_eq_false_iff_ne]
      intro whole
      rw [List.isPrefixOf?_eq_some_iff_append_eq.mpr whole.symm] at inside
      cases inside
  rw [get?, if_neg (by simp [below]), under, List.find?_filterMap, ← funext stands]
  cases found : tree.entries.find? (·.1 == root ++ place) with
  | none => rfl
  | some pair =>
    have whole : pair.1 = root ++ place := by simpa using List.find?_some found
    simp [List.isPrefixOf?_eq_some_iff_append_eq.mpr whole.symm]

/-- In a tidy tree everything stands under names that a file system can keep. -/
theorem IsTidy.names (tidy : tree.IsTidy) (there : tree.get? place = some entry) :
    ∀ name ∈ place, IsKept name := by
  by_cases below : place = []
  · simp [below]
  · exact (tidy _ (mem_entries_of_get? there below)).2

/-- In a tidy tree everything stands in a directory. -/
theorem IsTidy.within (tidy : tree.IsTidy) (there : tree.get? (place ++ [name]) = some entry) :
    tree.get? place = some .directory := by
  have above := (tidy _ (mem_entries_of_get? there (by simp))).1
  rw [List.dropLast_concat] at above
  exact get?_eq_directory_of_any above

/-- In a tidy tree only directories are above what is there. -/
theorem IsTidy.isRooted (tidy : tree.IsTidy) (there : tree.get? place = some entry) :
    tree.IsRooted place := by
  induction place using List.reverseRecOn generalizing entry with
  | nil => exact isRooted_nil tree
  | append_singleton place name ih =>
    have within := tidy.within there
    exact (ih within).concat within name

/-- What is below a directory without links is contents of a directory. -/
theorem IsTidy.isContents (tidy : tree.IsTidy) (directory : tree.get? place = some .directory)
    (unlinked : ∀ inside target, tree.get? (place ++ inside) ≠ some (.link target)) :
    IsContents fun inside => tree.get? (place ++ inside) := by
  refine ⟨by simpa using directory, unlinked, fun inside name entry there => ?_⟩
  rw [← List.append_assoc] at there
  exact ⟨tidy.within there, tidy.names there name (by simp)⟩

end Tree

/-! ## Names in a directory -/

/-- The names in a directory are those of the entries that stand in it. -/
theorem Tree.mem_names_iff {tree : Tree} {place : Place} {name : String} :
    name ∈ tree.names place ↔ ∃ entry, tree.get? (place ++ [name]) = some entry := by
  have some_iff : (∃ entry, tree.get? (place ++ [name]) = some entry) ↔
      ∃ pair ∈ tree.entries, pair.1 = place ++ [name] := by
    rw [← Option.isSome_iff_exists, get?, if_neg (by simp), Option.isSome_map, List.find?_isSome]
    simp
  rw [some_iff, names, List.mem_filterMap]
  refine exists_congr fun pair => and_congr_right fun _ => ?_
  constructor
  · intro own
    split at own
    · next inside =>
      obtain ⟨above, nonempty⟩ : pair.1.dropLast = place ∧ pair.1 ≠ [] := by simpa using inside
      obtain ⟨front, last, whole⟩ := (List.eq_nil_or_concat' pair.1).resolve_left nonempty
      rw [whole] at own above ⊢
      simp_all
    · contradiction
  · intro same
    simp [same]

/-- A place is no longer than the tree has entries if all places on the way have one. -/
theorem Tree.length_le_of_prefixes {tree : Tree} {place : Place}
    (there : ∀ above below, above ++ below = place → ∃ entry, tree.get? above = some entry) :
    place.length ≤ tree.entries.length := by
  let fronts := (List.range place.length).map fun count => place.take (count + 1)
  have distinct : fronts.Nodup := by
    refine List.Nodup.map_on (fun count member other memberOther same => ?_) List.nodup_range
    have lengths := congrArg List.length same
    rw [List.mem_range] at member memberOther
    rw [List.length_take, List.length_take] at lengths
    omega
  have among : fronts ⊆ tree.entries.map (·.1) := by
    intro front member
    obtain ⟨count, bound, rfl⟩ := List.mem_map.mp member
    rw [List.mem_range] at bound
    obtain ⟨entry, found⟩ := there _ _ (List.take_append_drop (count + 1) place)
    have nonempty : place.take (count + 1) ≠ [] := by
      intro empty
      have length := congrArg List.length empty
      rw [List.length_take, List.length_nil] at length
      omega
    rw [get?, if_neg nonempty] at found
    obtain ⟨pair, own, -⟩ := Option.map_eq_some_iff.mp found
    have same : pair.1 = place.take (count + 1) := by simpa using List.find?_some own
    exact same ▸ List.mem_map_of_mem (List.mem_of_find?_eq_some own)
  have bounded := (List.subperm_of_subset distinct among).length_le
  simpa [fronts] using bounded

end CompletionServer.Files
