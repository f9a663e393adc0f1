import CompletionServer.Proofs.Files.Subtree
import CompletionServer.Proofs.Outcome

/-!
# Matches of a pattern in two places

The same contents stand at two places, perhaps of two systems. Step by step, what a pattern matches
below the one place is what it matches below the other: the names that are listed, the paths any
number of directories deep, the matches of one name, and those of all names of a pattern. The order
may differ, and the names of the places themselves must hold no wildcards.
-/

namespace CompletionServer.Files

open Outcome

/-! ## Joined texts -/

section Texts

variable {place names : Place} {name : String}

/-- Names put behind a place make the text of the place below. -/
theorem joinText_spell (isName : ∀ name ∈ place, IsName name) (slash : Bool)
    (nonempty : names ≠ []) :
    System.joinText (spell place slash) ("/".intercalate names) = spell (place ++ names) false := by
  rw [spell_false, toString_absolute_append place nonempty, System.joinText, endsWith_spell isName]
  cases slash with
  | true => simp
  | false =>
    cases place with
    | nil => simp [spell]
    | cons first rest => simp [spell]

/-- A name put behind the text of a place gives the text of the place below. -/
theorem joinText_name (isName : ∀ name ∈ place, IsName name) (slash : Bool) (name : String) :
    System.joinText (spell place slash) name = spell (place ++ [name]) false := by
  have joined := joinText_spell isName slash (List.cons_ne_nil name [])
  rwa [String.intercalate_singleton] at joined

/-- Nothing put behind the text of a place gives its text with a slash. -/
theorem joinText_empty (isName : ∀ name ∈ place, IsName name) (slash : Bool) :
    System.joinText (spell place slash) "" = spell place true := by
  rw [System.joinText, endsWith_spell isName]
  cases slash with
  | true => simp
  | false =>
    cases place with
    | nil => simp [spell]
    | cons first rest => simp [spell]

/-- A name put before names makes the text of all of them. -/
theorem joinText_intercalate (own : IsName name) (nonempty : names ≠ []) :
    System.joinText name ("/".intercalate names) = "/".intercalate (name :: names) := by
  have open' : name.endsWith "/" = false := by
    have whole := endsWith_append_name "" own
    rwa [String.empty_append] at whole
  rw [System.joinText, open', String.intercalate_cons_of_ne_nil nonempty]
  simp

/-- A text has magic exactly if one of its parts has. -/
theorem hasMagic_append (front back : String) :
    Glob.hasMagic (front ++ back) = (Glob.hasMagic front || Glob.hasMagic back) := by
  simp [Glob.hasMagic]

/-- Wildcards of a path are those of its names. -/
theorem hasMagic_toString (place : Place) :
    Glob.hasMagic (toString (Path.absolute place)) = place.any Glob.hasMagic := by
  have slash : Glob.hasMagic "/" = false := by decide
  have joined (names : List String) :
      Glob.hasMagic ("/".intercalate names) = names.any Glob.hasMagic := by
    induction names with
    | nil => decide
    | cons name rest ih =>
      by_cases last : rest = []
      · simp [last]
      · rw [String.intercalate_cons_of_ne_nil last, hasMagic_append, hasMagic_append, ih, slash,
          List.any_cons, Bool.or_false]
  rw [toString_absolute, hasMagic_append, slash, joined, Bool.false_or]

end Texts

/-! ## Steps of matching -/

/-- The directories in which the matches of a last name are looked for. -/
def System.directoriesOf (system : System) (root : String) (outer : List String) :
    Except Fault (List String) :=
  if Glob.hasMagic (root ++ "/".intercalate outer.reverse) then system.matchesBelow root true outer
  else .ok [root ++ "/".intercalate outer.reverse]

/-- The matches of a name pattern in a directory, with the directory's text. -/
def System.matchesUnder (system : System) (name : String) (directoriesOnly : Bool)
    (directory : String) : Except Fault (List String) := do
  return (← system.matchesIn directory name directoriesOnly).map (System.joinText directory)

/-- Matching one more name is matching it in every directory that the others lead to. -/
theorem System.matchesBelow_cons {system : System} {root : String} {directoriesOnly : Bool}
    {name : String} {outer : List String} :
    system.matchesBelow root directoriesOnly (name :: outer) = (do
      let directories ← system.directoriesOf root outer
      let groups ← directories.mapM (system.matchesUnder name directoriesOnly)
      return groups.flatten) := by
  rw [matchesBelow, directoriesOf]
  split <;> rfl

/-! ## Places that are looked at -/

/-- A place with names that entries can have, which take up no more than those of something there
and some bytes that were spent. A file system can keep the names, unless there is a flaw. -/
structure Near (inner : Place → Option Entry) (flaw : Prop) (spent : Nat) (place : Place) :
    Prop where
  isName : ∀ name ∈ place, IsName name
  kept : flaw ∨ ∀ name ∈ place, IsKept name
  bound : ∃ other entry, inner other = some entry ∧ extent place ≤ extent other + spent

/-- A number that is greater than the lengths of all paths below a place. -/
structure Deep (inner : Place → Option Entry) (depth : Nat) (place : Place) : Prop where
  positive : 0 < depth
  bound : ∀ names entry, inner (place ++ names) = some entry → names.length < depth

section Places

variable {inner : Place → Option Entry} {flaw : Prop} {spent room : Nat} {place : Place}
  {name : String} {entry : Entry}

/-- What is there is near without spending anything. -/
theorem Near.of_there (isContents : IsContents inner) (there : inner place = some entry) :
    Near inner flaw spent place :=
  ⟨fun name member => (isContents.names there name member).isName, .inr (isContents.names there),
    place, entry, there, Nat.le_add_right _ _⟩

/-- Names behind the directory itself take up what they take up. -/
theorem Near.of_names (isContents : IsContents inner) (isName : ∀ name ∈ place, IsName name)
    (legal : flaw ∨ ∀ name ∈ place, IsKept name) : Near inner flaw (extent place) place :=
  ⟨isName, legal, [], _, isContents.root, Nat.le_add_left _ _⟩

/-- What is near is so with more bytes spent. -/
theorem Near.weaken (near : Near inner flaw spent place) {more : Nat} (enough : spent ≤ more) :
    Near inner flaw more place := by
  obtain ⟨other, entry, there, bound⟩ := near.bound
  exact ⟨near.isName, near.kept, other, entry, there, by omega⟩

/-- A name below a near place is near once its own bytes are spent. -/
theorem Near.concat (near : Near inner flaw spent place) (own : IsName name)
    (legal : flaw ∨ IsKept name) :
    Near inner flaw (spent + extent [name]) (place ++ [name]) := by
  obtain ⟨other, entry, there, bound⟩ := near.bound
  refine ⟨List.forall_mem_append.mpr ⟨near.isName, by simpa using own⟩, ?_, other, entry, there, ?_⟩
  · rcases near.kept, legal with ⟨flawed | kept, flawed | keptOwn⟩
    · exact .inl flawed
    · exact .inl flawed
    · exact .inl flawed
    · exact .inr (List.forall_mem_append.mpr ⟨kept, by simpa using keptOwn⟩)
  · rw [extent_append]
    omega

/-- A near place holds NUL only if there is a flaw. -/
theorem Near.flaw_of_hasNul (near : Near inner flaw spent place)
    (illegal : place.any System.hasNul = true) : flaw := by
  obtain ⟨name, member, nul⟩ := List.any_eq_true.mp illegal
  refine near.kept.resolve_right fun kept => ?_
  rw [(kept name member).legal] at nul
  contradiction

/-- A near place has a text that is short enough while there is room for what was spent. -/
theorem Near.short {system : System} {root : Place} (near : Near inner flaw spent place)
    (hosts : system.Hosts root inner room) (enough : spent ≤ room) (slash : Bool) :
    (spell (root ++ place) slash).utf8ByteSize < pathLimit := by
  obtain ⟨other, entry, there, bound⟩ := near.bound
  exact hosts.short there (by omega) slash

/-- Below a place the paths are shorter by one. -/
theorem Deep.below {depth : Nat} (deep : Deep inner (depth + 1) place)
    (there : inner (place ++ [name]) = some entry) : Deep inner depth (place ++ [name]) := by
  have one := deep.bound [name] entry there
  rw [List.length_singleton] at one
  refine ⟨by omega, fun names found below => ?_⟩
  rw [List.append_assoc] at below
  have more := deep.bound ([name] ++ names) found below
  rw [List.length_append, List.length_singleton] at more
  omega

/-- No path below is as long as the bound on depths. -/
theorem System.Hosts.deep {system : System} {root : Place} (hosts : system.Hosts root inner room)
    (isContents : IsContents inner) (place : Place) : Deep inner system.depthBound place := by
  have bound : system.tree.entries.length < system.depthBound := by
    rw [depthBound, linkLimit]
    omega
  refine ⟨by omega, fun names entry there => ?_⟩
  have within {above below : Place} {entry : Entry} (there : inner (above ++ below) = some entry) :
      ∃ entry, inner above = some entry := by
    induction below using List.reverseRecOn generalizing entry with
    | nil => exact ⟨entry, by simpa using there⟩
    | append_singleton front last ih =>
      rw [← List.append_assoc] at there
      exact ih (isContents.within _ _ _ there).1
  have long : (root ++ (place ++ names)).length ≤ system.tree.entries.length := by
    refine Tree.length_le_of_prefixes fun above below whole => ?_
    rcases List.append_eq_append_iff.mp whole with ⟨middle, front, -⟩ | ⟨middle, front, back⟩
    · by_cases last : middle = []
      · rw [last, List.append_nil] at front
        exact ⟨_, front ▸ hosts.get?_root isContents⟩
      · exact ⟨_, hosts.rooted above middle front.symm last⟩
    · rw [front, hosts.contents]
      exact within (back ▸ there)
  rw [List.length_append, List.length_append] at long
  omega

end Places

/-! ## Two places -/

/-- A name that is in the directory at a place, listed twice. -/
def Listed (inner : Place → Option Entry) (place : Place) (name other : String) : Prop :=
  name = other ∧ ∃ entry, inner (place ++ [name]) = some entry

/-- The text of something below a place, listed twice. -/
def Beneath (inner : Place → Option Entry) (place : Place) (text other : String) : Prop :=
  text = other ∧ ∃ names entry, names ≠ [] ∧ text = "/".intercalate names ∧
    inner (place ++ names) = some entry

/-- What one name of a pattern can match below a place, matched twice: nothing, or names. -/
def Matched (inner : Place → Option Entry) (flaw : Prop) (spent : Nat) (place : Place)
    (text other : String) : Prop :=
  text = other ∧ (text = "" ∨ ∃ names, names ≠ [] ∧ text = "/".intercalate names ∧
    Near inner flaw spent (place ++ names))

/-- Texts of one place below two others. -/
def Stands (old new : Place) (inner : Place → Option Entry) (flaw : Prop) (spent : Nat)
    (text other : String) : Prop :=
  ∃ place slash, Near inner flaw spent place ∧ text = spell (old ++ place) slash ∧
    other = spell (new ++ place) slash

section Matching

variable {before after : System} {old new : Place} {inner : Place → Option Entry} {flaw : Prop}
  {spent room : Nat} {place : Place} {slash directoriesOnly : Bool} {name : String}

variable (first : before.Hosts old inner room) (second : after.Hosts new inner room)
  (isContents : IsContents inner)

include first second isContents

/-- The directories at one place in two list the same names. -/
theorem list_paired (near : Near inner flaw spent place) (enough : spent ≤ room) :
    Paired flaw (Mirrors (Listed inner place)) (before.list (spell (old ++ place) slash))
      (after.list (spell (new ++ place) slash)) := by
  rw [first.list_spell isContents near.isName (near.short first enough slash),
    second.list_spell isContents near.isName (near.short second enough slash)]
  have names (system : System) (root : Place) (hosts : system.Hosts root inner room)
      (name : String) : name ∈ system.tree.names (root ++ place) ↔
        ∃ entry, inner (place ++ [name]) = some entry := by
    rw [Tree.mem_names_iff, List.append_assoc, hosts.contents]
  split
  · next illegal => exact .failed (near.flaw_of_hasNul illegal)
  split
  · refine .done ⟨fun name member => ?_, fun name member => ?_⟩
    · have there := (names before old first name).mp member
      exact ⟨name, (names after new second name).mpr there, rfl, there⟩
    · have there := (names after new second name).mp member
      exact ⟨name, (names before old first name).mpr there, rfl, there⟩
  · exact .done ⟨by simp, by simp⟩

/-- At both places a directory has the same candidates. -/
theorem candidates_paired (near : Near inner flaw spent place) (enough : spent ≤ room) :
    Paired flaw (Mirrors (Listed inner place))
      (before.candidates (spell (old ++ place) slash) directoriesOnly)
      (after.candidates (spell (new ++ place) slash) directoriesOnly) := by
  refine (list_paired first second isContents near enough).bind fun names others mirrors => ?_
  refine .done (mirrors.filter ?_)
  rintro name _ ⟨rfl, entry, there⟩
  have inside : Near inner flaw room (place ++ [name]) := .of_there isContents there
  have same : before.isDirectory (spell (old ++ (place ++ [name])) false) =
      after.isDirectory (spell (new ++ (place ++ [name])) false) := by
    have short := inside.short first (Nat.le_refl room) false
    have shortAfter := inside.short second (Nat.le_refl room) false
    rw [first.isDirectory_spell isContents inside.isName short,
      second.isDirectory_spell isContents inside.isName shortAfter]
  rw [joinText_name (first.isName_append near.isName), List.append_assoc,
    joinText_name (second.isName_append near.isName), List.append_assoc, same]

/-- The paths below one place in two are the same, once the depths are great enough. -/
theorem below_paired {depth depthAfter : Nat} (near : Near inner flaw room place)
    (deep : Deep inner depth place) (deepAfter : Deep inner depthAfter place) :
    Paired flaw (Mirrors (Beneath inner place))
      (before.below directoriesOnly depth (spell (old ++ place) slash))
      (after.below directoriesOnly depthAfter (spell (new ++ place) slash)) := by
  induction depth generalizing depthAfter place slash with
  | zero => exact absurd deep.positive (Nat.lt_irrefl 0)
  | succ depth ih =>
    cases depthAfter with
    | zero => exact absurd deepAfter.positive (Nat.lt_irrefl 0)
    | succ depthAfter =>
    rw [System.below, System.below]
    refine (candidates_paired first second isContents near (Nat.le_refl room)).bind
      fun names others mirrors => ?_
    have visible : Mirrors (Listed inner place) (names.filter (!System.isHidden ·))
        (others.filter (!System.isHidden ·)) :=
      mirrors.filter (by rintro name _ ⟨rfl, -⟩; rfl)
    refine Paired.bind (visible.mapM fun name other listed => ?_)
      fun groups otherGroups grouped => .done (Mirrors.flatten grouped)
    obtain ⟨rfl, entry, there⟩ := listed
    have inside : Near inner flaw room (place ++ [name]) := .of_there isContents there
    rw [joinText_name (first.isName_append near.isName), List.append_assoc,
      joinText_name (second.isName_append near.isName), List.append_assoc]
    refine (ih inside (deep.below there) (deepAfter.below there)).bind
      fun further otherFurther deeper => .done (.cons ?_ (deeper.map ?_))
    · exact ⟨rfl, [name], entry, by simp, by simp, there⟩
    · rintro text _ ⟨rfl, names, found, nonempty, rfl, below⟩
      have own := (isContents.within place name entry there).2.isName
      rw [List.append_assoc] at below
      exact ⟨rfl, name :: names, found, by simp, joinText_intercalate own nonempty, below⟩

/-- One name of a pattern matches the same below one place in two. -/
theorem matchesIn_paired (near : Near inner flaw spent place) (own : IsName name)
    (legal : flaw ∨ IsKept name) (enough : spent + extent [name] ≤ room) :
    Paired flaw (Mirrors (Matched inner flaw (spent + extent [name]) place))
      (before.matchesIn (spell (old ++ place) slash) name directoriesOnly)
      (after.matchesIn (spell (new ++ place) slash) name directoriesOnly) := by
  have inside : spent ≤ room := by omega
  rw [System.matchesIn, System.matchesIn]
  split
  · -- Two stars match the place itself and everything below.
    refine (below_paired first second isContents (near.weaken inside) (first.deep isContents place)
      (second.deep isContents place)).bind fun further otherFurther deeper => .done (.cons ?_ ?_)
    · exact ⟨rfl, .inl rfl⟩
    · refine deeper.imp ?_
      rintro text _ ⟨rfl, names, entry, nonempty, written, there⟩
      exact ⟨rfl, .inr ⟨names, nonempty, written, .of_there isContents there⟩⟩
  split
  · refine (candidates_paired first second isContents near inside).bind
      fun names others mirrors => .done ?_
    refine Mirrors.imp ((mirrors.filter ?_).filter ?_) ?_
    · rintro name _ ⟨rfl, -⟩
      rfl
    · rintro name _ ⟨rfl, -⟩
      rfl
    · rintro name _ ⟨rfl, entry, there⟩
      exact ⟨rfl, .inr ⟨[name], by simp, by simp, .of_there isContents there⟩⟩
  · have further := near.concat own legal
    have same : before.hasEntry (spell (old ++ (place ++ [name])) false) =
        after.hasEntry (spell (new ++ (place ++ [name])) false) := by
      rw [first.hasEntry_spell isContents further.isName (further.short first enough false),
        second.hasEntry_spell isContents further.isName (further.short second enough false)]
    rw [joinText_name (first.isName_append near.isName), List.append_assoc,
      joinText_name (second.isName_append near.isName), List.append_assoc, same]
    refine .done ?_
    split
    · exact .cons ⟨rfl, .inr ⟨[name], by simp, by simp, further⟩⟩ .nil
    · exact .nil

/-- One name of a pattern leads from texts of one place to texts of one place. -/
theorem matchesUnder_paired {directory other : String}
    (stands : Stands old new inner flaw spent directory other) (own : IsName name)
    (legal : flaw ∨ IsKept name) (enough : spent + extent [name] ≤ room) :
    Paired flaw (Mirrors (Stands old new inner flaw (spent + extent [name])))
      (before.matchesUnder name directoriesOnly directory)
      (after.matchesUnder name directoriesOnly other) := by
  obtain ⟨place, slash, near, rfl, rfl⟩ := stands
  refine (matchesIn_paired first second isContents near own legal enough).bind
    fun texts others matched => .done (matched.map ?_)
  rintro text _ ⟨rfl, rfl | ⟨names, nonempty, rfl, further⟩⟩
  · rw [joinText_empty (first.isName_append near.isName),
      joinText_empty (second.isName_append near.isName)]
    exact ⟨place, true, near.weaken (Nat.le_add_right _ _), rfl, rfl⟩
  · rw [joinText_spell (first.isName_append near.isName) slash nonempty,
      joinText_spell (second.isName_append near.isName) slash nonempty]
    exact ⟨place ++ names, false, further, by rw [List.append_assoc], by rw [List.append_assoc]⟩

/-- A pattern matches the same below two places whose own names hold no wildcards. -/
theorem matchesBelow_paired (plainOld : old.any Glob.hasMagic = false)
    (plainNew : new.any Glob.hasMagic = false) {parts : List String}
    (isName : ∀ part ∈ parts, IsName part) (legal : flaw ∨ ∀ part ∈ parts, IsKept part)
    (magic : parts.any Glob.hasMagic = true)
    (enough : extent parts ≤ room) :
    Paired flaw (Mirrors (Stands old new inner flaw (extent parts)))
      (before.matchesBelow "/" directoriesOnly (old ++ parts).reverse)
      (after.matchesBelow "/" directoriesOnly (new ++ parts).reverse) := by
  induction parts using List.reverseRecOn generalizing directoriesOnly with
  | nil => simp at magic
  | append_singleton outer name ih =>
    obtain ⟨others, own⟩ := List.forall_mem_append.mp isName
    have legalOuter : flaw ∨ ∀ part ∈ outer, IsKept part :=
      legal.imp_right fun kept => (List.forall_mem_append.mp kept).1
    have legalOwn : flaw ∨ IsKept name := legal.imp_right fun kept => kept name (by simp)
    rw [extent_append] at enough ⊢
    have directories : Paired flaw (Mirrors (Stands old new inner flaw (extent outer)))
        (before.directoriesOf "/" (old ++ outer).reverse)
        (after.directoriesOf "/" (new ++ outer).reverse) := by
      rw [System.directoriesOf, System.directoriesOf, List.reverse_reverse, List.reverse_reverse,
        ← toString_absolute, ← toString_absolute, hasMagic_toString, hasMagic_toString,
        List.any_append, List.any_append, plainOld, plainNew]
      cases magicOuter : outer.any Glob.hasMagic with
      | true => exact ih others legalOuter magicOuter (by omega)
      | false =>
        have near := Near.of_names isContents others legalOuter
        refine .done (.cons ⟨outer, false, near, ?_, ?_⟩ .nil)
        · rw [spell_false]
        · rw [spell_false]
    have turned (root : Place) : (root ++ (outer ++ [name])).reverse =
        name :: (root ++ outer).reverse := by simp
    rw [turned, turned, System.matchesBelow_cons, System.matchesBelow_cons]
    refine directories.bind fun found otherFound mirrors => ?_
    refine Paired.bind (mirrors.mapM fun directory other stands => ?_)
      fun groups otherGroups grouped => .done (Mirrors.flatten grouped)
    exact matchesUnder_paired first second isContents stands (own name (by simp)) legalOwn enough

end Matching

end CompletionServer.Files
