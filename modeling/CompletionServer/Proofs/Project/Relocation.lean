import CompletionServer.Proofs.Files.Matching
import CompletionServer.Proofs.Project.Sources
import Mathlib.Data.Set.List

/-!
# Projects that are moved

A project's directory is moved, in the same tree or to another one. Its sources are then the same
files below the new directory, in the same order, if no wildcard stands in the names of either
directory and no path becomes too long. The matches of a pattern begin with the directory's text, so
that their order is that of the texts behind it. Wildcards in the names of the directory itself take
part in matching, which is why they are excluded.
-/

namespace CompletionServer.Project

open Files Outcome

/-! ## Patterns that stay inside -/

/-- A pattern that stays below the directory it is seen from. -/
structure IsInner (pattern : String) : Prop where
  relative : (Path.ofString pattern).isAbsolute = false
  homeless : ∀ first ∈ (Path.ofString pattern).parts.head?, first.startsWith "~" = false
  inside : ".." ∉ (Path.ofString pattern).parts

section Patterns

variable {pattern : String}

/-- The parts of an inner pattern are names. -/
theorem IsInner.isName (isInner : IsInner pattern) :
    ∀ part ∈ (Path.ofString pattern).parts, IsName part := by
  intro part member
  obtain ⟨among, kept⟩ := List.mem_filter.mp member
  obtain ⟨nonempty, notHere⟩ : part ≠ "" ∧ part ≠ "." := by simpa using kept
  exact ⟨nonempty, slash_not_mem_of_mem_slashParts among, notHere,
    fun above => isInner.inside (above ▸ member)⟩

/-- An inner pattern has no home to expand. -/
theorem IsInner.expandHome (isInner : IsInner pattern) (system : System) :
    system.expandHome (.ofString pattern) = .ok (.ofString pattern) := by
  unfold System.expandHome
  split
  · next first rest _ parts =>
    have untilded := isInner.homeless first (by simp [parts])
    rw [if_neg (by simp [untilded])]
  · rfl

/-- An inner pattern joined to a directory adds its parts. -/
theorem IsInner.join (isInner : IsInner pattern) (root : Place) :
    (Path.absolute root).join (.ofString pattern) =
      .absolute (root ++ (Path.ofString pattern).parts) := by
  rw [Path.join, if_neg (by simp [isInner.relative])]
  rfl

/-- An inner pattern is resolved as its parts below the directory. -/
theorem IsInner.resolveIn (isInner : IsInner pattern) (system : System) (root : Place) :
    system.resolveIn (.absolute root) pattern =
      system.resolve (.absolute (root ++ (Path.ofString pattern).parts)) := by
  rw [System.resolveIn, isInner.expandHome, ok_bind, isInner.join]

/-- A pattern with wildcards has them in its names. -/
theorem any_hasMagic_parts (magic : Glob.hasMagic pattern = true) :
    (Path.ofString pattern).parts.any Glob.hasMagic = true := by
  obtain ⟨c, member, wild⟩ := List.any_eq_true.mp magic
  have other : c ≠ '/' := by
    rintro rfl
    contradiction
  obtain ⟨part, among, inside⟩ := exists_mem_slashParts member other
  have partMagic : Glob.hasMagic part = true := List.any_eq_true.mpr ⟨c, inside, wild⟩
  refine List.any_eq_true.mpr ⟨part, List.mem_filter.mpr ⟨among, ?_⟩, partMagic⟩
  have nonempty : part ≠ "" := by
    rintro rfl
    contradiction
  have notHere : part ≠ "." := by
    rintro rfl
    contradiction
  simp [nonempty, notHere]

end Patterns

/-! ## Files below a directory -/

/-- Whether a regular file is at a place below a directory. -/
def fileIn (inner : Place → Option Entry) (place : Place) : Bool :=
  !place.any System.hasNul && (lookAt inner place false).toOption.any Entry.isFile

/-- The obstacle in looking for a place below a directory, unless it is that nothing is there. -/
def obstacleAt? (inner : Place → Option Entry) (place : Place) : Option Obstacle :=
  match lookAt inner place false with
  | .ok _ => none
  | .error obstacle => if place.any System.hasNul || obstacle.isAbsence then none else some obstacle

/-- The text of names below a directory, with a slash at its end if asked. -/
def tail (place : Place) (slash : Bool) : String :=
  "/".intercalate place ++ if slash then "/" else ""

section Below

variable {system : System} {root place : Place} {inner : Place → Option Entry} {flaw : Prop}
  {spent room : Nat} {slash : Bool}

/-- A text below a directory leads to the file there. -/
theorem sourceFile?_spell (hosts : system.Hosts root inner room) (isContents : IsContents inner)
    (near : Near inner flaw spent place) (enough : spent ≤ room) :
    sourceFile? system (spell (root ++ place) slash) =
      match obstacleAt? inner place with
      | some obstacle => .error (.system (obstacle.error (spell (root ++ place) false)))
      | none => .ok (if fileIn inner place then some (spell (root ++ place) false) else none) := by
  have path : Path.ofString (spell (root ++ place) slash) = .absolute (root ++ place) :=
    ofString_spell (hosts.isName_append near.isName) slash
  rw [sourceFile?, path, hosts.resolve_absolute isContents near.isName,
    hosts.isFile_absolute isContents near.isName (near.short hosts enough false), obstacleAt?,
    fileIn, spell_false]
  cases place.any System.hasNul with
  | true => cases lookAt inner place false <;> rfl
  | false =>
    cases lookAt inner place false with
    | error obstacle => cases absent : obstacle.isAbsence <;> simp [absent] <;> rfl
    | ok entry => cases entry <;> rfl

/-- A place that is looked at is the file that the contents say, or none. -/
theorem fileOf?_spell (hosts : system.Hosts root inner room) (isContents : IsContents inner)
    (near : Near inner flaw spent place) (enough : spent ≤ room) :
    fileOf? system (spell (root ++ place) slash) =
      if fileIn inner place then some (spell (root ++ place) false) else none := by
  rw [fileOf?, sourceFile?_spell hosts isContents near enough, obstacleAt?, fileIn]
  cases place.any System.hasNul with
  | true => cases lookAt inner place false <;> rfl
  | false =>
    cases lookAt inner place false with
    | error obstacle => cases absent : obstacle.isAbsence <;> simp [absent] <;> rfl
    | ok entry => cases entry <;> rfl

/-- Looking for a place fails only if a file system cannot keep its names or a directory cannot be
entered. -/
theorem flaw_of_obstacleAt? (barred : ∀ other refusal, inner other = some (.barred refusal) → flaw)
    (near : Near inner flaw spent place) {obstacle : Obstacle}
    (met : obstacleAt? inner place = some obstacle) : flaw := by
  refine near.kept.elim id fun kept => ?_
  rw [obstacleAt?, lookAt] at met
  cases own : look inner [] place with
  | ok entry => simp [own] at met
  | error other =>
    rcases isAbsence_of_look kept own with absent | ⟨other, refusal, there⟩
    · simp [own, absent] at met
    · exact barred other refusal there

/-- No file is at the directory's own place. -/
theorem ne_nil_of_fileIn (isContents : IsContents inner) (file : fileIn inner place = true) :
    place ≠ [] := by
  rintro rfl
  simp [fileIn, lookAt, look, isContents.root, Except.toOption, Entry.isFile] at file

/-- What stands below a directory is spelled behind the spelling of the directory. -/
theorem spell_append (nonempty : place ≠ []) :
    spell (root ++ place) slash = spell root true ++ tail place slash := by
  rw [spell, toString_absolute_append root nonempty, tail, String.append_assoc]
  cases slash <;> simp [nonempty]

/-- The names of a place are read back from its text. -/
theorem parts_tail (isName : ∀ name ∈ place, IsName name) (nonempty : place ≠ []) :
    (Path.ofString (tail place slash)).parts = place := by
  have whole : spell ([] ++ place) slash = "/" ++ tail place slash := spell_append nonempty
  have parts : (Path.ofString ("/" ++ tail place slash)).parts =
      (Path.ofString (tail place slash)).parts := by
    rw [Path.ofString, Path.ofString, slashParts_slash_append]
    simp
  rw [← parts, ← whole, List.nil_append, ofString_spell isName]
  rfl

/-- Texts behind a common front are in the order of the texts. -/
theorem le_of_append_le {front text other : String} (ordered : front ++ text ≤ front ++ other) :
    text ≤ other := by
  rw [← not_lt, String.lt_iff_toList_lt] at ordered ⊢
  intro before
  rw [String.toList_append, String.toList_append] at ordered
  exact ordered (List.append_left_lt before)

/-- The files that texts below a directory lead to, by the parts of the texts behind it. -/
theorem exists_tails (hosts : system.Hosts root inner room) (isContents : IsContents inner)
    {texts : List String} (sorted : texts.Pairwise (· ≤ ·))
    (each : ∀ text ∈ texts, ∃ place slash, Near inner flaw room place ∧
      text = spell (root ++ place) slash) :
    ∃ tails : List String, tails.Pairwise (· ≤ ·) ∧
      texts.filterMap (fileOf? system) =
        tails.map (fun tail => spell (root ++ (Path.ofString tail).parts) false) ∧
      (∀ text ∈ tails, ∀ name ∈ (Path.ofString text).parts, IsName name) ∧
      ∀ text, text ∈ tails ↔ ∃ place slash, Near inner flaw room place ∧ fileIn inner place = true ∧
        text = tail place slash ∧ spell (root ++ place) slash ∈ texts := by
  have split {text : String} (member : text ∈ texts) (some : (fileOf? system text).isSome = true) :
      ∃ place slash, Near inner flaw room place ∧ fileIn inner place = true ∧
        text = spell root true ++ tail place slash ∧ spell (root ++ place) slash ∈ texts := by
    obtain ⟨place, slash, near, rfl⟩ := each text member
    rw [fileOf?_spell hosts isContents near (Nat.le_refl room)] at some
    have file : fileIn inner place = true := by
      by_contra absent
      simp [absent] at some
    exact ⟨place, slash, near, file, spell_append (ne_nil_of_fileIn isContents file), member⟩
  -- Only the texts of files lie behind the directory's text and a slash: that of the directory
  -- itself may be among the matches, without the slash.
  let kept := texts.filter fun text => (fileOf? system text).isSome
  have fronted : kept ∈ Set.range (List.map (spell root true ++ ·)) := by
    rw [Set.range_list_map]
    intro text member
    obtain ⟨among, some⟩ := List.mem_filter.mp member
    obtain ⟨place, slash, -, -, same, -⟩ := split among some
    exact ⟨tail place slash, same.symm⟩
  obtain ⟨tails, same⟩ := fronted
  have member_iff (text : String) : text ∈ tails ↔
      ∃ place slash, Near inner flaw room place ∧ fileIn inner place = true ∧
        text = tail place slash ∧ spell (root ++ place) slash ∈ texts := by
    have fronted : text ∈ tails ↔ spell root true ++ text ∈ kept := by
      rw [← same]
      exact (List.mem_map_of_injective fun _ _ => String.append_right_inj _ |>.mp).symm
    rw [fronted]
    constructor
    · intro member
      obtain ⟨among, some⟩ := List.mem_filter.mp member
      obtain ⟨place, slash, near, file, whole, listed⟩ := split among some
      exact ⟨place, slash, near, file, String.append_right_inj _ |>.mp whole, listed⟩
    · rintro ⟨place, slash, near, file, rfl, listed⟩
      rw [← spell_append (ne_nil_of_fileIn isContents file)]
      refine List.mem_filter.mpr ⟨listed, ?_⟩
      rw [fileOf?_spell hosts isContents near (Nat.le_refl room), if_pos file]
      rfl
  refine ⟨tails, ?_, ?_, fun text member => ?_, member_iff⟩
  · have ascending : kept.Pairwise (· ≤ ·) := sorted.filter _
    rw [← same, List.pairwise_map] at ascending
    exact ascending.imp le_of_append_le
  · calc texts.filterMap (fileOf? system)
      _ = kept.filterMap (fileOf? system) := by
        rw [List.filterMap_filter]
        refine List.filterMap_congr fun text _ => ?_
        cases fileOf? system text <;> simp
      _ = tails.filterMap fun text => fileOf? system (spell root true ++ text) := by
        rw [← same, List.filterMap_map, Function.comp_def]
      _ = tails.filterMap fun text =>
          some (spell (root ++ (Path.ofString text).parts) false) := by
        refine List.filterMap_congr fun text member => ?_
        obtain ⟨place, slash, near, file, rfl, -⟩ := (member_iff text).mp member
        have nonempty := ne_nil_of_fileIn isContents file
        rw [← spell_append nonempty, fileOf?_spell hosts isContents near (Nat.le_refl room),
          if_pos file, parts_tail near.isName nonempty]
      _ = tails.map fun text => spell (root ++ (Path.ofString text).parts) false :=
        congrFun List.filterMap_eq_map' tails
  · obtain ⟨place, slash, near, file, rfl, -⟩ := (member_iff text).mp member
    rw [parts_tail near.isName (ne_nil_of_fileIn isContents file)]
    exact near.isName

end Below

/-! ## Files in two places -/

/-- Paths of the same places below two directories, in the same order of first occurrences. -/
def Correspond (old new : Place) (files others : List String) : Prop :=
  ∃ places moved : List Place,
    files = places.map (fun place => spell (old ++ place) false) ∧
    others = moved.map (fun place => spell (new ++ place) false) ∧
    places.eraseDups = moved.eraseDups ∧
    ∀ place ∈ places ++ moved, ∀ name ∈ place, IsName name

namespace Correspond

variable {old new : Place} {files others : List String}

/-- No files correspond to no files. -/
theorem nil : Correspond old new [] [] :=
  ⟨[], [], rfl, rfl, rfl, by simp⟩

/-- Files that correspond stay so with others that do behind them. -/
theorem append {further otherFurther : List String} (here : Correspond old new files others)
    (later : Correspond old new further otherFurther) :
    Correspond old new (files ++ further) (others ++ otherFurther) := by
  obtain ⟨places, moved, rfl, rfl, same, isName⟩ := here
  obtain ⟨morePlaces, moreMoved, rfl, rfl, sameMore, isNameMore⟩ := later
  refine ⟨places ++ morePlaces, moved ++ moreMoved, by simp, by simp, ?_, fun place member => ?_⟩
  · rw [eraseDups_append_eq, eraseDups_append_eq, same, sameMore]
  · rcases List.mem_append.mp member with among | among <;>
      rcases List.mem_append.mp among with own | other
    · exact isName place (List.mem_append_left _ own)
    · exact isNameMore place (List.mem_append_left _ other)
    · exact isName place (List.mem_append_right _ own)
    · exact isNameMore place (List.mem_append_right _ other)

/-- The files of patterns correspond if those of each pattern do. -/
theorem flatMap {expand expandOther : String → List String} {patterns : List String}
    (each : ∀ pattern ∈ patterns, Correspond old new (expand pattern) (expandOther pattern)) :
    Correspond old new (patterns.flatMap expand) (patterns.flatMap expandOther) := by
  induction patterns with
  | nil => exact nil
  | cons pattern rest ih =>
    obtain ⟨here, later⟩ := List.forall_mem_cons.mp each
    rw [List.flatMap_cons, List.flatMap_cons]
    exact here.append (ih later)

/-- Paths of places without duplicates are those of the places without duplicates. -/
theorem eraseDups_map_spell {root : Place} (isName : ∀ name ∈ root, IsName name)
    {places : List Place} (isNames : ∀ place ∈ places, ∀ name ∈ place, IsName name) :
    (places.map fun place => spell (root ++ place) false).eraseDups =
      places.eraseDups.map fun place => toString (Path.absolute (root ++ place)) := by
  simp only [← spell_false]
  refine eraseDups_map_of_injOn fun place member other memberOther same => ?_
  have read := congrArg Path.ofString same
  rw [ofString_spell (List.forall_mem_append.mpr ⟨isName, isNames place member⟩),
    ofString_spell (List.forall_mem_append.mpr ⟨isName, isNames other memberOther⟩)] at read
  exact List.append_cancel_left (congrArg Path.parts read)

/-- Files that correspond name the same places after repetitions are dropped. -/
theorem exists_eraseDups (correspond : Correspond old new files others)
    (isName : ∀ name ∈ old, IsName name) (isNameNew : ∀ name ∈ new, IsName name) :
    ∃ places : List Place,
      files.eraseDups = places.map (fun place => toString (Path.absolute (old ++ place))) ∧
      others.eraseDups = places.map (fun place => toString (Path.absolute (new ++ place))) := by
  obtain ⟨places, moved, rfl, rfl, same, isNames⟩ := correspond
  obtain ⟨isNamePlaces, isNameMoved⟩ := List.forall_mem_append.mp isNames
  refine ⟨places.eraseDups, eraseDups_map_spell isName isNamePlaces, ?_⟩
  rw [same]
  exact eraseDups_map_spell isNameNew isNameMoved

end Correspond

/-! ## Patterns in two places -/

section Two

variable {before after : System} {old new : Place} {inner : Place → Option Entry} {flaw : Prop}
  {room : Nat} {pattern : String}

variable (first : before.Hosts old inner room) (second : after.Hosts new inner room)
  (isContents : IsContents inner)

include first second isContents

/-- A pattern matches texts of the same places in two places. -/
theorem patternMatches_paired (isInner : IsInner pattern)
    (legal : flaw ∨ ∀ part ∈ (Path.ofString pattern).parts, IsKept part)
    (plain : Glob.hasMagic pattern = true →
      old.any Glob.hasMagic = false ∧ new.any Glob.hasMagic = false)
    (enough : extent (Path.ofString pattern).parts ≤ room) :
    Paired flaw (Mirrors (Stands old new inner flaw (extent (Path.ofString pattern).parts)))
      (patternMatches before (.absolute old) pattern)
      (patternMatches after (.absolute new) pattern) := by
  rw [patternMatches, patternMatches]
  split
  · next magic =>
    obtain ⟨plainOld, plainNew⟩ := plain magic
    rw [isInner.expandHome, isInner.expandHome, ok_bind, ok_bind, isInner.join, isInner.join,
      System.glob, System.glob]
    refine (matchesBelow_paired first second isContents plainOld plainNew isInner.isName legal
      (any_hasMagic_parts magic) enough).bind fun found others mirrors => .done ⟨?_, ?_⟩
    · intro text member
      obtain ⟨other, among, stands⟩ := mirrors.there text (List.mem_mergeSort.mp member)
      exact ⟨other, List.mem_mergeSort.mpr among, stands⟩
    · intro other member
      obtain ⟨text, among, stands⟩ := mirrors.back other (List.mem_mergeSort.mp member)
      exact ⟨text, List.mem_mergeSort.mpr among, stands⟩
  · rw [isInner.resolveIn, isInner.resolveIn, first.resolve_absolute isContents isInner.isName,
      second.resolve_absolute isContents isInner.isName]
    have near := Near.of_names isContents isInner.isName legal
    split
    · next illegal => exact .failed (near.flaw_of_hasNul illegal)
    · refine .done (.cons ⟨(Path.ofString pattern).parts, false, near, ?_, ?_⟩ .nil)
      · rw [spell_false]
      · rw [spell_false]

/-- Nothing fails for a pattern in one place if nothing does in the other. -/
theorem passes_iff
    (paired : Paired flaw (Mirrors (Stands old new inner flaw room))
      (patternMatches before (.absolute old) pattern)
      (patternMatches after (.absolute new) pattern)) :
    Passes before (.absolute old) pattern ↔ Passes after (.absolute new) pattern := by
  have looked {text other : String} (stands : Stands old new inner flaw room text other) :
      (∃ file?, sourceFile? before text = .ok file?) ↔
        ∃ file?, sourceFile? after other = .ok file? := by
    obtain ⟨place, slash, near, rfl, rfl⟩ := stands
    rw [sourceFile?_spell first isContents near (Nat.le_refl room),
      sourceFile?_spell second isContents near (Nat.le_refl room)]
    cases obstacleAt? inner place <;> simp
  constructor
  · rintro ⟨texts, matched, passes⟩
    rw [matched] at paired
    obtain ⟨others, matchedOthers, mirrors⟩ := paired.exists_right
    refine ⟨others, matchedOthers, fun other member => ?_⟩
    obtain ⟨text, among, stands⟩ := mirrors.back other member
    exact (looked stands).mp (passes text among)
  · rintro ⟨others, matched, passes⟩
    rw [matched] at paired
    obtain ⟨texts, matchedTexts, mirrors⟩ := paired.exists_left
    refine ⟨texts, matchedTexts, fun text member => ?_⟩
    obtain ⟨other, among, stands⟩ := mirrors.there text member
    exact (looked stands).mpr (passes other among)

omit second in
/-- Nothing fails for a pattern whose names a file system can keep, if every directory can be
entered. -/
theorem passes_of_sound (sound : ¬flaw)
    (barred : ∀ other refusal, inner other = some (.barred refusal) → flaw)
    (paired : Paired flaw (Mirrors (Stands old new inner flaw room))
      (patternMatches before (.absolute old) pattern)
      (patternMatches after (.absolute new) pattern)) :
    Passes before (.absolute old) pattern := by
  cases matched : patternMatches before (.absolute old) pattern with
  | error fault =>
    rw [matched] at paired
    exact absurd paired.flaw_of_error.1 sound
  | ok texts =>
    rw [matched] at paired
    obtain ⟨others, -, mirrors⟩ := paired.exists_right
    refine ⟨texts, matched, fun text member => ?_⟩
    obtain ⟨_, -, place, slash, near, rfl, -⟩ := mirrors.there text member
    rw [sourceFile?_spell first isContents near (Nat.le_refl room)]
    cases met : obstacleAt? inner place with
    | none => exact ⟨_, rfl⟩
    | some obstacle => exact absurd (flaw_of_obstacleAt? barred near met) sound

omit isContents in
/-- Texts of one place below two others are matched together. -/
theorem mem_iff_of_mirrors {texts others : List String}
    (mirrors : Mirrors (Stands old new inner flaw room) texts others) {place : Place}
    (near : Near inner flaw room place) (nonempty : place ≠ []) (slash : Bool) :
    spell (old ++ place) slash ∈ texts ↔ spell (new ++ place) slash ∈ others := by
  constructor
  · intro member
    obtain ⟨other, among, again, slash', nearAgain, same, rfl⟩ := mirrors.there _ member
    obtain ⟨whole, rfl⟩ := spell_inj (first.isName_append near.isName)
      (first.isName_append nearAgain.isName) (by simp [nonempty]) same
    rwa [List.append_cancel_left whole]
  · intro member
    obtain ⟨text, among, again, slash', nearAgain, rfl, same⟩ := mirrors.back _ member
    obtain ⟨whole, rfl⟩ := spell_inj (second.isName_append near.isName)
      (second.isName_append nearAgain.isName) (by simp [nonempty]) same
    rwa [List.append_cancel_left whole]

/-- A pattern leads to the same files in two places, in the same order of first occurrences. -/
theorem correspond_filesOf
    (paired : Paired flaw (Mirrors (Stands old new inner flaw room))
      (patternMatches before (.absolute old) pattern)
      (patternMatches after (.absolute new) pattern)) :
    Correspond old new (filesOf before (.absolute old) pattern)
      (filesOf after (.absolute new) pattern) := by
  cases matched : patternMatches before (.absolute old) pattern with
  | error fault =>
    cases matchedAfter : patternMatches after (.absolute new) pattern with
    | error _ =>
      rw [filesOf, filesOf, matchesOf, matchesOf, matched, matchedAfter]
      exact Correspond.nil
    | ok _ =>
      rw [matched, matchedAfter] at paired
      cases paired
  | ok texts =>
    rw [matched] at paired
    obtain ⟨others, matchedAfter, mirrors⟩ := paired.exists_right
    obtain ⟨tails, sorted, files, isName, member_iff⟩ :=
      exists_tails first isContents (pairwise_patternMatches matched) fun text member => by
        obtain ⟨_, -, place, slash, near, rfl, -⟩ := mirrors.there text member
        exact ⟨place, slash, near, rfl⟩
    obtain ⟨tailsAfter, sortedAfter, filesAfter, isNameAfter, member_iff_after⟩ :=
      exists_tails second isContents (pairwise_patternMatches matchedAfter) fun other member => by
        obtain ⟨_, -, place, slash, near, -, rfl⟩ := mirrors.back other member
        exact ⟨place, slash, near, rfl⟩
    -- How often a text occurs may differ, as the directories are listed in different orders.
    have same : tails.eraseDups = tailsAfter.eraseDups := by
      refine eraseDups_eq_of_sorted sorted sortedAfter fun text => ?_
      rw [member_iff, member_iff_after]
      refine exists_congr fun place => exists_congr fun slash => ?_
      refine and_congr_right fun near => and_congr_right fun file => and_congr_right fun _ => ?_
      exact mem_iff_of_mirrors first second mirrors near
        (ne_nil_of_fileIn isContents file) slash
    refine ⟨tails.map fun text => (Path.ofString text).parts,
      tailsAfter.map fun text => (Path.ofString text).parts, ?_, ?_, ?_, ?_⟩
    · rw [filesOf, matchesOf, matched, List.map_map]
      exact files
    · rw [filesOf, matchesOf, matchedAfter, List.map_map]
      exact filesAfter
    · rw [← eraseDups_map_eraseDups, same, eraseDups_map_eraseDups]
    · rw [List.forall_mem_append, List.forall_mem_map, List.forall_mem_map]
      exact ⟨isName, isNameAfter⟩

end Two

/-! ## Moving a directory -/

/-- A directory without links stands at two places, perhaps of two systems. -/
structure Moved (before : System) (old : Place) (after : System) (new : Place) : Prop where
  tidy : before.tree.IsTidy
  tidyAfter : after.tree.IsTidy
  directory : before.tree.get? old = some .directory
  same : ∀ place, before.tree.get? (old ++ place) = after.tree.get? (new ++ place)
  unlinked : ∀ place target, before.tree.get? (old ++ place) ≠ some (.link target)

/-- Every path to something in a directory leaves room for the names of a pattern. -/
def LeavesRoom (system : System) (root : Place) (pattern : String) : Prop :=
  ∀ place entry, system.tree.get? (root ++ place) = some entry →
    extent (root ++ place) + extent (Path.ofString pattern).parts + 1 < pathLimit

/-- A pattern has room if the paths of all entries leave it. -/
theorem leavesRoom_of_entries {system : System} {root : Place} {pattern : String}
    (below : root ≠ []) (room : ∀ pair ∈ system.tree.entries,
      extent pair.1 + extent (Path.ofString pattern).parts + 1 < pathLimit) :
    LeavesRoom system root pattern := by
  intro place entry there
  exact room _ (Tree.mem_entries_of_get? there (by simp [below]))

/-- A file system can keep all names of a pattern. -/
def IsKeptPattern (pattern : String) : Prop :=
  ∀ part ∈ (Path.ofString pattern).parts, IsKept part

/-- Whether a file system can keep the names of a pattern can be decided. -/
instance (pattern : String) : Decidable (IsKeptPattern pattern) :=
  inferInstanceAs (Decidable (∀ part ∈ (Path.ofString pattern).parts, IsKept part))

/-- Some directory below a place cannot be entered. -/
def HasBarred (system : System) (root : Place) : Prop :=
  ∃ place refusal, system.tree.get? (root ++ place) = some (.barred refusal)

namespace Moved

variable {before after : System} {old new : Place} {pattern : String} {patterns : List String}

/-- What is in a directory that was moved are contents. -/
theorem isContents (moved : Moved before old after new) :
    IsContents fun place => before.tree.get? (old ++ place) :=
  moved.tidy.isContents moved.directory moved.unlinked

/-- A directory that was moved hosts its contents where it was. -/
theorem hosts (moved : Moved before old after new) (room : LeavesRoom before old pattern) :
    before.Hosts old (fun place => before.tree.get? (old ++ place))
      (extent (Path.ofString pattern).parts) :=
  ⟨fun _ => rfl, moved.tidy.isRooted moved.directory, moved.tidy.names moved.directory, room⟩

/-- Where a directory was moved to is a directory. -/
theorem directoryAfter (moved : Moved before old after new) :
    after.tree.get? new = some .directory := by
  have own := moved.same []
  rwa [List.append_nil, List.append_nil, moved.directory, eq_comm] at own

/-- A directory that was moved hosts its contents where it is now. -/
theorem hostsAfter (moved : Moved before old after new) (room : LeavesRoom after new pattern) :
    after.Hosts new (fun place => before.tree.get? (old ++ place))
      (extent (Path.ofString pattern).parts) := by
  refine ⟨fun place => (moved.same place).symm, moved.tidyAfter.isRooted moved.directoryAfter,
    moved.tidyAfter.names moved.directoryAfter, fun place entry there => ?_⟩
  exact room place entry (moved.same place ▸ there)

/-- Where a pattern in two places leads to, and that it fails in both if it does in one. -/
theorem expands_pattern (moved : Moved before old after new) (isInner : IsInner pattern)
    (plain : Glob.hasMagic pattern = true →
      old.any Glob.hasMagic = false ∧ new.any Glob.hasMagic = false)
    (room : LeavesRoom before old pattern) (roomAfter : LeavesRoom after new pattern) :
    Correspond old new (filesOf before (.absolute old) pattern)
        (filesOf after (.absolute new) pattern) ∧
      (Passes before (.absolute old) pattern ↔ Passes after (.absolute new) pattern) ∧
      (IsKeptPattern pattern → ¬HasBarred before old → Passes before (.absolute old) pattern) := by
  have first := moved.hosts room
  have second := moved.hostsAfter roomAfter
  have legal : (¬IsKeptPattern pattern ∨ HasBarred before old) ∨ IsKeptPattern pattern := by tauto
  have paired := patternMatches_paired first second moved.isContents isInner legal plain
    (Nat.le_refl _)
  refine ⟨correspond_filesOf first second moved.isContents paired,
    passes_iff first second moved.isContents paired, fun kept entered => ?_⟩
  exact passes_of_sound first moved.isContents (by tauto)
    (fun place refusal there => .inr ⟨place, refusal, there⟩) paired

end Moved

/-- A directory without links stands at two places, and patterns that stay inside are expanded in
both. The paths are not too long for the system, and no wildcard is in the names of either place if
there is one in a pattern.

Then the sources are the paths of the same files below the two places, in the same order. Only a
pattern with a name that no file system can keep, or a directory that cannot be entered, makes this
fail, and then it fails in both. -/
theorem relocation_keeps_sources {before after : System} {old new : Place} {patterns : List String}
    (moved : Moved before old after new) (isInner : ∀ pattern ∈ patterns, IsInner pattern)
    (plain : ∀ pattern ∈ patterns, Glob.hasMagic pattern = true →
      old.any Glob.hasMagic = false ∧ new.any Glob.hasMagic = false)
    (room : ∀ pattern ∈ patterns, LeavesRoom before old pattern ∧ LeavesRoom after new pattern) :
    (∃ places : List Place,
      expandSources before (.absolute old) patterns =
        .ok (places.map fun place => toString (Path.absolute (old ++ place))) ∧
      expandSources after (.absolute new) patterns =
        .ok (places.map fun place => toString (Path.absolute (new ++ place)))) ∨
    ((∃ pattern ∈ patterns, ¬IsKeptPattern pattern) ∨ HasBarred before old) ∧
      (∃ fault, expandSources before (.absolute old) patterns = .error fault) ∧
      ∃ fault, expandSources after (.absolute new) patterns = .error fault := by
  have each (pattern : String) (member : pattern ∈ patterns) :=
    moved.expands_pattern (isInner pattern member) (plain pattern member) (room pattern member).1
      (room pattern member).2
  by_cases passes : ∀ pattern ∈ patterns, Passes before (.absolute old) pattern
  · have passesAfter : ∀ pattern ∈ patterns, Passes after (.absolute new) pattern :=
      fun pattern member => (each pattern member).2.1.mp (passes pattern member)
    have correspond := Correspond.flatMap fun pattern member => (each pattern member).1
    obtain ⟨places, files, filesAfter⟩ := correspond.exists_eraseDups
      (fun name member => (moved.tidy.names moved.directory name member).isName)
      fun name member => (moved.tidyAfter.names moved.directoryAfter name member).isName
    refine .inl ⟨places, ?_, ?_⟩
    · rw [expandSources_eq passes, files]
    · rw [expandSources_eq passesAfter, filesAfter]
  · refine .inr ⟨?_, ?_, ?_⟩
    · by_contra! sound
      exact passes fun pattern member =>
        (each pattern member).2.2 (sound.1 pattern member) sound.2
    · cases listed : expandSources before (.absolute old) patterns with
      | error fault => exact ⟨fault, rfl⟩
      | ok files => exact absurd (passes_of_expandSources listed) passes
    · cases listed : expandSources after (.absolute new) patterns with
      | error fault => exact ⟨fault, rfl⟩
      | ok files =>
        have passesAfter := passes_of_expandSources listed
        exact absurd
          (fun pattern member => (each pattern member).2.1.mpr (passesAfter pattern member)) passes

/-- A project with a directory in it, below some directory and beside other entries. -/
def projectIn (others : List (Place × Entry)) (root : Place) : System :=
  ⟨⟨others ++ [(root, .directory), (root ++ ["Main.swift"], .file []),
      (root ++ ["Views"], .directory), (root ++ ["Views", "List.swift"], .file [])]⟩, [], "", []⟩

/-- A project is moved into another directory, and its files are found there in the same order. -/
theorem relocation_keeps_sources_nested :
    let before := projectIn [] ["App"]
    let after := projectIn [(["home"], .directory)] ["home", "Copy"]
    let patterns := ["Views/List.swift", "**/*.swift"]
    Moved before ["App"] after ["home", "Copy"] ∧
      ∃ places : List Place,
        expandSources before (.absolute ["App"]) patterns =
          .ok (places.map fun place => toString (Path.absolute (["App"] ++ place))) ∧
        expandSources after (.absolute ["home", "Copy"]) patterns =
          .ok (places.map fun place => toString (Path.absolute (["home", "Copy"] ++ place))) ∧
        places.map (fun place => toString (Path.absolute (["App"] ++ place))) =
          ["/App/Views/List.swift", "/App/Main.swift"] := by
  intro before after patterns
  have moved : Moved before ["App"] after ["home", "Copy"] := by
    have same : before.tree.under ["App"] = after.tree.under ["home", "Copy"] := by rfl
    refine ⟨by decide +kernel, by decide +kernel, rfl, fun place => ?_,
      fun place target there => ?_⟩
    · rw [Tree.get?_append (by simp), Tree.get?_append (by simp), same]
    · have member := Tree.mem_entries_of_get? there (by simp)
      simp [before, projectIn] at member
  have isInner : ∀ pattern ∈ patterns, IsInner pattern := by
    simp only [patterns, List.forall_mem_cons]
    refine ⟨⟨?_, ?_, ?_⟩, ⟨?_, ?_, ?_⟩, by simp⟩ <;> decide +kernel
  have plain (pattern : String) (_ : pattern ∈ patterns) (_ : Glob.hasMagic pattern = true) :
      ["App"].any Glob.hasMagic = false ∧ ["home", "Copy"].any Glob.hasMagic = false := by
    decide +kernel
  have room : ∀ pattern ∈ patterns,
      LeavesRoom before ["App"] pattern ∧ LeavesRoom after ["home", "Copy"] pattern := by
    have fits : ∀ pattern ∈ patterns, ∀ pair ∈ before.tree.entries ++ after.tree.entries,
        extent pair.1 + extent (Path.ofString pattern).parts + 1 < pathLimit := by decide +kernel
    intro pattern member
    obtain ⟨fitsBefore, fitsAfter⟩ := List.forall_mem_append.mp (fits pattern member)
    exact ⟨leavesRoom_of_entries (by simp) fitsBefore, leavesRoom_of_entries (by simp) fitsAfter⟩
  have kept : ∀ pattern ∈ patterns, IsKeptPattern pattern := by decide +kernel
  have entered : ¬HasBarred before ["App"] := by
    rintro ⟨place, refusal, there⟩
    have member := Tree.mem_entries_of_get? there (by simp)
    simp [before, projectIn] at member
  have named : patternMatches before (.absolute ["App"]) "Views/List.swift" =
      .ok ["/App/Views/List.swift"] :=
    eq_ok_of_toOption (by decide +kernel)
  have matched : patternMatches before (.absolute ["App"]) "**/*.swift" =
      .ok ["/App/Main.swift", "/App/Views/List.swift"] := by
    rw [patternMatches_of_magic (by decide)]
    exact eq_ok_of_toOption (by decide +kernel)
  have passes : ∀ pattern ∈ patterns, Passes before (.absolute ["App"]) pattern := by
    intro pattern member
    exact (moved.expands_pattern (isInner pattern member) (plain pattern member)
      (room pattern member).1 (room pattern member).2).2.2 (kept pattern member) entered
  refine ⟨moved, ?_⟩
  rcases relocation_keeps_sources moved isInner plain room with
    ⟨places, files, filesAfter⟩ | ⟨⟨pattern, member, unkept⟩ | barred, -⟩
  · refine ⟨places, files, filesAfter, ?_⟩
    rw [expandSources_eq passes] at files
    rw [← Except.ok.inj files]
    simp only [patterns, List.flatMap_cons, List.flatMap_nil, filesOf, matchesOf, named, matched,
      Except.toOption, Option.getD_some]
    decide +kernel
  · exact absurd (kept pattern member) unkept
  · exact absurd barred entered

/-- A directory whose name holds wildcards, beside one that the name matches. -/
def bracketedFiles : System :=
  ⟨⟨[(["a[b]"], .directory), (["a[b]", "x.swift"], .file []), (["ab"], .directory),
      (["ab", "y.swift"], .file [])]⟩, [], "", []⟩

/-- Wildcards in the name of the directory lead elsewhere. -/
theorem sources_of_bracketed_directory :
    expandSources bracketedFiles (.absolute ["a[b]"]) ["*.swift"] = .ok ["/ab/y.swift"] := by
  have matched : patternMatches bracketedFiles (.absolute ["a[b]"]) "*.swift" =
      .ok ["/ab/y.swift"] := by
    rw [patternMatches_of_magic (by decide)]
    exact eq_ok_of_toOption (by decide +kernel)
  have passes : ∀ pattern ∈ ["*.swift"],
      Passes bracketedFiles (.absolute ["a[b]"]) pattern := by
    rw [List.forall_mem_singleton]
    refine ⟨_, matched, ?_⟩
    simp only [← isOk_iff]
    decide +kernel
  rw [expandSources_eq passes, List.flatMap_singleton, filesOf, matchesOf, matched]
  exact eq_ok_of_toOption (by decide +kernel)

end CompletionServer.Project
