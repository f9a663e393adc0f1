import CompletionServer.Project.Sources
import CompletionServer.Proofs.Outcome
import Mathlib.Data.List.Flatten
import Mathlib.Data.List.Nodup
import Mathlib.Data.List.Sort
import Mathlib.Data.Prod.Lex
import Mathlib.Data.String.Basic
import Mathlib.Order.WellFounded

/-!
# Which source files a project has, and in which order

The patterns of a project lead to files through their matches. `LeadsAt` says of a pattern's number
and a match's number that they lead to a file, and the list of a project's sources is described by
it alone: a file is listed exactly if some match leads to it, and the files are in the order of the
first matches that do.
-/

namespace CompletionServer.Project

open Files

/-! ## First occurrences -/

section Occurrences

variable {α β : Type}

/-- Induction for functions that go on with a part of the rest. -/
theorem filterInduction {motive : List α → Prop} (nil : motive [])
    (cons : ∀ item rest, (∀ passes : α → Bool, motive (rest.filter passes)) →
      motive (item :: rest)) (items : List α) : motive items := by
  induction length : items.length using Nat.strong_induction_on generalizing items with
  | _ bound ih =>
    cases items with
    | nil => exact nil
    | cons item rest =>
      refine cons item rest fun passes => ih _ ?_ _ rfl
      have shorter := List.length_filter_le passes rest
      rw [List.length_cons] at length
      omega

variable [BEq α] [LawfulBEq α]

/-- What is to be left out can be left out before or after duplicates are. -/
theorem eraseDups_filter (passes : α → Bool) (items : List α) :
    (items.filter passes).eraseDups = items.eraseDups.filter passes := by
  induction items using filterInduction with
  | nil => rfl
  | cons item rest ih =>
    have others := ih fun other => !other == item
    by_cases kept : passes item = true
    · rw [List.filter_cons_of_pos kept, List.eraseDups_cons, List.eraseDups_cons,
        List.filter_cons_of_pos kept, ← others, List.filter_filter, List.filter_filter]
      simp only [Bool.and_comm]
    · have absent : (rest.filter passes).filter (fun other => !other == item) =
          rest.filter passes := by
        refine List.filter_eq_self.mpr fun other member => ?_
        have passed := (List.mem_filter.mp member).2
        have differs : other ≠ item := fun same => kept (same ▸ passed)
        simpa using differs
      rw [List.filter_cons_of_neg kept, List.eraseDups_cons, List.filter_cons_of_neg kept,
        ← others, List.filter_filter, ← absent, List.filter_filter]
      simp only [Bool.and_comm]

/-- Nothing occurs twice among first occurrences. -/
theorem nodup_eraseDups (items : List α) : items.eraseDups.Nodup := by
  induction items using filterInduction with
  | nil => exact List.nodup_nil
  | cons item rest ih =>
    rw [List.eraseDups_cons, List.nodup_cons, List.mem_eraseDups]
    exact ⟨by simp, ih _⟩

/-- First occurrences in two lists one after the other: what the first has is not taken from the
second. -/
theorem eraseDups_append_eq (front back : List α) :
    (front ++ back).eraseDups =
      front.eraseDups ++ back.eraseDups.filter fun item => !front.eraseDups.contains item := by
  rw [List.eraseDups_append, List.removeAll, eraseDups_filter]
  congr 2
  funext item
  simp

/-- Items that all differ have no repetitions to drop. -/
theorem eraseDups_of_nodup {items : List α} (distinct : items.Nodup) :
    items.eraseDups = items := by
  induction items with
  | nil => rfl
  | cons item rest ih =>
    obtain ⟨absent, distinct⟩ := List.nodup_cons.mp distinct
    have others : rest.filter (fun other => !other == item) = rest := by
      refine List.filter_eq_self.mpr fun other member => ?_
      have differs : other ≠ item := fun same => absent (same ▸ member)
      simpa using differs
    rw [List.eraseDups_cons, others, ih distinct]

/-- Duplicates can be left out before items are changed, if they are left out afterwards too. -/
theorem eraseDups_map_eraseDups [BEq β] [LawfulBEq β] (change : α → β) (items : List α) :
    (items.eraseDups.map change).eraseDups = (items.map change).eraseDups := by
  induction items using filterInduction with
  | nil => rfl
  | cons item rest ih =>
    have others := ih fun other => !other == item
    have apart : (rest.filter (fun other => !other == item)).filter
        (fun other => !change other == change item) =
        rest.filter fun other => !change other == change item := by
      rw [List.filter_filter]
      refine List.filter_congr fun other _ => ?_
      by_cases same : other = item <;> simp [same]
    rw [List.eraseDups_cons, List.map_cons, List.map_cons, List.eraseDups_cons,
      List.eraseDups_cons, eraseDups_filter, others, ← eraseDups_filter, List.filter_map,
      List.filter_map]
    exact congrArg (fun kept => change item :: (kept.map change).eraseDups) apart

/-- Duplicates can be left out before or after items are changed that stay apart. -/
theorem eraseDups_map_of_injOn [BEq β] [LawfulBEq β] {change : α → β} {items : List α}
    (apart : ∀ item ∈ items, ∀ other ∈ items, change item = change other → item = other) :
    (items.map change).eraseDups = items.eraseDups.map change := by
  rw [← eraseDups_map_eraseDups]
  refine eraseDups_of_nodup ((nodup_eraseDups items).map_on fun item member other memberOther => ?_)
  exact apart item (List.mem_eraseDups.mp member) other (List.mem_eraseDups.mp memberOther)

/-- Sorted lists with the same items are the same but for duplicates. -/
theorem eraseDups_eq_of_sorted [LinearOrder α] {items others : List α}
    (sorted : items.Pairwise (· ≤ ·)) (sortedOthers : others.Pairwise (· ≤ ·))
    (same : ∀ item, item ∈ items ↔ item ∈ others) : items.eraseDups = others.eraseDups := by
  have kept (list : List α) (sorted : list.Pairwise (· ≤ ·)) :
      list.eraseDups.Pairwise (· ≤ ·) := by
    induction list using filterInduction with
    | nil => exact List.Pairwise.nil
    | cons item rest ih =>
      obtain ⟨least, sorted⟩ := List.pairwise_cons.mp sorted
      rw [List.eraseDups_cons, List.pairwise_cons]
      refine ⟨fun other member => ?_, ih _ (sorted.filter _)⟩
      exact least other (List.mem_of_mem_filter (List.mem_eraseDups.mp member))
  refine List.Perm.eq_of_pairwise' (kept items sorted) (kept others sortedOthers) ?_
  refine (List.perm_ext_iff_of_nodup (nodup_eraseDups _) (nodup_eraseDups _)).mpr fun item => ?_
  rw [List.mem_eraseDups, List.mem_eraseDups, same]

/-- In a list of items with increasing keys, an item that first occurs before another has a key
that is smaller than all keys of the other. -/
theorem pairwise_eraseDups [LinearOrder β] {items : List (α × β)}
    (increasing : items.Pairwise (·.2 < ·.2)) :
    (items.map (·.1)).eraseDups.Pairwise fun item other =>
      ∃ key, (item, key) ∈ items ∧ ∀ later, (other, later) ∈ items → key < later := by
  induction items using filterInduction with
  | nil => exact List.Pairwise.nil
  | cons first rest ih =>
    obtain ⟨least, increasing⟩ := List.pairwise_cons.mp increasing
    let others := rest.filter fun other => !other.1 == first.1
    have split : (List.map (·.1) (first :: rest)).eraseDups =
        first.1 :: (others.map (·.1)).eraseDups := by
      rw [List.map_cons, List.eraseDups_cons, List.filter_map]
      rfl
    have mem_of_ne {item : α} {key : β} (differs : item ≠ first.1)
        (member : (item, key) ∈ first :: rest) : (item, key) ∈ others := by
      rcases List.mem_cons.mp member with rfl | member
      · exact absurd rfl differs
      · exact List.mem_filter.mpr ⟨member, by simpa using differs⟩
    have differs {item : α} (member : item ∈ (others.map (·.1)).eraseDups) : item ≠ first.1 := by
      obtain ⟨other, among, rfl⟩ := List.mem_map.mp (List.mem_eraseDups.mp member)
      simpa using (List.mem_filter.mp among).2
    rw [split, List.pairwise_cons]
    constructor
    · intro other member
      refine ⟨first.2, List.mem_cons_self, fun later among => ?_⟩
      exact least _ (List.mem_of_mem_filter (mem_of_ne (differs member) among))
    · refine (ih _ (increasing.filter _)).imp_of_mem ?_
      rintro item other - otherMember ⟨key, member, before⟩
      refine ⟨key, List.mem_cons_of_mem _ (List.mem_of_mem_filter member), ?_⟩
      exact fun later among => before later (mem_of_ne (differs otherMember) among)

end Occurrences

/-! ## Files that matches lead to -/

/-- A text names a regular file, and the file's path without links. -/
def NamesFile (system : System) (text file : String) : Prop :=
  system.isFile (.ofString text) = .ok true ∧
    ∃ path, system.resolve (.ofString text) = .ok path ∧ file = toString path

/-- The match with a number, of the pattern with a number, leads to a file. -/
def LeadsAt (system : System) (root : Path) (patterns : List String) (file : String)
    (place : Nat × Nat) : Prop :=
  ∃ pattern texts text, patterns[place.1]? = some pattern ∧
    patternMatches system root pattern = .ok texts ∧ texts[place.2]? = some text ∧
    NamesFile system text file

/-- No match of an earlier pattern, and no earlier match of the same pattern, leads to the file. -/
def IsFirstMatch (system : System) (root : Path) (patterns : List String) (file : String)
    (place : Nat × Nat) : Prop :=
  LeadsAt system root patterns file place ∧
    ∀ other, LeadsAt system root patterns file other → toLex place ≤ toLex other

/-- Nothing that is asked of the files for a pattern fails. -/
def Passes (system : System) (root : Path) (pattern : String) : Prop :=
  ∃ texts, patternMatches system root pattern = .ok texts ∧
    ∀ text ∈ texts, ∃ file?, sourceFile? system text = .ok file?

/-- The matches of a pattern. -/
def matchesOf (system : System) (root : Path) (pattern : String) : List String :=
  (patternMatches system root pattern).toOption.getD []

/-- The file that a text leads to. -/
def fileOf? (system : System) (text : String) : Option String :=
  (sourceFile? system text).toOption.join

/-- The files that the matches of a pattern lead to. -/
def filesOf (system : System) (root : Path) (pattern : String) : List String :=
  (matchesOf system root pattern).filterMap (fileOf? system)

section Files

variable {system : System} {root : Path} {pattern : String} {patterns : List String}

/-- A text has a file exactly if it names one. -/
theorem fileOf?_eq_some_iff {text file : String} :
    fileOf? system text = some file ↔ NamesFile system text file := by
  cases regular : system.isFile (.ofString text) with
  | error fault =>
    simp [fileOf?, sourceFile?, NamesFile, regular, Except.toOption, bind, Except.bind]
  | ok isFile =>
    cases resolved : system.resolve (.ofString text) with
    | error fault =>
      cases isFile <;>
        simp [fileOf?, sourceFile?, NamesFile, regular, resolved, Except.toOption, bind,
          Except.bind, pure, Except.pure]
    | ok path =>
      cases isFile <;>
        simp [fileOf?, sourceFile?, NamesFile, regular, resolved, Except.toOption, bind,
          Except.bind, pure, Except.pure, eq_comm]

/-- A pattern that passes gives the files of its matches. -/
theorem patternFiles_eq (passes : Passes system root pattern) :
    patternFiles system root pattern = .ok (filesOf system root pattern) := by
  obtain ⟨texts, matched, each⟩ := passes
  have own : matchesOf system root pattern = texts := by rw [matchesOf, matched]; rfl
  have looked : texts.mapM (sourceFile? system) = .ok (texts.map (fileOf? system)) := by
    refine Outcome.mapM_eq_map fun text member => ?_
    obtain ⟨file?, found⟩ := each text member
    rw [fileOf?, found]
    rfl
  rw [patternFiles, filesOf, own, ← Function.id_comp (fileOf? system), ← List.filterMap_map]
  refine Outcome.bind_eq_ok_iff.mpr ⟨texts, matched, ?_⟩
  exact Outcome.bind_eq_ok_iff.mpr ⟨_, looked, rfl⟩

/-! ## The list as first occurrences -/

/-- Files are added part by part. -/
theorem addNew_append (known front back : List String) :
    addNew known (front ++ back) = addNew (addNew known front) back :=
  List.foldl_append

/-- Adding files puts the first occurrences of the new ones behind those known. -/
theorem addNew_eq (known found : List String) :
    addNew known found = known ++ (found.filter fun file => !known.contains file).eraseDups := by
  induction found generalizing known with
  | nil => simp [addNew]
  | cons file rest ih =>
    have step : addNew known (file :: rest) =
        addNew (if known.contains file then known else known ++ [file]) rest := rfl
    rw [step]
    by_cases member : known.contains file = true
    · rw [if_pos member, ih, List.filter_cons_of_neg (by simpa using member)]
    · rw [if_neg member, ih, List.filter_cons_of_pos (by simpa using member), List.eraseDups_cons,
        List.filter_filter, List.append_assoc, List.singleton_append]
      congr 4
      funext other
      by_cases same : other = file <;> simp [same]

/-- Patterns that pass add the files of all their matches to the known ones. -/
theorem expandFrom_eq (passes : ∀ pattern ∈ patterns, Passes system root pattern)
    (known : List String) :
    expandFrom (patternFiles system root) known patterns =
      .ok (addNew known (patterns.flatMap (filesOf system root))) := by
  induction patterns generalizing known with
  | nil => rfl
  | cons pattern rest ih =>
    obtain ⟨here, later⟩ := List.forall_mem_cons.mp passes
    rw [expandFrom, patternFiles_eq here, List.flatMap_cons, addNew_append]
    exact ih later _

/-- If nothing fails, the sources are the first occurrences among the files of all patterns. -/
theorem expandSources_eq (passes : ∀ pattern ∈ patterns, Passes system root pattern) :
    expandSources system root patterns =
      .ok (patterns.flatMap (filesOf system root)).eraseDups := by
  rw [expandSources, expandFrom_eq passes, addNew_eq, List.nil_append]
  simp

/-- If there is a list of sources, nothing failed. -/
theorem passes_of_expandSources {files : List String}
    (listed : expandSources system root patterns = .ok files) :
    ∀ pattern ∈ patterns, Passes system root pattern := by
  rw [expandSources] at listed
  generalize ([] : List String) = known at listed
  induction patterns generalizing known with
  | nil => simp
  | cons pattern rest ih =>
    rw [expandFrom] at listed
    obtain ⟨found, here, later⟩ := Outcome.bind_eq_ok_iff.mp listed
    obtain ⟨texts, matched, looked⟩ := Outcome.bind_eq_ok_iff.mp here
    obtain ⟨results, each, -⟩ := Outcome.bind_eq_ok_iff.mp looked
    exact List.forall_mem_cons.mpr
      ⟨⟨texts, matched, Outcome.exists_mapM_eq_ok_iff.mp ⟨results, each⟩⟩, ih _ later⟩

/-! ## Patterns of documents -/

/-- Naming a fault by the text that was followed changes no success. -/
theorem named_eq_ok_iff {α : Type} {text : Text.Points} {outcome : Except Fault α} {value : α} :
    system.named root text outcome = .ok value ↔ outcome = .ok value := by
  unfold System.named
  split
  · simp
  · rfl

/-- Patterns of a document lead to the files of the texts that are looked up. -/
theorem expandTexts_eq_ok_iff {texts : List Text.Points} {files : List String} :
    expandTexts system root texts = .ok files ↔
      expandSources system root (texts.map Text.Points.pathText) = .ok files := by
  rw [expandTexts, expandSources]
  generalize ([] : List String) = known
  induction texts generalizing known with
  | nil => rfl
  | cons text rest ih =>
    rw [List.map_cons, expandFrom, expandFrom, Outcome.bind_eq_ok_iff, Outcome.bind_eq_ok_iff]
    refine exists_congr fun found => and_congr ?_ (ih _)
    rw [textFiles, named_eq_ok_iff]

/-! ## Numbered matches -/

/-- The files of all matches, in order, with the numbers of pattern and match. -/
def numberedFiles (system : System) (root : Path) (patterns : List String) :
    List (String × (Nat ×ₗ Nat)) :=
  patterns.zipIdx.flatMap fun (pattern, number) =>
    (matchesOf system root pattern).zipIdx.filterMap fun (text, place) =>
      (fileOf? system text).map (·, toLex (number, place))

/-- Without their numbers these are the files of all matches. -/
theorem map_fst_numberedFiles :
    (numberedFiles system root patterns).map (·.1) =
      patterns.flatMap (filesOf system root) := by
  have own (number : Nat) (texts : List String) :
      (texts.zipIdx.filterMap fun (text, place) =>
        (fileOf? system text).map (·, toLex (number, place))).map (·.1) =
        texts.filterMap (fileOf? system) := by
    conv_rhs => rw [← List.zipIdx_map_fst 0 texts, List.filterMap_map]
    rw [List.map_filterMap]
    refine List.filterMap_congr fun pair _ => ?_
    cases found : fileOf? system pair.1 <;> simp [found]
  conv_rhs => rw [← List.zipIdx_map_fst 0 patterns, List.flatMap_map]
  rw [numberedFiles, List.map_flatMap]
  exact congrArg (List.flatMap · _) (funext fun pair => own pair.2 _)

/-- A file is numbered exactly by the matches that lead to it. -/
theorem mem_numberedFiles_iff (passes : ∀ pattern ∈ patterns, Passes system root pattern)
    {file : String} {place : Nat × Nat} :
    (file, toLex place) ∈ numberedFiles system root patterns ↔
      LeadsAt system root patterns file place := by
  obtain ⟨number, index⟩ := place
  simp only [numberedFiles, List.mem_flatMap, List.mem_filterMap, Prod.exists,
    List.mem_zipIdx_iff_getElem?, Option.map_eq_some_iff, fileOf?_eq_some_iff, LeadsAt,
    Prod.mk.injEq, toLex_inj]
  constructor
  · rintro ⟨pattern, _, here, text, _, there, _, names, rfl, rfl, rfl⟩
    obtain ⟨texts, matched, _⟩ := passes pattern (List.mem_of_getElem? here)
    have own : matchesOf system root pattern = texts := by rw [matchesOf, matched]; rfl
    exact ⟨pattern, texts, text, here, matched, own ▸ there, names⟩
  · rintro ⟨pattern, texts, text, here, matched, there, names⟩
    have own : matchesOf system root pattern = texts := by rw [matchesOf, matched]; rfl
    exact ⟨pattern, number, here, text, index, own.symm ▸ there, file, names, rfl, rfl, rfl⟩

/-- The numbers of a list's items increase. -/
theorem pairwise_zipIdx {α : Type} (items : List α) : items.zipIdx.Pairwise (·.2 < ·.2) := by
  have increasing : (items.zipIdx.map (·.2)).Pairwise (· < ·) := by
    rw [List.zipIdx_map_snd]
    exact List.pairwise_lt_range'
  exact List.pairwise_map.mp increasing

/-- The numbers increase. -/
theorem pairwise_numberedFiles (system : System) (root : Path) (patterns : List String) :
    (numberedFiles system root patterns).Pairwise (·.2 < ·.2) := by
  rw [numberedFiles, List.pairwise_flatMap]
  constructor
  · intro numbered _
    refine (pairwise_zipIdx _).filterMap _ ?_
    rintro ⟨text, place⟩ ⟨other, later⟩ before item own item' own'
    obtain ⟨file, -, rfl⟩ := Option.map_eq_some_iff.mp own
    obtain ⟨file', -, rfl⟩ := Option.map_eq_some_iff.mp own'
    exact Prod.Lex.toLex_lt_toLex.mpr (.inr ⟨rfl, before⟩)
  · refine (pairwise_zipIdx _).imp ?_
    rintro ⟨pattern, number⟩ ⟨other, later⟩ before item member item' member'
    obtain ⟨⟨text, place⟩, -, own⟩ := List.mem_filterMap.mp member
    obtain ⟨⟨text', place'⟩, -, own'⟩ := List.mem_filterMap.mp member'
    obtain ⟨file, -, rfl⟩ := Option.map_eq_some_iff.mp own
    obtain ⟨file', -, rfl⟩ := Option.map_eq_some_iff.mp own'
    exact Prod.Lex.toLex_lt_toLex.mpr (.inl before)

/-- A file is among those of all matches exactly if some match leads to it. -/
theorem mem_flatMap_filesOf_iff (passes : ∀ pattern ∈ patterns, Passes system root pattern)
    {file : String} :
    file ∈ patterns.flatMap (filesOf system root) ↔
      ∃ place, LeadsAt system root patterns file place := by
  rw [← map_fst_numberedFiles, List.mem_map]
  constructor
  · rintro ⟨⟨_, place⟩, member, rfl⟩
    exact ⟨ofLex place, (mem_numberedFiles_iff passes).mp member⟩
  · rintro ⟨place, leads⟩
    exact ⟨(file, toLex place), (mem_numberedFiles_iff passes).mpr leads, rfl⟩

/-- A file that some match leads to has a first one. -/
theorem exists_isFirstMatch {file : String}
    (leads : ∃ place, LeadsAt system root patterns file place) :
    ∃ place, IsFirstMatch system root patterns file place := by
  have wellFounded : WellFounded fun place later : Nat ×ₗ Nat => place < later := wellFounded_lt
  obtain ⟨place, own, least⟩ :=
    wellFounded.has_min {place | LeadsAt system root patterns file (ofLex place)} leads
  exact ⟨ofLex place, own, fun other later => not_lt.mp (least (toLex other) later)⟩

/-- The matches of a pattern with wildcards, sorted in a way that can be evaluated. -/
theorem patternMatches_of_magic (magic : Glob.hasMagic pattern = true) :
    patternMatches system root pattern = (do
      let path ← system.expandHome (.ofString pattern)
      let found ← system.matchesBelow (root.join path).root false (root.join path).parts.reverse
      return found.insertionSort (· ≤ ·)) := by
  simp only [patternMatches, magic, if_true, System.glob, List.mergeSort_eq_insertionSort]

/-- The matches of a pattern are in ascending order. -/
theorem pairwise_patternMatches {texts : List String}
    (matched : patternMatches system root pattern = .ok texts) : texts.Pairwise (· ≤ ·) := by
  unfold patternMatches at matched
  split at matched
  · obtain ⟨path, -, globbed⟩ := Outcome.bind_eq_ok_iff.mp matched
    obtain ⟨found, -, sorted⟩ := Outcome.bind_eq_ok_iff.mp globbed
    rw [← Except.ok.inj sorted]
    exact List.pairwise_mergeSort' (· ≤ ·) found
  · obtain ⟨path, -, single⟩ := Outcome.bind_eq_ok_iff.mp matched
    rw [← Except.ok.inj single]
    exact List.pairwise_singleton _ _

end Files

/-- If nothing fails that is asked of the files, there is a list of sources, whatever the files, the
directory and the patterns.

- No file is listed twice.
- A file is listed exactly if it is what a regular file that some pattern matches comes to without
  links.
- The matches of each pattern ascend, every listed file has a first match, and the files are in the
  order of these: by the number of the pattern, and for one pattern by the number of the match.
- The list for some patterns and others after them is that for the first, followed by what that for
  the others has besides. Patterns that are there already change nothing. -/
theorem lists_files_at_first_matches {system : System} {root : Path} {patterns : List String}
    (passes : ∀ pattern ∈ patterns, Passes system root pattern) :
    ∃ files, expandSources system root patterns = .ok files ∧
      files.Nodup ∧
      (∀ file, file ∈ files ↔ ∃ pattern ∈ patterns, ∃ texts,
        patternMatches system root pattern = .ok texts ∧
        ∃ text ∈ texts, NamesFile system text file) ∧
      (∀ pattern ∈ patterns, ∀ texts, patternMatches system root pattern = .ok texts →
        texts.Pairwise (· ≤ ·)) ∧
      (∀ file ∈ files, ∃ place, IsFirstMatch system root patterns file place) ∧
      (files.Pairwise fun file other => ∀ place later,
        IsFirstMatch system root patterns file place →
        IsFirstMatch system root patterns other later → toLex place < toLex later) ∧
      (∀ front back, patterns = front ++ back →
        ∃ first second, expandSources system root front = .ok first ∧
          expandSources system root back = .ok second ∧
          files = first ++ second.filter fun file => !first.contains file) ∧
      ∀ again ⊆ patterns, expandSources system root (patterns ++ again) = .ok files := by
  have leads_iff (file : String) : file ∈ (patterns.flatMap (filesOf system root)).eraseDups ↔
      ∃ place, LeadsAt system root patterns file place :=
    List.mem_eraseDups.trans (mem_flatMap_filesOf_iff passes)
  refine ⟨_, expandSources_eq passes, nodup_eraseDups _, ?_, ?_, ?_, ?_, ?_, ?_⟩
  · intro file
    rw [leads_iff]
    constructor
    · rintro ⟨place, pattern, texts, text, here, matched, there, names⟩
      exact ⟨pattern, List.mem_of_getElem? here, texts, matched, text,
        List.mem_of_getElem? there, names⟩
    · rintro ⟨pattern, member, texts, matched, text, among, names⟩
      obtain ⟨number, here⟩ := List.mem_iff_getElem?.mp member
      obtain ⟨index, there⟩ := List.mem_iff_getElem?.mp among
      exact ⟨(number, index), pattern, texts, text, here, matched, there, names⟩
  · exact fun pattern _ texts matched => pairwise_patternMatches matched
  · exact fun file member => exists_isFirstMatch ((leads_iff file).mp member)
  · have ordered := pairwise_eraseDups (pairwise_numberedFiles system root patterns)
    rw [map_fst_numberedFiles] at ordered
    refine ordered.imp ?_
    rintro file other ⟨key, own, before⟩ place later first firstOther
    calc toLex place ≤ key := first.2 (ofLex key) ((mem_numberedFiles_iff passes).mp own)
      _ < toLex later := before _ ((mem_numberedFiles_iff passes).mpr firstOther.1)
  · rintro front back rfl
    obtain ⟨passesFront, passesBack⟩ := List.forall_mem_append.mp passes
    refine ⟨_, _, expandSources_eq passesFront, expandSources_eq passesBack, ?_⟩
    rw [List.flatMap_append, eraseDups_append_eq]
  · intro again known
    have passesAgain : ∀ pattern ∈ patterns ++ again, Passes system root pattern :=
      List.forall_mem_append.mpr ⟨passes, fun pattern member => passes pattern (known member)⟩
    have nothing : (again.flatMap (filesOf system root)).eraseDups.filter (fun file =>
        !(patterns.flatMap (filesOf system root)).eraseDups.contains file) = [] := by
      refine List.filter_eq_nil_iff.mpr fun file member => ?_
      obtain ⟨pattern, among, found⟩ := List.mem_flatMap.mp (List.mem_eraseDups.mp member)
      have there := List.mem_flatMap.mpr ⟨pattern, known among, found⟩
      simpa using there
    rw [expandSources_eq passesAgain, List.flatMap_append, eraseDups_append_eq, nothing,
      List.append_nil]

/-- Files of a project in which one source is a link to another. -/
def linkedFiles : System :=
  ⟨⟨[(["App"], .directory), (["App", "View.swift"], .file []), (["App", "Main.swift"], .file []),
      (["App", "Latest.swift"], .link "View.swift")]⟩, [], "", []⟩

/-- A file is listed where a link led to it first, and once. -/
theorem lists_files_at_first_matches_linked :
    (∀ pattern ∈ ["Latest.swift", "*.swift"], Passes linkedFiles (.ofString "/App") pattern) ∧
      ∃ files, expandSources linkedFiles (.ofString "/App") ["Latest.swift", "*.swift"] =
          .ok files ∧
        files.Nodup ∧ files = ["/App/View.swift", "/App/Main.swift"] := by
  have named : patternMatches linkedFiles (.ofString "/App") "Latest.swift" =
      .ok ["/App/View.swift"] :=
    Outcome.eq_ok_of_toOption (by decide +kernel)
  have matched : patternMatches linkedFiles (.ofString "/App") "*.swift" =
      .ok ["/App/Latest.swift", "/App/Main.swift", "/App/View.swift"] := by
    rw [patternMatches_of_magic (by decide)]
    exact Outcome.eq_ok_of_toOption (by decide +kernel)
  have passes : ∀ pattern ∈ ["Latest.swift", "*.swift"],
      Passes linkedFiles (.ofString "/App") pattern := by
    simp only [List.forall_mem_cons]
    refine ⟨⟨_, named, ?_⟩, ⟨_, matched, ?_⟩, by simp⟩
    · simp only [← Outcome.isOk_iff]
      decide +kernel
    · simp only [← Outcome.isOk_iff]
      decide +kernel
  obtain ⟨files, listed, distinct, -⟩ := lists_files_at_first_matches passes
  refine ⟨passes, files, listed, distinct, ?_⟩
  rw [expandSources_eq passes] at listed
  rw [← Except.ok.inj listed]
  simp only [List.flatMap_cons, List.flatMap_nil, filesOf, matchesOf, named, matched,
    Except.toOption, Option.getD_some]
  decide +kernel

end CompletionServer.Project
