import CompletionServer.Proofs.Files.Matching
import CompletionServer.Proofs.Project.Sources

/-!
# Source files are regular files

Every text that a pattern matches begins at the root, so that looking at it and resolving it agree
on where it leads. A source file therefore is written as the place of a regular file, below
directories only, and looking it up again finds it there.
-/

namespace CompletionServer.Project

open Files

/-- A text is the path of a place at which there is a regular file, without a link on the way. -/
def HoldsFile (system : System) (file : String) : Prop :=
  ∃ place entry, file = toString (Path.absolute place) ∧ system.tree.IsRooted place ∧
    system.tree.get? place = some entry ∧ entry.isFile = true ∧
    (file.utf8ByteSize < pathLimit → ∀ followLast, system.find followLast file = .ok (place, entry))

/-! ## Texts that begin at the root -/

section Roots

variable {system : System} {text : String}

/-- A slash begins with a slash. -/
theorem startsWith_slash : "/".startsWith "/" = true :=
  startsWith_slash_iff.mpr (by decide)

/-- What begins with a slash does so whatever follows it. -/
theorem startsWith_slash_append (front : text.startsWith "/" = true) (more : String) :
    (text ++ more).startsWith "/" = true := by
  rw [startsWith_slash_iff] at front ⊢
  rw [String.toList_append, List.head?_append, front]
  rfl

/-- What is joined to an absolute text is absolute. -/
theorem startsWith_joinText (front : text.startsWith "/" = true) (name : String) :
    (System.joinText text name).startsWith "/" = true := by
  rw [System.joinText]
  split
  · exact startsWith_slash_append front name
  · exact startsWith_slash_append (startsWith_slash_append front "/") name

/-- The root of a text is nothing, one slash or two. -/
theorem rootOf_eq_or (text : String) :
    Path.rootOf text = "" ∨ (Path.rootOf text).startsWith "/" = true := by
  rw [startsWith_slash_iff, Path.rootOf]
  split <;> decide

/-- The root of an absolute text is absolute. -/
theorem startsWith_rootOf (front : text.startsWith "/" = true) :
    (Path.rootOf text).startsWith "/" = true := by
  rw [startsWith_slash_iff] at front
  obtain ⟨rest, chars⟩ := List.head?_eq_some_iff.mp front
  rw [Path.rootOf, chars]
  split <;> simp_all

/-- A path with an absolute root has an absolute text. -/
theorem startsWith_toString {path : Path} (front : path.root.startsWith "/" = true) :
    (toString path).startsWith "/" = true := by
  have rooted : path.root ≠ "" := fun empty => by simp [empty] at front
  have written : toString path = path.root ++ "/".intercalate path.parts := by
    show Path.toString path = _
    rw [Path.toString, if_neg (by simp [rooted])]
  rw [written]
  exact startsWith_slash_append front _

/-- The matches below a root begin with it. -/
theorem startsWith_of_mem_matchesBelow {root : String} (front : root.startsWith "/" = true)
    {directoriesOnly : Bool} {reversed texts : List String}
    (found : system.matchesBelow root directoriesOnly reversed = .ok texts) :
    ∀ text ∈ texts, text.startsWith "/" = true := by
  induction reversed generalizing directoriesOnly texts with
  | nil =>
    rw [← Except.ok.inj found]
    simpa using front
  | cons name outer ih =>
    rw [System.matchesBelow_cons] at found
    obtain ⟨directories, above, grouped⟩ := Outcome.bind_eq_ok_iff.mp found
    obtain ⟨groups, each, same⟩ := Outcome.bind_eq_ok_iff.mp grouped
    have within : ∀ directory ∈ directories, directory.startsWith "/" = true := by
      rw [System.directoriesOf] at above
      split at above
      · exact ih above
      · rw [← Except.ok.inj above]
        exact List.forall_mem_singleton.mpr (startsWith_slash_append front _)
    rw [← Except.ok.inj same]
    intro text member
    obtain ⟨group, among, own⟩ := List.mem_flatten.mp member
    obtain ⟨directory, listed, made⟩ := Outcome.exists_of_mem_mapM each among
    obtain ⟨names, -, joined⟩ := Outcome.bind_eq_ok_iff.mp made
    rw [← Except.ok.inj joined] at own
    obtain ⟨last, -, rfl⟩ := List.mem_map.mp own
    exact startsWith_joinText (within directory listed) last

/-- A path that is not relative, with or without a home in place of a tilde, begins with a slash. -/
theorem startsWith_root_of_expandHome {path : Path}
    (expanded : system.expandHome (.ofString text) = .ok path) (absolute : path.isAbsolute = true) :
    path.root.startsWith "/" = true := by
  have nonempty : path.root ≠ "" := by simpa [Path.isAbsolute] using absolute
  have of_text {source : String} (same : path.root = Path.rootOf source) :
      path.root.startsWith "/" = true := by
    rw [same] at nonempty ⊢
    exact (rootOf_eq_or source).resolve_left nonempty
  unfold System.expandHome at expanded
  split at expanded
  · split at expanded
    · dsimp only at expanded
      split at expanded
      · exact of_text (by rw [← Except.ok.inj expanded]; rfl)
      · cases expanded
    · exact of_text (by rw [← Except.ok.inj expanded]; rfl)
  · exact of_text (by rw [← Except.ok.inj expanded]; rfl)

/-- What a pattern matches, seen from an absolute directory, begins with a slash. -/
theorem startsWith_of_mem_patternMatches {directory : Place} {pattern : String}
    {texts : List String}
    (matched : patternMatches system (.absolute directory) pattern = .ok texts) :
    ∀ text ∈ texts, text.startsWith "/" = true := by
  unfold patternMatches at matched
  split at matched
  · obtain ⟨path, expanded, globbed⟩ := Outcome.bind_eq_ok_iff.mp matched
    obtain ⟨found, below, sorted⟩ := Outcome.bind_eq_ok_iff.mp globbed
    have front : ((Path.absolute directory).join path).root.startsWith "/" = true := by
      rw [Path.join]
      split
      · next absolute => exact startsWith_root_of_expandHome expanded absolute
      · exact startsWith_slash
    rw [← Except.ok.inj sorted]
    intro text member
    exact startsWith_of_mem_matchesBelow front below text (List.mem_mergeSort.mp member)
  · obtain ⟨path, resolved, single⟩ := Outcome.bind_eq_ok_iff.mp matched
    obtain ⟨joined, -, done⟩ := Outcome.bind_eq_ok_iff.mp resolved
    obtain ⟨place, rfl⟩ := System.exists_absolute_of_resolve done
    rw [← Except.ok.inj single]
    simpa using startsWith_toString startsWith_slash

end Roots

/-! ## Files at their places -/

section Places

variable {system : System} {file : String}

/-- The file that an absolute text names is held. -/
theorem holdsFile_of_namesFile {text : String} (front : text.startsWith "/" = true)
    (names : NamesFile system text file) : HoldsFile system file := by
  obtain ⟨regular, path, resolved, rfl⟩ := names
  have rooted : (Path.ofString text).root.startsWith "/" = true := startsWith_rootOf front
  have written := startsWith_toString rooted
  have absolute : (Path.ofString text).isAbsolute = true := by
    have nonempty : (Path.ofString text).root ≠ "" := fun empty => by simp [empty] at rooted
    simpa [Path.isAbsolute] using nonempty
  rw [System.isFile] at regular
  split at regular
  · exact absurd (Except.ok.inj regular) (by decide)
  next legal =>
  split at regular
  · next place entry found =>
    have same := System.resolve_of_find absolute written (by simpa using legal) found
    obtain rfl := Except.ok.inj (resolved.symm.trans same)
    obtain ⟨there, links, leads⟩ := System.leads_of_find written found
    have above := leads.isRooted (Tree.isRooted_nil _)
    have isName := leads.isName (fun _ => of_mem_stepsOf) (by simp)
    have isFile := Except.ok.inj regular
    have plain (target : String) : entry ≠ .link target := by
      rintro rfl
      exact Bool.false_ne_true isFile
    exact ⟨place, entry, rfl, above, there, isFile,
      fun fits => System.find_toString above isName there plain fits⟩
  · split at regular
    · exact absurd (Except.ok.inj regular) (by decide)
    · cases regular

/-- The sources of a project are regular files, each listed once. -/
theorem holdsFile_of_expandSources {directory : Place} {patterns files : List String}
    (listed : expandSources system (.absolute directory) patterns = .ok files) :
    files.Nodup ∧ ∀ file ∈ files, HoldsFile system file := by
  have passes := passes_of_expandSources listed
  rw [expandSources_eq passes] at listed
  obtain rfl := Except.ok.inj listed
  refine ⟨nodup_eraseDups _, fun file member => ?_⟩
  obtain ⟨pattern, among, own⟩ := List.mem_flatMap.mp (List.mem_eraseDups.mp member)
  obtain ⟨texts, matched, -⟩ := passes pattern among
  obtain ⟨text, found, names⟩ := List.mem_filterMap.mp own
  rw [matchesOf, matched] at found
  exact holdsFile_of_namesFile (startsWith_of_mem_patternMatches matched text found)
    (fileOf?_eq_some_iff.mp names)

end Places

end CompletionServer.Project
