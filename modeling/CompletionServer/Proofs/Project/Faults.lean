import CompletionServer.Project.Sources
import CompletionServer.Proofs.Files.Matching
import CompletionServer.Yaml.Document

/-!
# What texts and paths fail with

Making the text of a document's item fails in two ways, and following a path in five. Nothing else
can come of an item of a definition once its document is there, however items are nested and
whatever the wildcards of a pattern lead to.
-/

namespace CompletionServer.Yaml

open Outcome

/-- What making a text fails with: a whole number is too long, or values are nested too deeply. -/
inductive TextFault : Fault → Prop
  | overlong : TextFault .overlongInteger
  | deep : TextFault Document.tooDeep

/-- Items, rows of items and rows of pairs are printed, or fail so. -/
structure FailsAsText (document : Document) (fuel : Nat) : Prop where
  item : ∀ fault around item, document.shownIn fuel around item = .error fault → TextFault fault
  items : ∀ fault around items,
    document.shownItems fuel around items = .error fault → TextFault fault
  pairs : ∀ fault around pairs,
    document.shownPairs fuel around pairs = .error fault → TextFault fault

namespace TextFault

variable {document : Document} {fuel number : Nat} {around : List Nat} {fault : Fault}

/-- A scalar cannot be shown only for a fault of its text. -/
theorem of_scalar {value : Scalar}
    (unmade : document.shownIn fuel around (.scalar value) = .error fault) : TextFault fault := by
  rw [Document.shownIn] at unmade
  split at unmade
  · cases unmade
  · obtain rfl := Except.error.inj unmade
    exact .overlong

/-- An object cannot be shown only for a fault of a text, if so it is for its parts. -/
theorem of_object (parts : FailsAsText document fuel)
    (unmade : document.shownIn (fuel + 1) around (.object number) = .error fault) :
    TextFault fault := by
  rw [Document.shownIn] at unmade
  split at unmade
  · obtain rfl := Except.error.inj unmade
    exact .deep
  split at unmade
  · cases unmade
  · split at unmade
    · cases unmade
    · exact parts.items _ _ _ (bind_pure_eq_error_iff.mp unmade)
  · split at unmade
    · cases unmade
    · exact parts.items _ _ _ (bind_pure_eq_error_iff.mp unmade)
  · split at unmade
    · cases unmade
    · exact parts.pairs _ _ _ (bind_pure_eq_error_iff.mp unmade)
  · cases unmade
  · exact parts.items _ _ _ (bind_pure_eq_error_iff.mp unmade)

/-- Nothing in a document fails to be shown but for a fault of a text. -/
theorem failsAsText (document : Document) (fuel : Nat) : FailsAsText document fuel := by
  induction fuel with
  | zero =>
    refine ⟨fun fault around item unmade => ?_, fun fault around items unmade => ?_,
      fun fault around pairs unmade => ?_⟩
    · cases item with
      | scalar value => exact of_scalar unmade
      | stray node => cases unmade
      | object number =>
        obtain rfl := Except.error.inj unmade
        exact .deep
    · cases items with
      | nil => cases unmade
      | cons item rest =>
        obtain rfl := Except.error.inj unmade
        exact .deep
    · cases pairs with
      | nil => cases unmade
      | cons pair rest =>
        obtain rfl := Except.error.inj unmade
        exact .deep
  | succ fuel parts =>
    refine ⟨fun fault around item unmade => ?_, fun fault around items unmade => ?_,
      fun fault around pairs unmade => ?_⟩
    · cases item with
      | scalar value => exact of_scalar unmade
      | stray node => cases unmade
      | object number => exact of_object parts unmade
    · cases items with
      | nil => cases unmade
      | cons item rest =>
        rw [Document.shownItems] at unmade
        rcases bind_eq_error_iff.mp unmade with unmade | ⟨first, -, unmade⟩
        · exact parts.item _ _ _ unmade
        · exact parts.items _ _ _ (bind_pure_eq_error_iff.mp unmade)
    · cases pairs with
      | nil => cases unmade
      | cons pair rest =>
        rw [Document.shownPairs] at unmade
        rcases bind_eq_error_iff.mp unmade with unmade | ⟨key, -, unmade⟩
        · exact parts.item _ _ _ unmade
        rcases bind_eq_error_iff.mp unmade with unmade | ⟨value, -, unmade⟩
        · exact parts.item _ _ _ unmade
        · exact parts.pairs _ _ _ (bind_pure_eq_error_iff.mp unmade)

/-- The text of an item is made, or fails so. -/
theorem of_plain {item : Item} (unmade : document.plain item = .error fault) :
    TextFault fault := by
  cases item with
  | scalar value =>
    rw [Document.plain] at unmade
    split at unmade
    · cases unmade
    · obtain rfl := Except.error.inj unmade
      exact .overlong
  | stray node => exact (failsAsText document _).item _ _ _ unmade
  | object number => exact (failsAsText document _).item _ _ _ unmade

end TextFault

end CompletionServer.Yaml

namespace CompletionServer.Files

open Outcome

/-- What following paths fails with: a path holds the character that ends paths, or halves of
surrogate pairs that no path can hold; a user's home is unknown; links lead back to themselves; or
an obstacle is met that does not mean that nothing is there. -/
inductive PathFault (system : System) : Fault → Prop
  | nul : PathFault system .nulInPath
  | halves {text : Text.Points} {start stop : Nat}
      (unwritable : text.unencodable? Text.Points.isByteHalf = some (start, stop)) :
      PathFault system (.unencodable text start stop)
  | home : PathFault system .unknownHome
  | loop {text : String} (circle : system.find true text = .error .tooManyLinks) :
      PathFault system (.linkLoop text)
  | obstacle {text : String} {obstacle : Obstacle}
      (met : system.find true text = .error obstacle) (present : obstacle.isAbsence = false) :
      PathFault system (.system (obstacle.error text))

namespace PathFault

variable {system : System} {fault : Fault} {path root : Path} {text pattern : String}

/-- A path is not resolved only for a fault of a path. -/
theorem of_resolve (lost : system.resolve path = .error fault) : PathFault system fault := by
  unfold System.resolve at lost
  dsimp only at lost
  generalize system.tree.resolveFrom _ _ _ _ = outcome at lost
  split_ifs at lost with nul circles
  · obtain rfl := Except.error.inj lost
    exact .nul
  · obtain rfl := Except.error.inj lost
    obtain ⟨-, circles⟩ := Bool.and_eq_true_iff.mp circles
    split at circles
    · next circle => exact .loop circle
    · cases circles

/-- A home is not expanded only for a fault of a path. -/
theorem of_expandHome (lost : system.expandHome path = .error fault) : PathFault system fault := by
  unfold System.expandHome at lost
  split at lost
  · split at lost
    · dsimp only at lost
      split at lost
      · exact absurd lost (by simp)
      · obtain rfl := Except.error.inj lost
        split
        · exact .nul
        · exact .home
    · cases lost
  · cases lost

/-- A text is not resolved in a directory only for a fault of a path. -/
theorem of_resolveIn (lost : system.resolveIn root text = .error fault) :
    PathFault system fault := by
  rcases bind_eq_error_iff.mp lost with lost | ⟨path, -, lost⟩
  · exact of_expandHome lost
  · exact of_resolve lost

/-- A test for a file fails only for a fault of a path. -/
theorem of_isFile (lost : system.isFile path = .error fault) : PathFault system fault := by
  unfold System.isFile at lost
  dsimp only at lost
  split at lost
  · cases lost
  · split at lost
    · cases lost
    · next met =>
      split at lost
      · cases lost
      · next present =>
        obtain rfl := Except.error.inj lost
        exact .obstacle met (by simpa using present)

/-- A directory is not listed only for a fault of a path. -/
theorem of_list (lost : system.list text = .error fault) : PathFault system fault := by
  unfold System.list at lost
  split at lost
  · cases lost
    exact .nul
  · split at lost
    · cases lost
    · cases lost

variable {directoriesOnly : Bool}

/-- The candidates of a pattern are not found only for a fault of a path. -/
theorem of_candidates (lost : system.candidates text directoriesOnly = .error fault) :
    PathFault system fault :=
  of_list (bind_pure_eq_error_iff.mp lost)

/-- What is below a directory is not found only for a fault of a path. -/
theorem of_below {depth : Nat} (lost : system.below directoriesOnly depth text = .error fault) :
    PathFault system fault := by
  induction depth generalizing text fault with
  | zero => cases lost
  | succ depth ih =>
    rw [System.below] at lost
    rcases bind_eq_error_iff.mp lost with lost | ⟨names, -, lost⟩
    · exact of_candidates lost
    · obtain ⟨name, -, lost⟩ := exists_of_mapM_eq_error (bind_pure_eq_error_iff.mp lost)
      exact ih (bind_pure_eq_error_iff.mp lost)

/-- The matches in a directory are not found only for a fault of a path. -/
theorem of_matchesIn (lost : system.matchesIn text pattern directoriesOnly = .error fault) :
    PathFault system fault := by
  unfold System.matchesIn at lost
  split at lost
  · exact of_below (bind_pure_eq_error_iff.mp lost)
  · split at lost
    · exact of_candidates (bind_pure_eq_error_iff.mp lost)
    · cases lost

/-- The matches below a directory are not found only for a fault of a path. -/
theorem of_matchesBelow {names : List String}
    (lost : system.matchesBelow text directoriesOnly names = .error fault) :
    PathFault system fault := by
  induction names generalizing directoriesOnly fault with
  | nil => cases lost
  | cons name outer ih =>
    rw [System.matchesBelow_cons] at lost
    rcases bind_eq_error_iff.mp lost with lost | ⟨directories, -, lost⟩
    · unfold System.directoriesOf at lost
      split at lost
      · exact ih lost
      · cases lost
    · obtain ⟨directory, -, lost⟩ := exists_of_mapM_eq_error (bind_pure_eq_error_iff.mp lost)
      exact of_matchesIn (bind_pure_eq_error_iff.mp lost)

/-- A pattern is not expanded only for a fault of a path. -/
theorem of_glob (lost : system.glob path = .error fault) : PathFault system fault :=
  of_matchesBelow (bind_pure_eq_error_iff.mp lost)

/-- The matches of an entry are not found only for a fault of a path. -/
theorem of_patternMatches (lost : Project.patternMatches system root pattern = .error fault) :
    PathFault system fault := by
  unfold Project.patternMatches at lost
  split at lost
  · rcases bind_eq_error_iff.mp lost with lost | ⟨path, -, lost⟩
    · exact of_expandHome lost
    · exact of_glob lost
  · exact of_resolveIn (bind_pure_eq_error_iff.mp lost)

/-- A source is not looked up only for a fault of a path. -/
theorem of_sourceFile? (lost : Project.sourceFile? system text = .error fault) :
    PathFault system fault := by
  unfold Project.sourceFile? at lost
  dsimp only at lost
  rcases bind_eq_error_iff.mp lost with lost | ⟨isFile, -, lost⟩
  · exact of_isFile lost
  · split at lost
    · exact of_resolve (bind_pure_eq_error_iff.mp lost)
    · cases lost

/-- A source pattern fails with nothing else, whether it has wildcards or not. -/
theorem of_patternFiles (lost : Project.patternFiles system root pattern = .error fault) :
    PathFault system fault := by
  rcases bind_eq_error_iff.mp lost with lost | ⟨texts, -, lost⟩
  · exact of_patternMatches lost
  · obtain ⟨text, -, lost⟩ := exists_of_mapM_eq_error (bind_pure_eq_error_iff.mp lost)
    exact of_sourceFile? lost

/-- The fault of looking up a text that can be part of no path is a fault of a path. -/
theorem of_lookupFault (text : Text.Points) : PathFault system (System.lookupFault text) := by
  unfold System.lookupFault
  split
  · next unwritable => exact .halves unwritable
  · exact .nul

/-- A text of a document that is followed fails as a path does. -/
theorem of_named {α : Type} {text : Text.Points} {outcome : Except Fault α}
    (each : ∀ cause, outcome = .error cause → PathFault system cause)
    (lost : system.named root text outcome = .error fault) : PathFault system fault := by
  unfold System.named at lost
  split at lost
  · obtain rfl := Except.error.inj lost
    exact of_lookupFault _
  · exact each fault lost

/-- A text is not resolved only for a fault of a path. -/
theorem of_resolveText {text : Text.Points} (lost : system.resolveText root text = .error fault) :
    PathFault system fault :=
  of_named (fun _ => of_resolveIn) lost

/-- The files of a text are not found only for a fault of a path. -/
theorem of_textFiles {text : Text.Points}
    (lost : Project.textFiles system root text = .error fault) : PathFault system fault :=
  of_named (fun _ => of_patternFiles) lost

end PathFault

end CompletionServer.Files
