import CompletionServer.Files.Glob
import Mathlib.Data.List.Basic

/-!
# Texts of places

A place is written as its names with slashes between them, after the slash of the root. A text that
is written so, with or without a slash at its end, is read back as the same names, whether it is
taken as a path or walked along. A slash at the end makes a walk ask for a directory.
-/

namespace CompletionServer.Files

/-- A name that an entry of a directory can have. -/
structure IsName (name : String) : Prop where
  nonempty : name ≠ ""
  whole : '/' ∉ name.toList
  notHere : name ≠ "."
  notAbove : name ≠ ".."

/-- It can be decided whether a text is the name of an entry. -/
instance (name : String) : Decidable (IsName name) :=
  decidable_of_iff (name ≠ "" ∧ '/' ∉ name.toList ∧ name ≠ "." ∧ name ≠ "..")
    ⟨fun ⟨nonempty, whole, notHere, notAbove⟩ => ⟨nonempty, whole, notHere, notAbove⟩,
      fun name => ⟨name.nonempty, name.whole, name.notHere, name.notAbove⟩⟩

/-- The text of a place, with a slash at its end if asked. -/
def spell (place : Place) (slash : Bool) : String :=
  toString (Path.absolute place) ++ if slash && !place.isEmpty then "/" else ""

section Text

variable {text : String} {name : String} {place names : Place}

/-- The text of an absolute path has a slash before each name. -/
theorem toString_absolute (place : Place) :
    toString (Path.absolute place) = "/" ++ "/".intercalate place := by
  simp [toString, Path.toString, Path.absolute]

/-- The text of a place that has names is those of its names, each after a slash. -/
theorem toString_absolute_append (place : Place) (nonempty : names ≠ []) :
    toString (Path.absolute (place ++ names)) =
      spell place true ++ "/".intercalate names := by
  rw [toString_absolute]
  cases place with
  | nil => rfl
  | cons first rest =>
    rw [String.intercalate_append_of_ne_nil (List.cons_ne_nil _ _) nonempty, spell,
      toString_absolute]
    simp [String.append_assoc]

/-- A text ends with a slash exactly if its last character is one. -/
theorem endsWith_slash_iff : text.endsWith "/" = true ↔ text.toList.getLast? = some '/' := by
  rw [String.endsWith_eq_endsWith_toSlice, String.Slice.endsWith_string_iff,
    String.copy_toSlice, List.getLast?_eq_some_iff]
  exact ⟨fun ⟨front, same⟩ => ⟨front, same.symm⟩, fun ⟨front, same⟩ => ⟨front, same.symm⟩⟩

/-- A text begins with a slash exactly if its first character is one. -/
theorem startsWith_slash_iff : text.startsWith "/" = true ↔ text.toList.head? = some '/' := by
  rw [String.startsWith_string_iff]
  cases text.toList with
  | nil => decide
  | cons first rest => simp [eq_comm]

/-- A text with a slash behind it ends with one. -/
theorem endsWith_append_slash (text : String) : (text ++ "/").endsWith "/" = true := by
  rw [endsWith_slash_iff, String.toList_append]
  exact List.getLast?_concat

/-- A text does not end with a slash if a name stands at its end. -/
theorem endsWith_append_name (text : String) (isName : IsName name) :
    (text ++ name).endsWith "/" = false := by
  have nonempty : name.toList ≠ [] := by simpa using isName.nonempty
  rw [Bool.eq_false_iff, Ne, endsWith_slash_iff, String.toList_append,
    List.getLast?_append_of_ne_nil _ nonempty]
  exact fun last => isName.whole (List.mem_of_getLast? last)

/-- Names joined by slashes do not end with one. -/
theorem endsWith_append_names (text : String) (nonempty : names ≠ [])
    (isName : ∀ name ∈ names, IsName name) :
    (text ++ "/".intercalate names).endsWith "/" = false := by
  induction names generalizing text with
  | nil => contradiction
  | cons name rest ih =>
    obtain ⟨here, later⟩ := List.forall_mem_cons.mp isName
    by_cases last : rest = []
    · rw [last, String.intercalate_singleton]
      exact endsWith_append_name text here
    · rw [String.intercalate_cons_of_ne_nil last, ← String.append_assoc]
      exact ih _ last later

/-- The text of a place ends with a slash if that was asked for, or if the place is the root. -/
theorem endsWith_spell (isName : ∀ name ∈ place, IsName name) (slash : Bool) :
    (spell place slash).endsWith "/" = (slash || place.isEmpty) := by
  rw [spell, toString_absolute]
  cases place with
  | nil => simpa using endsWith_append_slash ""
  | cons first rest =>
    cases slash with
    | true => exact endsWith_append_slash _
    | false => simpa using endsWith_append_names "/" (List.cons_ne_nil _ _) isName

/-! ## Reading a text back -/

/-- A slash at the end gives an empty last part. -/
theorem slashParts_append_slash (text : String) :
    Path.slashParts (text ++ "/") = Path.slashParts text ++ [""] := by
  rw [Path.slashParts, String.toList_append]
  show (List.splitOn '/' (text.toList ++ '/' :: [])).map String.ofList = _
  rw [List.splitOn_append_cons_self, List.map_append]
  rfl

/-- Induction along the slashes of characters. -/
theorem slashInduction {motive : List Char → Prop}
    (single : ∀ chars, '/' ∉ chars → motive chars)
    (more : ∀ front back, '/' ∉ front → motive back → motive (front ++ '/' :: back))
    (chars : List Char) : motive chars := by
  induction length : chars.length using Nat.strongRecOn generalizing chars with
  | _ bound ih =>
    by_cases holds : '/' ∈ chars
    · obtain ⟨front, back, rfl, before⟩ := List.eq_append_cons_of_mem holds
      rw [List.length_append, List.length_cons] at length
      exact more front back before (ih back.length (by omega) back rfl)
    · exact single chars holds

/-- No part between slashes holds a slash. -/
theorem slash_not_mem_of_mem_slashParts {part : String} (member : part ∈ Path.slashParts text) :
    '/' ∉ part.toList := by
  have apart (chars : List Char) : ∀ piece ∈ chars.splitOn '/', '/' ∉ piece := by
    induction chars using slashInduction with
    | single chars whole => simpa [List.splitOn_eq_singleton whole] using whole
    | more front back before ih =>
      rw [List.splitOn_append_cons_self_of_not_mem before, List.forall_mem_cons]
      exact ⟨before, ih⟩
  obtain ⟨piece, among, rfl⟩ := List.mem_map.mp member
  rw [String.toList_ofList]
  exact apart _ piece among

/-- Every character but a slash is in a part between slashes. -/
theorem exists_mem_slashParts {c : Char} (member : c ∈ text.toList) (other : c ≠ '/') :
    ∃ part ∈ Path.slashParts text, c ∈ part.toList := by
  have found (chars : List Char) (member : c ∈ chars) : ∃ piece ∈ chars.splitOn '/', c ∈ piece := by
    induction chars using slashInduction with
    | single chars whole => exact ⟨chars, by simp [List.splitOn_eq_singleton whole], member⟩
    | more front back before ih =>
      rw [List.splitOn_append_cons_self_of_not_mem before]
      rcases List.mem_append.mp member with inside | later
      · exact ⟨front, List.mem_cons_self, inside⟩
      · obtain ⟨piece, among, inside⟩ := ih (List.mem_of_ne_of_mem other later)
        exact ⟨piece, List.mem_cons_of_mem _ among, inside⟩
  obtain ⟨piece, among, inside⟩ := found text.toList member
  exact ⟨String.ofList piece, List.mem_map_of_mem among, by rwa [String.toList_ofList]⟩

/-- A walk goes through parts that are not empty and hold no slash. -/
theorem of_mem_stepsOf (member : name ∈ stepsOf text) : name ≠ "" ∧ '/' ∉ name.toList := by
  have of_mem (among : name ∈ (Path.slashParts text).filter (· ≠ "")) :
      name ≠ "" ∧ '/' ∉ name.toList := by
    obtain ⟨part, nonempty⟩ := List.mem_filter.mp among
    exact ⟨by simpa using nonempty, slash_not_mem_of_mem_slashParts part⟩
  rw [stepsOf] at member
  split at member
  · rcases List.mem_append.mp member with among | last
    · exact of_mem among
    · rw [List.mem_singleton.mp last]
      decide
  · exact of_mem member

/-- Between the slashes of names that are joined by them stand the names. -/
theorem slashParts_intercalate (nonempty : names ≠ []) (isName : ∀ name ∈ names, IsName name) :
    Path.slashParts ("/".intercalate names) = names := by
  have joined : ("/".intercalate names).toList = ['/'].intercalate (names.map String.toList) :=
    String.toList_intercalate
  have apart : ∀ chars ∈ names.map String.toList, '/' ∉ chars := by
    intro chars member
    obtain ⟨name, among, rfl⟩ := List.mem_map.mp member
    exact (isName name among).whole
  rw [Path.slashParts, joined, List.splitOn_intercalate '/' apart (by simpa using nonempty),
    List.map_map]
  simp [Function.comp_def]

/-- A slash at the front gives an empty first part. -/
theorem slashParts_slash_append (text : String) :
    Path.slashParts ("/" ++ text) = "" :: Path.slashParts text := by
  rw [Path.slashParts, String.toList_append]
  show (List.splitOn '/' ([] ++ '/' :: text.toList)).map String.ofList = _
  rw [List.splitOn_append_cons_self_of_not_mem List.not_mem_nil, List.map_cons]
  rfl

/-- The nonempty parts of a place's text are its names. -/
theorem filter_slashParts_spell (isName : ∀ name ∈ place, IsName name) (slash : Bool) :
    (Path.slashParts (spell place slash)).filter (· ≠ "") = place := by
  have plain : (Path.slashParts (toString (Path.absolute place))).filter (· ≠ "") = place := by
    rw [toString_absolute, slashParts_slash_append]
    cases place with
    | nil => decide
    | cons first rest =>
      rw [slashParts_intercalate (List.cons_ne_nil _ _) isName, List.filter_cons_of_neg (by simp)]
      exact List.filter_eq_self.mpr fun name member => by simpa using (isName name member).nonempty
  rw [spell]
  split
  · rw [slashParts_append_slash, List.filter_append, plain]
    simp
  · rw [String.append_empty, plain]

/-- A walk along the text of a place goes through its names, and stays there if a slash asks for a
directory. -/
theorem stepsOf_spell (isName : ∀ name ∈ place, IsName name) (slash : Bool) :
    stepsOf (spell place slash) = if slash && !place.isEmpty then place ++ ["."] else place := by
  rw [stepsOf, filter_slashParts_spell isName, endsWith_spell isName]
  cases place <;> simp

/-- One slash at the front of a text is its root. -/
theorem rootOf_slash_append (single : text.startsWith "/" = false) :
    Path.rootOf ("/" ++ text) = "/" := by
  rw [Bool.eq_false_iff, Ne, startsWith_slash_iff] at single
  have whole : ("/" ++ text).toList = '/' :: text.toList := String.toList_append
  rw [Path.rootOf, whole]
  cases chars : text.toList with
  | nil => rfl
  | cons first rest =>
    have other : first ≠ '/' := by simpa [chars] using single
    split <;> simp_all

/-- Names joined by slashes do not begin with one. -/
theorem startsWith_intercalate (isName : ∀ name ∈ names, IsName name) (text : String)
    (nonempty : names ≠ []) : ("/".intercalate names ++ text).startsWith "/" = false := by
  cases names with
  | nil => contradiction
  | cons name rest =>
    have own := isName name List.mem_cons_self
    have front : (("/".intercalate (name :: rest) ++ text).toList).head? = name.toList.head? := by
      have chars : name.toList ≠ [] := by simpa using own.nonempty
      by_cases last : rest = []
      · rw [last, String.intercalate_singleton, String.toList_append,
          List.head?_append_of_ne_nil _ chars]
      · rw [String.intercalate_cons_of_ne_nil last, String.toList_append, String.toList_append,
          String.toList_append, List.append_assoc, List.append_assoc,
          List.head?_append_of_ne_nil _ chars]
    rw [Bool.eq_false_iff, Ne, startsWith_slash_iff, front]
    exact fun first => own.whole (List.mem_of_head? first)

/-- The text of a place is the path of the place. -/
theorem ofString_spell (isName : ∀ name ∈ place, IsName name) (slash : Bool) :
    Path.ofString (spell place slash) = .absolute place := by
  have root : Path.rootOf (spell place slash) = "/" := by
    rw [spell, toString_absolute, String.append_assoc]
    cases place with
    | nil => cases slash <;> decide
    | cons first rest =>
      exact rootOf_slash_append (startsWith_intercalate isName _ (List.cons_ne_nil _ _))
  have parts : (Path.slashParts (spell place slash)).filter
      (fun part => part ≠ "" && part ≠ ".") = place := by
    calc (Path.slashParts (spell place slash)).filter (fun part => part ≠ "" && part ≠ ".")
      _ = ((Path.slashParts (spell place slash)).filter (· ≠ "")).filter (· ≠ ".") := by
        rw [List.filter_filter]
        exact List.filter_congr fun part _ => Bool.and_comm _ _
      _ = place.filter (· ≠ ".") := by rw [filter_slashParts_spell isName]
      _ = place := List.filter_eq_self.mpr fun name member => by
        simpa using (isName name member).notHere
  rw [Path.ofString, root, parts]
  rfl

/-- Texts of places below the root tell the places and the slashes apart. -/
theorem spell_inj {other : Place} {slash slash' : Bool} (isName : ∀ name ∈ place, IsName name)
    (isNameOther : ∀ name ∈ other, IsName name) (nonempty : place ≠ [])
    (same : spell place slash = spell other slash') : place = other ∧ slash = slash' := by
  have path := congrArg Path.ofString same
  rw [ofString_spell isName, ofString_spell isNameOther] at path
  obtain rfl : place = other := congrArg Path.parts path
  have ends := congrArg (String.endsWith · "/") same
  have open' : place.isEmpty = false := List.isEmpty_eq_false_iff.mpr nonempty
  simp only [endsWith_spell isName, open', Bool.or_false] at ends
  exact ⟨rfl, ends⟩

end Text

end CompletionServer.Files
