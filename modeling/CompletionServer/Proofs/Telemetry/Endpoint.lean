import CompletionServer.Telemetry.Endpoint
import Mathlib.Data.List.Infix

/-!
# A slash behind the collector's address

The path of a signal is put behind what an address is without the version at its end, unless the
address ends with the path already. A slash behind an address is dropped before the version is
looked for, but after the path was looked for. It makes a difference therefore only behind a whole
path, which is then put there a second time. In every case the address that a signal is sent to
begins with the address that was given and ends with the path, and nothing is put behind it again.
-/

namespace CompletionServer

namespace Text

/-! ## Texts that trimming leaves alone -/

/-- Nothing is dropped from a list whose first character is not blank. -/
theorem dropWhile_blank_eq {chars : List Char}
    (visible : ∃ c ∈ chars.head?, isBlank c = false) :
    chars.dropWhile isBlank = chars := by
  obtain ⟨c, first, visible⟩ := visible
  cases chars with
  | nil => cases first
  | cons d rest =>
    obtain rfl : d = c := Option.some.inj first
    exact List.dropWhile_cons_of_neg (by simp [visible])

/-- Characters of which the first and the last are not blank. -/
structure Solid (chars : List Char) : Prop where
  front : ∃ c ∈ chars.head?, isBlank c = false
  back : ∃ c ∈ chars.getLast?, isBlank c = false

namespace Solid

variable {chars start ending : List Char}

/-- Only the beginning and the end matter. -/
theorem of_ends (first : Solid start) (begins : start <+: chars) (last : Solid ending)
    (ends : ending <:+ chars) : Solid chars := by
  obtain ⟨c, atFront, visible⟩ := first.front
  obtain ⟨d, atBack, seen⟩ := last.back
  obtain ⟨rest, rfl⟩ := begins
  obtain ⟨before, same⟩ := ends
  refine ⟨⟨c, ?_, visible⟩, ⟨d, ?_, seen⟩⟩
  · rw [Option.mem_def] at atFront ⊢
    rw [List.head?_append, atFront, Option.some_or]
  · rw [Option.mem_def] at atBack ⊢
    rw [← same, List.getLast?_append, atBack, Option.some_or]

/-- A text whose first and last characters are not blank is not empty. -/
theorem ne_empty {text : String} (solid : Solid text.toList) : text ≠ "" := by
  rintro rfl
  obtain ⟨c, first, -⟩ := solid.front
  cases first

/-- Trimming leaves such a text as it is. -/
theorem trim_eq {text : String} (solid : Solid text.toList) : trim text = text := by
  have back : ∃ c ∈ text.toList.reverse.head?, isBlank c = false := by
    rw [List.head?_reverse]
    exact solid.back
  rw [trim, trimmed, dropWhile_blank_eq solid.front, dropWhile_blank_eq back, List.reverse_reverse,
    String.ofList_toList]

end Solid

end Text

namespace Telemetry

/-! ## Paths behind addresses -/

/-- What holds of the path of a signal: the version comes first and not last, and it ends with a
character that is neither a slash nor a blank. -/
structure SignalPath (path : List Char) : Prop where
  versioned : versionPath <+: path
  further : ¬versionPath <:+ path
  unslashed : path.getLast? ≠ some '/'
  solid : Text.Solid path

/-- An address without the version at its end. -/
def stem (address : List Char) : List Char :=
  if versionPath.isSuffixOf address then address.take (address.length - versionPath.length)
  else address

/-- An address that ends with the version is its stem and the version. -/
theorem stem_append_version {address : List Char} (ends : versionPath <:+ address) :
    stem address ++ versionPath = address := by
  rw [stem, if_pos (List.isSuffixOf_iff_suffix.mpr ends)]
  exact List.suffix_iff_eq_append.mp ends

/-- An address that does not end with the version is its own stem. -/
theorem stem_eq_self {address : List Char} (other : ¬versionPath <:+ address) :
    stem address = address := by
  rw [stem, if_neg (List.isSuffixOf_iff_suffix.not.mpr other)]

namespace SignalPath

variable {address path : List Char}

/-- An address that ends with a path does not end with the version. -/
theorem stem_eq (signal : SignalPath path) (ends : path <:+ address) : stem address = address := by
  apply stem_eq_self
  intro versioned
  have shorter : versionPath.length ≤ path.length := signal.versioned.length_le
  exact signal.further (List.suffix_of_suffix_length_le versioned ends shorter)

/-- A path put behind a stem begins with the address: the version that was taken away comes
back. -/
theorem prefix_stem_append (signal : SignalPath path) : address <+: stem address ++ path := by
  obtain ⟨name, rfl⟩ := signal.versioned
  by_cases versioned : versionPath <:+ address
  · rw [← List.append_assoc, stem_append_version versioned]
    exact List.prefix_append _ _
  · rw [stem_eq_self versioned]
    exact List.prefix_append _ _

/-- Not repeating the version is the same as taking it away first. -/
theorem join_eq (signal : SignalPath path) :
    (if versionPath.isSuffixOf address then address ++ path.drop versionPath.length
      else address ++ path) = stem address ++ path := by
  obtain ⟨name, rfl⟩ := signal.versioned
  by_cases versioned : versionPath <:+ address
  · rw [if_pos (List.isSuffixOf_iff_suffix.mpr versioned), List.drop_left, ← List.append_assoc,
      stem_append_version versioned]
  · rw [if_neg (List.isSuffixOf_iff_suffix.not.mpr versioned), stem_eq_self versioned]

/-- No path ends with a slash, so none is found behind an address with one. -/
theorem not_suffix_slash (signal : SignalPath path) : ¬path <:+ address ++ ['/'] := by
  rintro ⟨before, same⟩
  obtain ⟨c, last, -⟩ := signal.solid.back
  have slash : path.getLast? = some '/' := by
    have ends := congrArg List.getLast? same
    rw [List.getLast?_append, last, Option.some_or, List.getLast?_concat] at ends
    rw [last, ends]
  exact signal.unslashed slash

end SignalPath

section

variable {address path : List Char}

/-- A path that is already at the end is not added again. -/
theorem appendPath_of_suffix (ends : path <:+ address) : appendPath address path = address := by
  rw [appendPath, if_pos (List.isSuffixOf_iff_suffix.mpr ends)]

/-- A path is added to the stem of an address that does not end with it. -/
theorem appendPath_of_not_suffix (signal : SignalPath path) (other : ¬path <:+ address)
    (unslashed : address.getLast? ≠ some '/') : appendPath address path = stem address ++ path := by
  rw [appendPath, if_neg (List.isSuffixOf_iff_suffix.not.mpr other)]
  simp only [if_neg unslashed]
  exact signal.join_eq

/-- With a slash behind it, no address is seen to end with the path. -/
theorem appendPath_slash (signal : SignalPath path) :
    appendPath (address ++ ['/']) path = stem address ++ path := by
  have slash : (address ++ ['/']).getLast? = some '/' := List.getLast?_concat
  -- The path is looked for while the slash is still there.
  rw [appendPath, if_neg (List.isSuffixOf_iff_suffix.not.mpr signal.not_suffix_slash)]
  simp only [if_pos slash, List.dropLast_concat]
  exact signal.join_eq

end

/-! ## Addresses of signals -/

/-- An address that is not blank, with no blank at either end and no slash at its end. -/
structure Tidy (address : String) : Prop where
  visible : Text.isBlankText address = false
  front : address.toList.head?.any Text.isBlank = false
  back : address.toList.getLast?.any Text.isBlank = false
  unslashed : address.toList.getLast? ≠ some '/'

/-- An address of signals is settled if it begins with the address that was given and ends with the
path, and if giving it changes nothing. -/
structure Settled (address path endpoint : String) : Prop where
  begins : address.toList <+: endpoint.toList
  ends : path.toList <:+ endpoint.toList
  stable : signalEndpoint endpoint path = endpoint

section

variable {address path : String}

/-- A tidy address begins and ends with no blank. -/
theorem Tidy.solid (tidy : Tidy address) : Text.Solid address.toList := by
  have some : address.toList ≠ [] := by
    intro none
    have visible := tidy.visible
    rw [Text.isBlankText, none] at visible
    cases visible
  have first := List.head?_eq_some_head some
  have last := List.getLast?_eq_some_getLast some
  have front := tidy.front
  have back := tidy.back
  rw [first, Option.any_some] at front
  rw [last, Option.any_some] at back
  exact ⟨⟨_, first, front⟩, ⟨_, last, back⟩⟩

/-- The address of a signal is the given address with the path added, if no blank is around it. -/
theorem signalEndpoint_of_solid (solid : Text.Solid address.toList) (path : String) :
    signalEndpoint address path = String.ofList (appendPath address.toList path.toList) := by
  simp only [signalEndpoint, solid.trim_eq, if_neg solid.ne_empty]

/-- An address that ends with the path is used as it is. -/
theorem signalEndpoint_of_suffix (solid : Text.Solid address.toList)
    (ends : path.toList <:+ address.toList) : signalEndpoint address path = address := by
  rw [signalEndpoint_of_solid solid, appendPath_of_suffix ends, String.ofList_toList]

/-- Without the path at its end, an address has it put behind its stem. -/
theorem signalEndpoint_of_not_suffix (tidy : Tidy address) (signal : SignalPath path.toList)
    (other : ¬path.toList <:+ address.toList) :
    signalEndpoint address path = String.ofList (stem address.toList ++ path.toList) := by
  rw [signalEndpoint_of_solid tidy.solid, appendPath_of_not_suffix signal other tidy.unslashed]

/-- With a slash behind it, every address has the path put behind its stem. -/
theorem signalEndpoint_slash (tidy : Tidy address) (signal : SignalPath path.toList) :
    signalEndpoint (address ++ "/") path = String.ofList (stem address.toList ++ path.toList) := by
  have chars : (address ++ "/").toList = address.toList ++ ['/'] := String.toList_append
  have slash : Text.Solid ['/'] := ⟨⟨'/', rfl, rfl⟩, ⟨'/', rfl, rfl⟩⟩
  have whole : Text.Solid (address ++ "/").toList := by
    rw [chars]
    exact tidy.solid.of_ends (List.prefix_append _ _) slash (List.suffix_append _ _)
  rw [signalEndpoint_of_solid whole, chars, appendPath_slash signal]

namespace Settled

variable {endpoint : String}

/-- An address that begins and ends as it has to is settled. -/
theorem of_ends (tidy : Tidy address) (signal : SignalPath path.toList)
    (begins : address.toList <+: endpoint.toList) (ends : path.toList <:+ endpoint.toList) :
    Settled address path endpoint where
  begins := begins
  ends := ends
  stable := signalEndpoint_of_suffix (tidy.solid.of_ends begins signal.solid ends) ends

/-- The path put behind the stem of an address makes an address that is settled. -/
theorem of_stem (tidy : Tidy address) (signal : SignalPath path.toList) :
    Settled address path (String.ofList (stem address.toList ++ path.toList)) := by
  apply of_ends tidy signal
  · rw [String.toList_ofList]
    exact signal.prefix_stem_append
  · rw [String.toList_ofList]
    exact List.suffix_append _ _

end Settled

/-- The paths in use are paths of signals. -/
theorem signalPath_of_eq (used : path = tracesPath ∨ path = metricsPath) :
    SignalPath path.toList := by
  rcases used with rfl | rfl
  all_goals
    refine ⟨by decide, by decide, by decide, ⟨'/', ?_, ?_⟩, ⟨'s', ?_, ?_⟩⟩ <;> decide

end

/-- A slash behind a tidy address matters only if the address ends with the signal's whole path.

- Without the path at its end, the address with a slash gives the same as without it.
- With the path, the address is kept as it is, and with a slash behind it the path is put there
  again.
- Either way the signal is sent to an address that begins with the one given and ends with the
  path, and giving that address changes nothing any more. -/
theorem slash_matters_only_behind_path {address path : String} (tidy : Tidy address)
    (used : path = tracesPath ∨ path = metricsPath) :
    (signalEndpoint (address ++ "/") path = signalEndpoint address path ↔
      ¬path.toList <:+ address.toList) ∧
    (path.toList <:+ address.toList → signalEndpoint address path = address ∧
      signalEndpoint (address ++ "/") path = address ++ path) ∧
    Settled address path (signalEndpoint address path) ∧
    Settled address path (signalEndpoint (address ++ "/") path) := by
  have signal := signalPath_of_eq used
  have slashed := signalEndpoint_slash tidy signal
  have settled : Settled address path (signalEndpoint (address ++ "/") path) := by
    rw [slashed]
    exact .of_stem tidy signal
  by_cases ends : path.toList <:+ address.toList
  · have kept := signalEndpoint_of_suffix tidy.solid ends
    -- A whole path has no version at its end, so all of it stays before the second one.
    have again : signalEndpoint (address ++ "/") path = address ++ path := by
      rw [slashed, signal.stem_eq ends, String.ofList_append, String.ofList_toList,
        String.ofList_toList]
    refine ⟨?_, fun _ => ⟨kept, again⟩, ?_, settled⟩
    · rw [again, kept, iff_false_right (not_not_intro ends), String.append_eq_left_iff]
      exact signal.solid.ne_empty
    · rw [kept]
      exact .of_ends tidy signal (List.prefix_refl _) ends
  · have same : signalEndpoint (address ++ "/") path = signalEndpoint address path := by
      rw [slashed, signalEndpoint_of_not_suffix tidy signal ends]
    exact ⟨iff_of_true same ends, fun behind => absurd behind ends, same ▸ settled, settled⟩

/-- The slash does nothing behind a host and behind the version, and behind the path of traces it
doubles the path. -/
theorem slash_matters_only_behind_path_of_traces :
    signalEndpoint "http://h:4318/" tracesPath = signalEndpoint "http://h:4318" tracesPath ∧
    signalEndpoint "http://h:4318/v1/" metricsPath = signalEndpoint "http://h:4318/v1" metricsPath ∧
    signalEndpoint "http://h:4318/v1/traces/" tracesPath = "http://h:4318/v1/traces/v1/traces" ∧
    signalEndpoint "http://h:4318/v1/traces/" tracesPath ≠
      signalEndpoint "http://h:4318/v1/traces" tracesPath := by
  have host : Tidy "http://h:4318" := ⟨by decide, by decide, by decide, by decide⟩
  have version : Tidy "http://h:4318/v1" := ⟨by decide, by decide, by decide, by decide⟩
  have whole : Tidy "http://h:4318/v1/traces" := ⟨by decide, by decide, by decide, by decide⟩
  have ends : tracesPath.toList <:+ "http://h:4318/v1/traces".toList := by decide
  obtain ⟨doubled, again, -⟩ := slash_matters_only_behind_path whole (.inl rfl)
  exact ⟨(slash_matters_only_behind_path host (.inl rfl)).1.mpr (by decide),
    (slash_matters_only_behind_path version (.inr rfl)).1.mpr (by decide),
    (again ends).2, fun same => doubled.mp same ends⟩

end Telemetry

end CompletionServer
