import CompletionServer.Proofs.Json.Tokens
import CompletionServer.Proofs.Outcome
import Mathlib.Data.List.Nodup

/-!
# The grammar of JSON

`Spells` says which characters are a text of a value, independent of how they are read: texts,
numbers, words, and arrays and objects with blanks wherever they may stand. Every text of a value
that is not nested too deeply is read as this value.
-/

namespace CompletionServer.Json

/-! ## Values -/

/-- Characters that are blanks. -/
abbrev Blanks : Type := { chars : List Char // ∀ c ∈ chars, isSpace c = true }

/-- A value's characters with blanks around them. -/
structure ItemText where
  front : Blanks
  core : List Char
  back : Blanks

/-- All characters of an item. -/
def ItemText.chars (item : ItemText) : List Char :=
  item.front ++ (item.core ++ item.back)

/-- The characters of a key, between its quotes, and of its value, with blanks around them. -/
structure FieldText where
  front : Blanks
  key : List Char
  beforeColon : Blanks
  item : ItemText

/-- All characters of a field. -/
def FieldText.chars (field : FieldText) : List Char :=
  field.front ++ '"' :: (field.key ++ '"' :: (field.beforeColon ++ ':' :: field.item.chars))

/-- The characters of a value inside which arrays and objects stand at most `room` deep. An object's
keys are distinct. -/
inductive Spells : (room : Nat) → List Char → Json → Prop
  | word {room : Nat} {word : String} {value : Json} (member : (word, value) ∈ words) :
      Spells room word.toList value
  | number {room : Nat} {negative : Bool} {chars : List Char} {value : Json}
      (spells : NumberSpells negative chars value) : Spells room (signOf negative ++ chars) value
  | text {room : Nat} {chars : List Char} {codes : List Nat} (spells : TextSpells chars codes) :
      Spells room ('"' :: (chars ++ ['"'])) (.text ⟨codes⟩)
  | emptyArray {room : Nat} (blanks : Blanks) :
      Spells (room + 1) ('[' :: (blanks ++ [']'])) (.array [])
  | array {room : Nat} {parts : List (ItemText × Json)} (nonempty : parts ≠ [])
      (each : ∀ part ∈ parts, Spells room part.1.core part.2) :
      Spells (room + 1) ('[' :: ([','].intercalate (parts.map (·.1.chars)) ++ [']']))
        (.array (parts.map (·.2)))
  | emptyObject {room : Nat} (blanks : Blanks) :
      Spells (room + 1) ('\x7b' :: (blanks ++ ['\x7d'])) (.object [])
  | object {room : Nat} {parts : List (FieldText × Text.Points × Json)} (nonempty : parts ≠ [])
      (distinct : (parts.map (·.2.1)).Nodup)
      (keys : ∀ part ∈ parts, TextSpells part.1.key part.2.1.codes)
      (each : ∀ part ∈ parts, Spells room part.1.item.core part.2.2) :
      Spells (room + 1) ('\x7b' :: ([','].intercalate (parts.map (·.1.chars)) ++ ['\x7d']))
        (.object (parts.map (·.2)))

/-- A text of a value, with blanks around it. -/
def IsTextOf (text : String) (value : Json) : Prop :=
  ∃ item : ItemText, item.chars = text.toList ∧ Spells depthLimit item.core value

/-! ## Values are read -/

section Values

variable {room fuel : Nat} {chars rest : List Char} {value : Json}

/-- Blanks at the front are skipped. -/
theorem skipSpace_blanks (blanks : Blanks) (rest : List Char) :
    skipSpace (blanks ++ rest) = skipSpace rest :=
  List.dropWhile_append_of_pos blanks.property

/-- What begins with no blank is left as it is. -/
theorem skipSpace_cons {c : Char} (visible : isSpace c = false) (rest : List Char) :
    skipSpace (c :: rest) = c :: rest :=
  List.dropWhile_cons_of_neg (by simp [visible])

/-- Characters begin with one that is neither a blank nor a closing bracket. -/
def Begins (chars : List Char) : Prop :=
  ∃ c tail, chars = c :: tail ∧ isSpace c = false ∧ c ≠ ']' ∧ c ≠ '\ufeff'

/-- A value that begins with no blank is left as it is, whatever follows it. -/
theorem Begins.skipSpace_append (begins : Begins chars) (rest : List Char) :
    skipSpace (chars ++ rest) = chars ++ rest := by
  obtain ⟨c, tail, rfl, visible, -, -⟩ := begins
  exact skipSpace_cons visible _

/-- A digit is no character that is not one. -/
theorem ne_of_isDigit {digit c : Char} (isDigit : digit.isDigit = true) (none : c.isDigit = false) :
    digit ≠ c := by
  rintro rfl
  rw [isDigit] at none
  contradiction

/-- Digits begin a value. -/
theorem begins_of_isDigits (digits : IsDigits chars) : Begins chars := by
  obtain ⟨first, others, rfl⟩ := List.exists_cons_of_ne_nil digits.nonempty
  have digit : first.isDigit = true := digits.each first List.mem_cons_self
  refine ⟨first, others, rfl, ?_, ne_of_isDigit digit (by decide),
    ne_of_isDigit digit (by decide)⟩
  rw [Bool.eq_false_iff, Ne, isSpace_iff]
  rintro (rfl | rfl | rfl | rfl) <;> contradiction

/-- The spelling of a number begins with digits, behind its sign. -/
theorem NumberSpells.isDigits_append {negative : Bool}
    (spells : NumberSpells negative chars value) :
    ∃ whole tail, chars = whole ++ tail ∧ IsDigits whole := by
  cases spells with
  | integer isWhole _ => exact ⟨_, [], (List.append_nil _).symm, isWhole.toIsDigits⟩
  | real isWhole _ _ _ => exact ⟨_, _, rfl, isWhole.toIsDigits⟩

/-- What begins a value does so whatever follows it. -/
theorem begins_append (begins : Begins chars) (rest : List Char) : Begins (chars ++ rest) := by
  obtain ⟨c, tail, rfl, own⟩ := begins
  exact ⟨c, tail ++ rest, rfl, own⟩

/-- There are six words. -/
theorem eq_of_mem_words {word : String} (member : (word, value) ∈ words) :
    word = "null" ∨ word = "true" ∨ word = "false" ∨ word = "NaN" ∨ word = "Infinity" ∨
      word = "-Infinity" := by
  have named : word ∈ words.map (·.1) := List.mem_map.mpr ⟨_, member, rfl⟩
  simpa [words] using named

/-- Every spelling begins a value. -/
theorem Spells.begins (spells : Spells room chars value) : Begins chars := by
  cases spells with
  | word member =>
    rcases eq_of_mem_words member with rfl | rfl | rfl | rfl | rfl | rfl
    all_goals exact ⟨_, _, rfl, by decide, by decide, by decide⟩
  | @number _ negative chars _ spells =>
    obtain ⟨whole, tail, rfl, digits⟩ := spells.isDigits_append
    cases negative with
    | true => exact ⟨'-', _, rfl, by decide, by decide, by decide⟩
    | false => exact begins_append (begins_of_isDigits digits) tail
  | text _ => exact ⟨'"', _, rfl, by decide, by decide, by decide⟩
  | emptyArray _ => exact ⟨'[', _, rfl, by decide, by decide, by decide⟩
  | array _ _ => exact ⟨'[', _, rfl, by decide, by decide, by decide⟩
  | emptyObject _ => exact ⟨'\x7b', _, rfl, by decide, by decide, by decide⟩
  | object _ _ _ _ => exact ⟨'\x7b', _, rfl, by decide, by decide, by decide⟩

/-- A value is ended by a comma or a closing bracket behind blanks. -/
theorem ends_blanks (blanks : Blanks) {c : Char} (closes : c = ',' ∨ c = ']' ∨ c = '\x7d')
    (rest : List Char) : Ends (blanks ++ c :: rest) := by
  obtain ⟨chars, spaces⟩ := blanks
  intro first own
  cases chars with
  | nil => exact .inr (Option.some.inj own ▸ closes)
  | cons space chars => exact .inl (Option.some.inj own ▸ spaces space List.mem_cons_self)

/-- A word at the front is found. -/
theorem readWord?_of_mem {word : String} (member : (word, value) ∈ words) (rest : List Char) :
    readWord? (word.toList ++ rest) = some (value, rest) := by
  simp only [words, List.mem_cons, List.not_mem_nil, or_false, Prod.mk.injEq] at member
  rcases member with ⟨rfl, rfl⟩ | ⟨rfl, rfl⟩ | ⟨rfl, rfl⟩ | ⟨rfl, rfl⟩ | ⟨rfl, rfl⟩ | ⟨rfl, rfl⟩
  all_goals rfl

/-- A word is read as its value. -/
theorem readValue_word {word : String} (member : (word, value) ∈ words) (fuel room : Nat)
    (rest : List Char) : readValue (fuel + 1) room (word.toList ++ rest) = .ok (value, rest) := by
  have found := readWord?_of_mem member rest
  rcases eq_of_mem_words member with rfl | rfl | rfl | rfl | rfl | rfl
  all_goals
    rw [readValue.eq_def]
    simp only [found]
    rfl

/-- There is no word where none of the words begins. -/
theorem readWord?_eq_none
    (differs : ∀ word value, (word, value) ∈ words → word.toList.isPrefixOf chars = false) :
    readWord? chars = none := by
  rw [readWord?, List.findSome?_eq_none_iff]
  rintro ⟨word, value⟩ member
  dsimp only
  rw [afterWord?, differs word value member]
  rfl

/-- There is no word where a number begins. -/
theorem readWord?_number (negative : Bool) {first : Char} (digit : first.isDigit = true)
    (rest : List Char) : readWord? (signOf negative ++ first :: rest) = none := by
  have other {c : Char} (none : c.isDigit = false) : c ≠ first := (ne_of_isDigit digit none).symm
  refine readWord?_eq_none fun word value member => ?_
  rcases eq_of_mem_words member with rfl | rfl | rfl | rfl | rfl | rfl
  all_goals
    cases negative
    all_goals simp [signOf, List.isPrefixOf, other]

/-- What begins like no other value is a number. -/
theorem readValue_otherwise {c : Char} (quote : c ≠ '"') (bracket : c ≠ '[') (brace : c ≠ '\x7b')
    (minus : c ≠ '-') (none : readWord? (c :: rest) = none) :
    readValue (fuel + 1) room (c :: rest) = readNumber false (c :: rest) := by
  rw [readValue.eq_def]
  dsimp only
  split
  · next same => exact absurd (List.cons.inj same).1 quote
  · next same => exact absurd (List.cons.inj same).1 bracket
  · next same => exact absurd (List.cons.inj same).1 brace
  · rw [none]
    dsimp only
    split
    · next same => exact absurd (List.cons.inj same).1 minus
    · rfl

/-- The spelling of a number is read as the number. -/
theorem readValue_number {negative : Bool} (spells : NumberSpells negative chars value)
    (ends : Ends rest) (fuel room : Nat) :
    readValue (fuel + 1) room (signOf negative ++ chars ++ rest) = .ok (value, rest) := by
  have number := readNumber_of_spells spells ends
  obtain ⟨whole, tail, rfl, digits⟩ := spells.isDigits_append
  obtain ⟨first, others, rfl⟩ := List.exists_cons_of_ne_nil digits.nonempty
  have digit : first.isDigit = true := digits.each first List.mem_cons_self
  have none := readWord?_number negative digit (others ++ tail ++ rest)
  have other {c : Char} (none : c.isDigit = false) : first ≠ c := ne_of_isDigit digit none
  cases negative with
  | true =>
    rw [readValue.eq_def]
    simp only [signOf, if_true, List.cons_append, List.nil_append] at none ⊢
    simp only [none]
    exact number
  | false =>
    simp only [signOf, Bool.false_eq_true, if_false, List.cons_append, List.nil_append] at none ⊢
    rw [readValue_otherwise (other (by decide)) (other (by decide)) (other (by decide))
      (other (by decide)) none]
    exact number

/-- The spelling of a text is read as the text. -/
theorem readValue_text {codes : List Nat} (spells : TextSpells chars codes) (fuel room : Nat)
    (rest : List Char) :
    readValue (fuel + 1) room ('"' :: (chars ++ '"' :: rest)) = .ok (.text ⟨codes⟩, rest) := by
  have enough : chars.length < (chars ++ '"' :: rest).length + 1 := by
    rw [List.length_append]
    omega
  rw [readValue.eq_def]
  simp only [readString_of_spells spells enough]
  rfl

/-- A value is read wherever it may end. -/
def ReadAs (room : Nat) (chars : List Char) (value : Json) : Prop :=
  ∀ fuel rest, 2 * chars.length ≤ fuel → Ends rest →
    readValue fuel room (chars ++ rest) = .ok (value, rest)

/-- An item begins once the blanks in front of it are passed. -/
theorem ItemText.skipSpace_chars {item : ItemText} (begins : Begins item.core) (rest : List Char) :
    skipSpace (item.chars ++ rest) = item.core ++ (item.back ++ rest) := by
  rw [ItemText.chars, List.append_assoc, List.append_assoc, skipSpace_blanks,
    begins.skipSpace_append]

/-- What follows the blanks behind a value. -/
theorem skipSpace_close (blanks : Blanks) {c : Char} (closes : c = ',' ∨ c = ']' ∨ c = '\x7d')
    (rest : List Char) : skipSpace (blanks ++ c :: rest) = c :: rest := by
  have visible : isSpace c = false := by
    rcases closes with rfl | rfl | rfl <;> decide
  rw [skipSpace_blanks, skipSpace_cons visible]

/-- The first of several parts stands before a comma and the others. -/
theorem intercalate_cons (first : List Char) {others : List (List Char)} (more : others ≠ []) :
    [','].intercalate (first :: others) = first ++ ',' :: [','].intercalate others := by
  obtain ⟨next, others, rfl⟩ := List.exists_cons_of_ne_nil more
  rw [List.intercalate_cons_cons, List.append_assoc, List.singleton_append]

section Items

variable {item : ItemText}

/-- The last item of an array is read, and the array with it. -/
theorem readItems_last (begins : Begins item.core) (reads : ReadAs room item.core value)
    (enough : 2 * item.core.length ≤ fuel) (before : List Json) (rest : List Char) :
    readItems (fuel + 1) room before (skipSpace (item.chars ++ ']' :: rest)) =
      .ok (.array (before ++ [value]), rest) := by
  have closes : ']' = ',' ∨ ']' = ']' ∨ ']' = '\x7d' := .inr (.inl rfl)
  rw [ItemText.skipSpace_chars begins, readItems,
    reads fuel _ enough (ends_blanks item.back closes rest), Outcome.ok_bind]
  simp only [skipSpace_close item.back closes rest]
  rfl

/-- An item before a comma is read, and the items go on behind it. -/
theorem readItems_next (begins : Begins item.core) (reads : ReadAs room item.core value)
    (enough : 2 * item.core.length ≤ fuel) (before : List Json) (rest : List Char) :
    readItems (fuel + 1) room before (skipSpace (item.chars ++ ',' :: rest)) =
      readItems fuel room (before ++ [value]) (skipSpace rest) := by
  rw [ItemText.skipSpace_chars begins, readItems,
    reads fuel _ enough (ends_blanks item.back (.inl rfl) rest), Outcome.ok_bind]
  simp only [skipSpace_close item.back (.inl rfl) rest]

/-- An item is at least as long as its core. -/
theorem ItemText.length_core_le (item : ItemText) : item.core.length ≤ item.chars.length := by
  rw [ItemText.chars, List.length_append, List.length_append]
  omega

/-- Items are read one after the other up to the closing bracket. -/
theorem readItems_of_parts {parts : List (ItemText × Json)} (nonempty : parts ≠ [])
    (each : ∀ part ∈ parts, Begins part.1.core ∧ ReadAs room part.1.core part.2)
    (enough : 2 * ([','].intercalate (parts.map (·.1.chars))).length < fuel) (before : List Json)
    (rest : List Char) :
    readItems fuel room before
        (skipSpace ([','].intercalate (parts.map (·.1.chars)) ++ ']' :: rest)) =
      .ok (.array (before ++ parts.map (·.2)), rest) := by
  induction parts generalizing fuel before with
  | nil => contradiction
  | cons part more ih =>
    obtain ⟨fuel, rfl⟩ := Nat.exists_eq_add_one_of_ne_zero (Nat.ne_zero_of_lt enough)
    obtain ⟨begins, reads⟩ := each part List.mem_cons_self
    have inside := part.1.length_core_le
    by_cases last : more = []
    · rw [last, List.map_singleton, List.intercalate_singleton] at enough ⊢
      exact readItems_last begins reads (by omega) before rest
    · have further : more.map (·.1.chars) ≠ [] := by simpa using last
      rw [List.map_cons, intercalate_cons _ further] at enough ⊢
      rw [List.length_append, List.length_cons] at enough
      have less : 2 * ([','].intercalate (more.map (·.1.chars))).length < fuel := by omega
      have later := ih last (fun part member => each part (List.mem_cons_of_mem _ member)) less
        (before ++ [part.2])
      rw [List.append_assoc, List.cons_append, readItems_next begins reads (by omega), later,
        List.append_assoc]
      rfl

end Items

section Fields

variable {field : FieldText} {key : Text.Points} {before : Fields}

/-- A field begins with the quote of its key. -/
theorem FieldText.skipSpace_chars (field : FieldText) (rest : List Char) :
    skipSpace (field.chars ++ rest) = '"' :: (field.key ++ '"' ::
      (field.beforeColon ++ ':' :: (field.item.chars ++ rest))) := by
  rw [FieldText.chars, List.append_assoc, skipSpace_blanks, List.cons_append,
    skipSpace_cons (by decide)]
  simp

/-- A key is read up to the value behind its colon. -/
theorem readFields_key (spells : TextSpells field.key key.codes) (rest : List Char) :
    readString ((field.key ++ '"' :: rest).length + 1) [] (field.key ++ '"' :: rest) =
      .ok (key, rest) := by
  have enough : field.key.length < (field.key ++ '"' :: rest).length + 1 := by
    rw [List.length_append]
    omega
  exact readString_of_spells spells enough [] rest

/-- Blanks before a colon are skipped. -/
theorem skipSpace_colon (blanks : Blanks) (rest : List Char) :
    skipSpace (blanks ++ ':' :: rest) = ':' :: rest := by
  rw [skipSpace_blanks, skipSpace_cons (by decide)]

/-- The last field of an object is read, and the object with it. -/
theorem readFields_last (spells : TextSpells field.key key.codes)
    (begins : Begins field.item.core) (reads : ReadAs room field.item.core value)
    (enough : 2 * field.item.core.length ≤ fuel) (rest : List Char) :
    readFields (fuel + 1) room before (skipSpace (field.chars ++ '\x7d' :: rest)) =
      .ok (.object (insertField before key value), rest) := by
  have closes : '\x7d' = ',' ∨ '\x7d' = ']' ∨ '\x7d' = '\x7d' := .inr (.inr rfl)
  have read := reads fuel _ enough (ends_blanks field.item.back closes rest)
  rw [FieldText.skipSpace_chars, readFields, readFields_key spells, Outcome.ok_bind]
  simp only [skipSpace_colon, ItemText.skipSpace_chars begins, read, Outcome.ok_bind,
    skipSpace_close field.item.back closes rest]
  rfl

/-- A field before a comma is read, and the fields go on behind it. -/
theorem readFields_next (spells : TextSpells field.key key.codes)
    (begins : Begins field.item.core) (reads : ReadAs room field.item.core value)
    (enough : 2 * field.item.core.length ≤ fuel) (rest : List Char) :
    readFields (fuel + 1) room before (skipSpace (field.chars ++ ',' :: rest)) =
      readFields fuel room (insertField before key value) (skipSpace rest) := by
  have read := reads fuel _ enough (ends_blanks field.item.back (.inl rfl) rest)
  rw [FieldText.skipSpace_chars, readFields, readFields_key spells, Outcome.ok_bind]
  simp only [skipSpace_colon, ItemText.skipSpace_chars begins, read, Outcome.ok_bind,
    skipSpace_close field.item.back (.inl rfl) rest]

/-- A new key is put behind the others. -/
theorem insertField_of_not_mem (fresh : key ∉ before.map (·.1)) :
    insertField before key value = before ++ [(key, value)] := by
  have absent : before.any (·.1 == key) = false := by
    rw [List.any_eq_false]
    intro field member same
    exact fresh (List.mem_map.mpr ⟨field, member, by simpa using same⟩)
  rw [insertField, absent]
  rfl

/-- A field is longer than the core of its value. -/
theorem FieldText.length_core_lt (field : FieldText) :
    field.item.core.length < field.chars.length := by
  have inside := field.item.length_core_le
  simp only [FieldText.chars, List.length_append, List.length_cons]
  omega

/-- Fields are read one after the other up to the closing brace. -/
theorem readFields_of_parts {parts : List (FieldText × Text.Points × Json)} (nonempty : parts ≠ [])
    (before : Fields) (distinct : (before.map (·.1) ++ parts.map (·.2.1)).Nodup)
    (keys : ∀ part ∈ parts, TextSpells part.1.key part.2.1.codes)
    (each : ∀ part ∈ parts, Begins part.1.item.core ∧ ReadAs room part.1.item.core part.2.2)
    (enough : 2 * ([','].intercalate (parts.map (·.1.chars))).length < fuel) (rest : List Char) :
    readFields fuel room before
        (skipSpace ([','].intercalate (parts.map (·.1.chars)) ++ '\x7d' :: rest)) =
      .ok (.object (before ++ parts.map (·.2)), rest) := by
  induction parts generalizing fuel before with
  | nil => contradiction
  | cons part more ih =>
    obtain ⟨fuel, rfl⟩ := Nat.exists_eq_add_one_of_ne_zero (Nat.ne_zero_of_lt enough)
    obtain ⟨begins, reads⟩ := each part List.mem_cons_self
    have spells := keys part List.mem_cons_self
    have inside := part.1.length_core_lt
    have moved : before.map (·.1) ++ (part :: more).map (·.2.1) =
        (before ++ [part.2]).map (·.1) ++ more.map (·.2.1) := by simp
    have fresh : part.2.1 ∉ before.map (·.1) := fun member =>
      List.disjoint_of_nodup_append distinct member (by simp)
    by_cases last : more = []
    · rw [last, List.map_singleton, List.intercalate_singleton] at enough ⊢
      rw [readFields_last spells begins reads (by omega), insertField_of_not_mem fresh]
      rfl
    · have further : more.map (·.1.chars) ≠ [] := by simpa using last
      rw [List.map_cons, intercalate_cons _ further] at enough ⊢
      rw [List.length_append, List.length_cons] at enough
      have less : 2 * ([','].intercalate (more.map (·.1.chars))).length < fuel := by omega
      have later := ih last (before ++ [part.2]) (moved ▸ distinct)
        (fun part member => keys part (List.mem_cons_of_mem _ member))
        (fun part member => each part (List.mem_cons_of_mem _ member)) less
      rw [List.append_assoc, List.cons_append, readFields_next spells begins reads (by omega),
        insertField_of_not_mem fresh, later, List.append_assoc]
      rfl

end Fields

/-- The start of an array that has items. -/
theorem readValue_array (start : ∀ tail, skipSpace rest ≠ ']' :: tail) :
    readValue (fuel + 1) (room + 1) ('[' :: rest) = readItems fuel room [] (skipSpace rest) := by
  rw [readValue.eq_def]
  simp only

/-- The start of an object that has fields. -/
theorem readValue_object (start : ∀ tail, skipSpace rest ≠ '\x7d' :: tail) :
    readValue (fuel + 1) (room + 1) ('\x7b' :: rest) =
      readFields fuel room [] (skipSpace rest) := by
  rw [readValue.eq_def]
  simp only

/-- There are steps for a value that has a character. -/
theorem ReadAs.of_succ (begins : Begins chars)
    (step : ∀ fuel rest, 2 * chars.length ≤ fuel + 1 → Ends rest →
      readValue (fuel + 1) room (chars ++ rest) = .ok (value, rest)) : ReadAs room chars value := by
  intro fuel rest enough ends
  obtain ⟨c, tail, rfl, -⟩ := begins
  have positive : fuel ≠ 0 := by
    rw [List.length_cons] at enough
    omega
  obtain ⟨fuel, rfl⟩ := Nat.exists_eq_add_one_of_ne_zero positive
  exact step fuel rest enough ends

/-- Parts with commas between them begin with the first. -/
theorem exists_intercalate (first : List Char) (others : List (List Char)) :
    ∃ tail, [','].intercalate (first :: others) = first ++ tail := by
  by_cases last : others = []
  · rw [last, List.intercalate_singleton]
    exact ⟨[], (List.append_nil first).symm⟩
  · exact ⟨_, intercalate_cons first last⟩

/-- Items that can be read make up an array that can be read. -/
theorem readAs_array {parts : List (ItemText × Json)} (nonempty : parts ≠ [])
    (each : ∀ part ∈ parts, Begins part.1.core ∧ ReadAs room part.1.core part.2) :
    ReadAs (room + 1) ('[' :: ([','].intercalate (parts.map (·.1.chars)) ++ [']']))
      (.array (parts.map (·.2))) := by
  refine .of_succ ⟨'[', _, rfl, by decide, by decide, by decide⟩ fun fuel rest enough _ => ?_
  rw [List.length_cons, List.length_append] at enough
  have less : 2 * ([','].intercalate (parts.map (·.1.chars))).length < fuel := by
    rw [List.length_singleton] at enough
    omega
  have items := readItems_of_parts nonempty each less [] rest
  have start (tail : List Char) :
      skipSpace ([','].intercalate (parts.map (·.1.chars)) ++ ']' :: rest) ≠ ']' :: tail := by
    obtain ⟨part, more, rfl⟩ := List.exists_cons_of_ne_nil nonempty
    obtain ⟨begins, -⟩ := each part List.mem_cons_self
    obtain ⟨further, texts⟩ := exists_intercalate part.1.chars (more.map (·.1.chars))
    rw [List.map_cons, texts, List.append_assoc, ItemText.skipSpace_chars begins]
    obtain ⟨c, others, core, -, other, -⟩ := begins
    rw [core]
    exact fun same => other (List.cons.inj same).1
  rw [List.cons_append, List.append_assoc, List.singleton_append, readValue_array start, items,
    List.nil_append]

/-- Fields that can be read, with different keys, make up an object that can be read. -/
theorem readAs_object {parts : List (FieldText × Text.Points × Json)} (nonempty : parts ≠ [])
    (distinct : (parts.map (·.2.1)).Nodup)
    (keys : ∀ part ∈ parts, TextSpells part.1.key part.2.1.codes)
    (each : ∀ part ∈ parts, Begins part.1.item.core ∧ ReadAs room part.1.item.core part.2.2) :
    ReadAs (room + 1) ('\x7b' :: ([','].intercalate (parts.map (·.1.chars)) ++ ['\x7d']))
      (.object (parts.map (·.2))) := by
  refine .of_succ ⟨'\x7b', _, rfl, by decide, by decide, by decide⟩ fun fuel rest enough _ => ?_
  rw [List.length_cons, List.length_append] at enough
  have less : 2 * ([','].intercalate (parts.map (·.1.chars))).length < fuel := by
    rw [List.length_singleton] at enough
    omega
  have fields := readFields_of_parts nonempty [] (by simpa using distinct) keys each less rest
  have start (tail : List Char) :
      skipSpace ([','].intercalate (parts.map (·.1.chars)) ++ '\x7d' :: rest) ≠ '\x7d' :: tail := by
    obtain ⟨part, more, rfl⟩ := List.exists_cons_of_ne_nil nonempty
    obtain ⟨further, texts⟩ := exists_intercalate part.1.chars (more.map (·.1.chars))
    rw [List.map_cons, texts, List.append_assoc, FieldText.skipSpace_chars]
    exact fun same => absurd (List.cons.inj same).1 (by decide)
  rw [List.cons_append, List.append_assoc, List.singleton_append, readValue_object start, fields,
    List.nil_append]

/-- Every text of a value is read as the value, in any room that it fits in. -/
theorem Spells.readAs (spells : Spells room chars value) {wider : Nat} (fits : room ≤ wider) :
    ReadAs wider chars value := by
  induction spells generalizing wider with
  | @word room _ _ member =>
    exact .of_succ (Spells.word member : Spells room _ _).begins fun fuel rest _ _ =>
      readValue_word member fuel wider rest
  | @number room _ _ _ spells =>
    exact .of_succ (Spells.number spells : Spells room _ _).begins fun fuel rest _ ends =>
      readValue_number spells ends fuel wider
  | @text room _ _ spells =>
    refine .of_succ (Spells.text spells : Spells room _ _).begins fun fuel rest _ _ => ?_
    rw [List.cons_append, List.append_assoc]
    exact readValue_text spells fuel wider rest
  | @emptyArray room blanks =>
    refine .of_succ (Spells.emptyArray blanks : Spells (room + 1) _ _).begins
      fun fuel rest _ _ => ?_
    obtain ⟨wider, rfl⟩ := Nat.exists_eq_add_one_of_ne_zero (Nat.ne_zero_of_lt fits)
    rw [List.cons_append, List.append_assoc, readValue.eq_def]
    simp only [skipSpace_close blanks (.inr (.inl rfl)), List.singleton_append]
  | @array room parts nonempty each ih =>
    obtain ⟨wider, rfl⟩ := Nat.exists_eq_add_one_of_ne_zero (Nat.ne_zero_of_lt fits)
    exact readAs_array nonempty fun part member =>
      ⟨(each part member).begins, ih part member (Nat.le_of_succ_le_succ fits)⟩
  | @emptyObject room blanks =>
    refine .of_succ (Spells.emptyObject blanks : Spells (room + 1) _ _).begins
      fun fuel rest _ _ => ?_
    obtain ⟨wider, rfl⟩ := Nat.exists_eq_add_one_of_ne_zero (Nat.ne_zero_of_lt fits)
    rw [List.cons_append, List.append_assoc, readValue.eq_def]
    simp only [skipSpace_close blanks (.inr (.inr rfl)), List.singleton_append]
  | @object room parts nonempty distinct keys each ih =>
    obtain ⟨wider, rfl⟩ := Nat.exists_eq_add_one_of_ne_zero (Nat.ne_zero_of_lt fits)
    exact readAs_object nonempty distinct keys fun part member =>
      ⟨(each part member).begins, ih part member (Nat.le_of_succ_le_succ fits)⟩

/-- Blanks at the end of a text end a value. -/
theorem ends_of_blanks (blanks : Blanks) : Ends blanks :=
  fun c own => .inl (blanks.property c (List.mem_of_mem_head? own))

/-- A text of a value does not begin with a mark of its byte order. -/
theorem ItemText.ne_byteOrderMark {item : ItemText} (begins : Begins item.core)
    (tail : List Char) : item.chars ≠ '\ufeff' :: tail := by
  intro same
  obtain ⟨c, more, core, -, -, other⟩ := begins
  rw [ItemText.chars, core] at same
  obtain ⟨⟨chars, spaces⟩, _, _⟩ := item
  cases chars with
  | nil => exact other (List.cons.inj same).1
  | cons space chars =>
    have blank := spaces space List.mem_cons_self
    rw [(List.cons.inj same).1] at blank
    exact absurd blank (by decide)

/-- A whole text of a value is read as the value. -/
theorem read_of_isTextOf {text : String} (isText : IsTextOf text value) :
    read text = .ok value := by
  obtain ⟨item, same, spells⟩ := isText
  have begins := spells.begins
  have start : skipSpace item.chars = item.core ++ item.back := by
    simpa using ItemText.skipSpace_chars begins []
  have inside := item.length_core_le
  have found : readValue (2 * item.chars.length + 2) depthLimit (item.core ++ item.back) =
      .ok (value, item.back) :=
    spells.readAs (Nat.le_refl _) _ _ (by omega) (ends_of_blanks item.back)
  have nothing : (skipSpace item.back).isEmpty = true := by
    have skipped : skipSpace (item.back.val ++ []) = [] := skipSpace_blanks item.back []
    rw [List.append_nil] at skipped
    rw [skipped]
    rfl
  unfold read
  rw [← same]
  dsimp only
  split
  · next tail mark => exact absurd mark (ItemText.ne_byteOrderMark begins tail)
  · rw [start, found, Outcome.ok_bind]
    simp only [nothing, if_true]
    rfl

end Values

end CompletionServer.Json
