import CompletionServer.Project.Definition
import CompletionServer.Proofs.Outcome
import Mathlib.Data.List.TakeWhile

/-!
# Values of a definition's fields

The rules by which a YAML document gives a project's fields their values, independent of how they
are gathered: `TopLevel` says which pairs there are, `valueIn?` which of them counts for a field,
`TextIn` and `Entries` what its text or its list of texts is. The fields that are gathered from a
document follow these rules.
-/

/-- Trimming leaves nothing exactly of a blank text. -/
theorem CompletionServer.Text.trim_eq_empty_iff {text : String} :
    trim text = "" ↔ isBlankText text = true := by
  have empty : trim text = "" ↔ trimmed text.toList = [] := String.ofList_eq_empty_iff
  have hidden :
      trimmed text.toList = [] ↔ ∀ c ∈ text.toList.dropWhile isBlank, isBlank c = true := by
    simp [trimmed, List.dropWhile_eq_nil_iff]
  rw [empty, hidden, isBlankText, List.all_eq_true]
  constructor
  · intro rest c member
    rw [← List.takeWhile_append_dropWhile (p := isBlank) (l := text.toList)] at member
    rcases List.mem_append.mp member with front | back
    · exact List.mem_takeWhile_imp front
    · exact rest c back
  · exact fun blank c member => blank c ((List.dropWhile_suffix isBlank).subset member)

namespace CompletionServer.Project

/-! ## The rules -/

section Rules

variable (document : Yaml.Document)

/-- The pairs at the top of a document: those of its mapping, or none if it holds nothing. -/
inductive TopLevel : List (Yaml.Item × Yaml.Item) → Prop
  | nothing (missing : document.isGiven document.root = false) : TopLevel []
  | mapping {number : Nat} {pairs : List (Yaml.Item × Yaml.Item)}
      (root : document.root = .object number)
      (object : document.objects[number]? = some (.mapping pairs)) : TopLevel pairs

/-- The value that pairs give a field: that of the first key that means it. -/
def valueIn? (pairs : List (Yaml.Item × Yaml.Item)) (field : Field) : Option Yaml.Item :=
  (pairs.find? fun pair =>
    (document.plain pair.1).toOption.bind Field.ofKey? == some field).map (·.2)

/-- The text of a value that counts as given, else another text. -/
inductive TextIn (item? : Option Yaml.Item) (default : String) : String → Prop
  | given {item : Yaml.Item} {text : String} (value : item? = some item)
      (given : document.isGiven item = true) (written : document.plain item = .ok text) :
      TextIn item? default text
  | missing (absent : ∀ item ∈ item?, document.isGiven item = false) : TextIn item? default default

/-- An item is a list, or a list that cannot be changed. -/
def IsSequence (item : Yaml.Item) (items : List Yaml.Item) : Prop :=
  ∃ number, item = .object number ∧ (document.objects[number]? = some (.list items) ∨
    document.objects[number]? = some (.tuple items))

/-- A value that a list field may have. -/
def IsListLike (item : Yaml.Item) : Prop :=
  item = .scalar .null ∨ (∃ value, item = .scalar (.text value)) ∨
    ∃ items, IsSequence document item items

/-- The text of an item of a list, none for nothing. -/
inductive EntryText : Yaml.Item → Option Text.Points → Prop
  | nothing : EntryText (.scalar .null) none
  | text {item : Yaml.Item} {text : Text.Points} (something : item ≠ .scalar .null)
      (written : document.written item = .ok text) : EntryText item (some text)

/-- The entries of a list field: its single text, or the texts of the items that are neither nothing
nor blank. -/
inductive Entries (item? : Option Yaml.Item) : List Text.Points → Prop
  | absent (value : item? = none) : Entries item? []
  | nothing (value : item? = some (.scalar .null)) : Entries item? []
  | single {text : Text.Points} (value : item? = some (.scalar (.text text))) :
      Entries item? [text]
  | several {item : Yaml.Item} {items : List Yaml.Item} {texts : List (Option Text.Points)}
      (value : item? = some item) (sequence : IsSequence document item items)
      (each : List.Forall₂ (EntryText document) items texts) :
      Entries item? ((texts.filterMap id).filter fun text => !Text.isBlankText (toString text))

/-- Whether a field is a list of texts. -/
def Field.isList : Field → Bool
  | .frameworks | .flags | .sources => true
  | .moduleName | .sdk | .target => false

end Rules

/-! ## Values of fields -/

section Values

variable {document : Yaml.Document} {pairs : List (Yaml.Item × Yaml.Item)} {field : Field}

/-- A whole number of too many digits has no text. -/
theorem plain_of_overlong {value : Int} (long : Nat.pow 10 Number.digitLimit ≤ value.natAbs) :
    document.plain (.scalar (.integer value)) = .error .overlongInteger := by
  have none : (Scalar.integer value).hasText = false := by
    rw [Scalar.hasText, decide_eq_false_iff_not, Nat.not_lt]
    exact long
  rw [Yaml.Document.plain, none]
  rfl

/-- A document has pairs exactly if they stand at its top. -/
theorem pairsOf?_eq_some_iff : pairsOf? document = some pairs ↔ TopLevel document pairs := by
  rw [pairsOf?]
  cases given : document.isGiven document.root with
  | false =>
    rw [if_pos (by simp)]
    constructor
    · rintro same
      rw [← Option.some.inj same]
      exact .nothing given
    · rintro (_ | ⟨root, object⟩)
      · rfl
      · rw [root, Yaml.Document.isGiven, object] at given
        have empty : pairs = [] := by simpa using given
        rw [empty]
  | true =>
    rw [if_neg (by simp)]
    constructor
    · intro same
      split at same
      · next number root =>
        split at same
        · next own object =>
          rw [← Option.some.inj same]
          exact .mapping root object
        · contradiction
      · contradiction
    · rintro (missing | ⟨root, object⟩)
      · exact absurd (given.symm.trans missing) (by decide)
      · rw [root]
        simp only [object]

/-- A pair that is added gives a value to the field that its key means, if the field has none. -/
theorem valueOf?_addField (fields : List (Field × Datum)) (pair : String × Datum) :
    valueOf? (addField fields pair) field =
      (valueOf? fields field).or
        (if Field.ofKey? pair.1 == some field then some pair.2 else none) := by
  rw [addField]
  cases meant : Field.ofKey? pair.1 with
  | none => simp
  | some own =>
    by_cases known : fields.any (·.1 == own) = true
    · by_cases same : own = field
      · obtain ⟨entry, member, matching⟩ := List.any_eq_true.mp known
        have found : (fields.find? (·.1 == field)).isSome = true := by
          rw [List.find?_isSome]
          exact ⟨entry, member, same ▸ matching⟩
        obtain ⟨first, there⟩ := Option.isSome_iff_exists.mp found
        simp [known, valueOf?, there]
      · simp [known, same]
    · have absent : fields.find? (·.1 == own) = none := by
        rw [List.find?_eq_none]
        exact fun entry member matching => known (List.any_eq_true.mpr ⟨entry, member, matching⟩)
      by_cases same : own = field
      · subst same
        simp [known, valueOf?, absent]
      · simp [known, valueOf?, same, List.find?_append]

/-- Of several pairs for a field the first counts. -/
theorem valueOf?_fieldsOf (named : List (String × Datum)) :
    valueOf? (fieldsOf named) field =
      (named.find? fun pair => Field.ofKey? pair.1 == some field).map (·.2) := by
  have folded (fields : List (Field × Datum)) : valueOf? (named.foldl addField fields) field =
      (valueOf? fields field).or
        ((named.find? fun pair => Field.ofKey? pair.1 == some field).map (·.2)) := by
    induction named generalizing fields with
    | nil => simp
    | cons pair rest ih =>
      rw [List.foldl_cons, ih, valueOf?_addField, Option.or_assoc, List.find?_cons]
      cases Field.ofKey? pair.1 == some field <;> simp
  exact folded []

/-- A field has the value that the pairs give it. -/
theorem valueOf?_of_namedPairs {named : List (String × Datum)}
    (read : namedPairs document pairs = .ok named) (field : Field) :
    valueOf? (fieldsOf named) field =
      (valueIn? document pairs field).map (datumOf document) := by
  rw [valueOf?_fieldsOf, valueIn?]
  have each := Outcome.mapM_eq_ok_iff.mp read
  clear read
  induction each with
  | nil => rfl
  | @cons pair own rest others here _ ih =>
    obtain ⟨text, written, same⟩ := Outcome.bind_eq_ok_iff.mp here
    obtain rfl := Except.ok.inj same
    rw [List.find?_cons, List.find?_cons, written]
    simp only [Except.toOption, Option.bind_some]
    cases Field.ofKey? text == some field with
    | true => rfl
    | false => exact ih

/-! ## Texts and lists of texts -/

variable {item? : Option Yaml.Item} {fields : List (Field × Datum)}

/-- A value that is given has no other text than its own. -/
theorem TextIn.eq_of_plain {item : Yaml.Item} {default text own : String}
    (value : TextIn document (some item) default text) (given : document.isGiven item = true)
    (written : document.plain item = .ok own) : text = own := by
  cases value with
  | given same _ alsoWritten =>
    obtain rfl := Option.some.inj same
    exact Except.ok.inj (alsoWritten.symm.trans written)
  | missing absent => exact absurd given (by simp [absent item rfl])

/-- The text of a field is that of its value, or else the default. -/
theorem textOr_eq_ok_iff {default text : String}
    (value : valueOf? fields field = item?.map (datumOf document)) :
    textOr fields field default = .ok text ↔ TextIn document item? default text := by
  rw [textOr, value]
  constructor
  · intro done
    cases item? with
    | none =>
      rw [← Except.ok.inj done]
      exact .missing (by simp)
    | some item =>
      cases given : document.isGiven item with
      | true => exact .given rfl given (by simpa [datumOf, given] using done)
      | false =>
        obtain rfl : default = text := by simpa [datumOf, given] using done
        exact .missing (by simpa using given)
  · rintro (⟨rfl, given, written⟩ | absent)
    · simpa [datumOf, given] using written
    · cases item? with
      | none => rfl
      | some item =>
        have missing := absent item rfl
        simp [datumOf, missing]

/-- Items have code points exactly if they have texts, and fail alike. -/
theorem written_eq_error_iff {item : Yaml.Item} {fault : Fault} :
    document.written item = .error fault ↔ document.plain item = .error fault := by
  rw [Yaml.Document.written.eq_def]
  split
  · simp [Yaml.Document.plain, Scalar.hasText]
  · exact Outcome.map_eq_error_iff

/-- The text of an item of a list, none for nothing. -/
def entryText (document : Yaml.Document) : Yaml.Item → Except Fault (Option Text.Points)
  | .scalar .null => .ok none
  | other => some <$> document.written other

/-- The text of an entry is as it has to be. -/
theorem entryText_eq_ok_iff {item : Yaml.Item} {text? : Option Text.Points} :
    entryText document item = .ok text? ↔ EntryText document item text? := by
  by_cases null : item = .scalar .null
  · subst null
    constructor
    · intro same
      rw [← Except.ok.inj same]
      exact .nothing
    · rintro (_ | ⟨something, -⟩)
      · rfl
      · exact absurd rfl something
  · have other : entryText document item = some <$> document.written item := by
      rw [entryText]
      exact null
    rw [other, Outcome.map_eq_ok_iff]
    constructor
    · rintro ⟨text, written, rfl⟩
      exact .text null written
    · rintro (_ | ⟨-, written⟩)
      · exact absurd rfl null
      · exact ⟨_, written, rfl⟩

/-- The shape of a list is that of its items. -/
theorem shape_of_isSequence {item : Yaml.Item} {items : List Yaml.Item}
    (sequence : IsSequence document item items) :
    (datumOf document item).shape = Shape.list <$> items.mapM (entryText document) := by
  obtain ⟨number, rfl, list | tuple⟩ := sequence
  · simp only [datumOf, list]
    rfl
  · simp only [datumOf, tuple]
    rfl

/-- A value that is nothing, no text and no list has no shape of its own. -/
theorem shape_of_not_isListLike {item : Yaml.Item} (other : ¬IsListLike document item) :
    (datumOf document item).shape = .ok .other := by
  unfold datumOf
  dsimp only
  split
  · exact absurd (.inl rfl) other
  · exact absurd (.inr (.inl ⟨_, rfl⟩)) other
  · rfl
  · rfl
  · next number =>
    split
    · next items object => exact absurd (.inr (.inr ⟨items, number, rfl, .inl object⟩)) other
    · next items object => exact absurd (.inr (.inr ⟨items, number, rfl, .inr object⟩)) other
    · rfl

/-- What a list field is read from. -/
def shapeIn (document : Yaml.Document) (item? : Option Yaml.Item) : Except Fault Shape :=
  ((item?.map (datumOf document)).map (·.shape)).getD (.ok .nothing)

/-- The texts of a list are those of its entries that are not blank. -/
theorem texts?_list (texts : List (Option Text.Points)) :
    (Shape.list texts).texts? =
      some ((texts.filterMap id).filter fun text => !Text.isBlankText (toString text)) := by
  have visible : (fun text : Text.Points => !Text.isBlankText (toString text)) =
      fun text => decide (Text.trim (toString text) ≠ "") := by
    funext text
    rw [Bool.eq_iff_iff, decide_eq_true_iff, Ne, Text.trim_eq_empty_iff]
    simp
  rw [visible, List.filter_filterMap]
  rfl

/-- A list field has texts exactly if it has entries, and they are the same. -/
theorem entries_iff {texts : List Text.Points} :
    (∃ shape, shapeIn document item? = .ok shape ∧ shape.texts? = some texts) ↔
      Entries document item? texts := by
  constructor
  · rintro ⟨shape, read, own⟩
    cases item? with
    | none =>
      obtain rfl := Except.ok.inj read
      rw [← Option.some.inj own]
      exact .absent rfl
    | some item =>
      by_cases like : IsListLike document item
      · obtain rfl | ⟨value, rfl⟩ | ⟨items, sequence⟩ := like
        · obtain rfl := Except.ok.inj read
          rw [← Option.some.inj own]
          exact .nothing rfl
        · obtain rfl := Except.ok.inj read
          rw [← Option.some.inj own]
          exact .single rfl
        · have listed : Shape.list <$> items.mapM (entryText document) = .ok shape :=
            (shape_of_isSequence sequence).symm.trans read
          obtain ⟨texts?, each, rfl⟩ := Outcome.map_eq_ok_iff.mp listed
          rw [texts?_list] at own
          rw [← Option.some.inj own]
          exact .several rfl sequence
            ((Outcome.mapM_eq_ok_iff.mp each).imp fun _ _ => entryText_eq_ok_iff.mp)
      · obtain rfl := Except.ok.inj ((shape_of_not_isListLike like).symm.trans read)
        contradiction
  · rintro (rfl | rfl | rfl | ⟨rfl, sequence, each⟩)
    · exact ⟨.nothing, rfl, rfl⟩
    · exact ⟨.nothing, rfl, rfl⟩
    · exact ⟨.text _, rfl, rfl⟩
    · next items texts? =>
      refine ⟨.list texts?, (shape_of_isSequence sequence).trans ?_, texts?_list texts?⟩
      exact Outcome.map_eq_ok_iff.mpr
        ⟨texts?, Outcome.mapM_eq_ok_iff.mpr (each.imp fun _ _ => entryText_eq_ok_iff.mpr), rfl⟩

/-- A list field has no texts exactly if its value is of no kind that it may have. -/
theorem shapeIn_other_iff :
    (∃ shape, shapeIn document item? = .ok shape ∧ shape.texts? = none) ↔
      ∃ item, item? = some item ∧ ¬IsListLike document item := by
  constructor
  · rintro ⟨shape, read, none⟩
    cases item? with
    | none =>
      obtain rfl := Except.ok.inj read
      contradiction
    | some item =>
      refine ⟨item, rfl, ?_⟩
      rintro (rfl | ⟨value, rfl⟩ | ⟨items, sequence⟩)
      · obtain rfl := Except.ok.inj read
        contradiction
      · obtain rfl := Except.ok.inj read
        contradiction
      · have listed : Shape.list <$> items.mapM (entryText document) = .ok shape :=
          (shape_of_isSequence sequence).symm.trans read
        obtain ⟨texts?, -, rfl⟩ := Outcome.map_eq_ok_iff.mp listed
        contradiction
  · rintro ⟨item, rfl, other⟩
    exact ⟨.other, shape_of_not_isListLike other, rfl⟩

end Values

end CompletionServer.Project
