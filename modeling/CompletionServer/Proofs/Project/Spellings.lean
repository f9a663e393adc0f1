import CompletionServer.Proofs.Project.Forms
import CompletionServer.Proofs.Yaml.Sameness

/-!
# Spellings of keys

Several spellings of a key mean the same field, and of several the first counts. Nothing else of the
keys matters: definitions whose fields have the same first values have the same outcome, however
their keys are spelled and ordered and whatever other keys there are. A key that is a whole number
of too many digits has no text to compare, and a definition with such a key ends in a fault.
-/

namespace CompletionServer.Project

open Files
open Yaml (SameValue)

/-! ## First values -/

/-- The field that a key means, if any. -/
def meant? (document : Yaml.Document) (key : Yaml.Item) : Option Field :=
  (document.plain key).toOption.bind Field.ofKey?

/-- A value of some document. -/
structure Value where
  document : Yaml.Document
  item : Yaml.Item

/-- Values of two documents are the same. -/
def Value.Same (value other : Value) : Prop :=
  SameValue value.document other.document value.item other.item

/-- The fields that the keys of pairs mean, with their values. -/
def entriesOf (document : Yaml.Document) (pairs : List (Yaml.Item × Yaml.Item)) :
    List (Option Field × Value) :=
  pairs.map fun pair => (meant? document pair.1, ⟨document, pair.2⟩)

/-- The first value that entries give a field. -/
def firstOf? {α : Type} (entries : List (Option Field × α)) (field : Field) : Option α :=
  (entries.find? (·.1 == some field)).map (·.2)

/-- A change of entries that keeps the first value of each field: one that means no field is put in,
neighbours that do not mean the same field change places, or a field that has a value is given
another one behind it. -/
inductive Edit {α : Type} : List (Option Field × α) → List (Option Field × α) → Prop
  | unknown (front back : List (Option Field × α)) (value : α) :
      Edit (front ++ back) (front ++ (none, value) :: back)
  | swapped (front back : List (Option Field × α)) {first second : Option Field × α}
      (differ : first.1 ≠ second.1) :
      Edit (front ++ first :: second :: back) (front ++ second :: first :: back)
  | later (front middle back : List (Option Field × α)) (field : Field) (value other : α) :
      Edit (front ++ (some field, value) :: (middle ++ back))
        (front ++ (some field, value) :: (middle ++ (some field, other) :: back))

/-- Some key is a whole number of too many digits to have a text. -/
def HasOverlongKey (pairs : List (Yaml.Item × Yaml.Item)) : Prop :=
  ∃ pair ∈ pairs, ∃ value : Int, pair.1 = .scalar (.integer value) ∧
    Nat.pow 10 Number.digitLimit ≤ value.natAbs

/-- A text is read as a document that has these pairs at its top. -/
structure Reads (text : String) (document : Yaml.Document)
    (pairs : List (Yaml.Item × Yaml.Item)) : Prop where
  read : Yaml.Document.ofText text = .ok document
  top : TopLevel document pairs

section Entries

variable {α : Type} {entries others : List (Option Field × α)}

/-- The first value of a field stands in the front, or else in the back. -/
theorem firstOf?_append (front back : List (Option Field × α)) (field : Field) :
    firstOf? (front ++ back) field = (firstOf? front field).or (firstOf? back field) := by
  rw [firstOf?, List.find?_append, Option.map_or]
  rfl

/-- The first value of a field is that of the first entry, if it means the field. -/
theorem firstOf?_cons (entry : Option Field × α) (rest : List (Option Field × α)) (field : Field) :
    firstOf? (entry :: rest) field =
      if entry.1 = some field then some entry.2 else firstOf? rest field := by
  rw [firstOf?, List.find?_cons]
  by_cases own : entry.1 = some field
  · simp [own]
  · have other : (entry.1 == some field) = false := by simpa using own
    simp only [other, if_neg own]
    rfl

/-- A change of entries keeps the first value of each field. -/
theorem Edit.firstOf?_eq (edit : Edit entries others) (field : Field) :
    firstOf? entries field = firstOf? others field := by
  cases edit with
  | unknown front back value => simp [firstOf?_append, firstOf?_cons]
  | swapped front back differ =>
    next first second =>
    simp only [firstOf?_append, firstOf?_cons]
    congr 1
    by_cases own : first.1 = some field
    · have other : second.1 ≠ some field := fun same => differ (own.trans same.symm)
      rw [if_pos own, if_neg other, if_pos own]
    · rw [if_neg own, if_neg own]
  | later front middle back own value other =>
    simp only [firstOf?_append, firstOf?_cons]
    congr 1
    by_cases same : some own = some field
    · rw [if_pos same, if_pos same]
    · rw [if_neg same, if_neg same, if_neg same]

/-- Changes of entries, made and undone, keep the first value of each field. -/
theorem firstOf?_eq_of_eqvGen (edits : Relation.EqvGen Edit entries others) (field : Field) :
    firstOf? entries field = firstOf? others field := by
  induction edits with
  | rel _ _ edit => exact edit.firstOf?_eq field
  | refl _ => rfl
  | symm _ _ _ ih => exact ih.symm
  | trans _ _ _ _ _ first second => exact first.trans second

/-- The first value of a field among the entries of some pairs is the one that they give it. -/
theorem firstOf?_entriesOf (document : Yaml.Document) (pairs : List (Yaml.Item × Yaml.Item))
    (field : Field) :
    firstOf? (entriesOf document pairs) field =
      (valueIn? document pairs field).map (.mk document) := by
  rw [firstOf?, entriesOf, List.find?_map, valueIn?, Option.map_map, Option.map_map]
  rfl

/-- Entries for the same fields with the same values give each field the same first value. -/
theorem firstOf?_rel {β : Type} {relation : α → β → Prop} {others : List (Option Field × β)}
    (each : List.Forall₂ (fun entry other => entry.1 = other.1 ∧ relation entry.2 other.2)
      entries others) (field : Field) :
    Option.Rel relation (firstOf? entries field) (firstOf? others field) := by
  induction each with
  | nil => exact .none
  | @cons entry other _ _ here _ ih =>
    rw [firstOf?_cons, firstOf?_cons, here.1]
    split
    · exact .some here.2
    · exact ih

end Entries

/-! ## Values that are the same -/

section Values

variable {document other : Yaml.Document} {item again : Yaml.Item}

/-- Entries with the same value have the same text. -/
theorem entryText_eq_of_same (keyed : document.IsKeyed)
    (same : SameValue document other item again) :
    entryText document item = entryText other again := by
  have plain := same.plain_eq keyed
  obtain ⟨related, -, matching⟩ := same
  cases matching with
  | scalar value =>
    cases value with
    | null => rfl
    | text _ => rfl
    | _ => exact congrArg (fun made => some <$> (Text.Points.ofString <$> made)) plain
  | stray _ _ => exact congrArg (fun made => some <$> (Text.Points.ofString <$> made)) plain
  | object _ => exact congrArg (fun made => some <$> (Text.Points.ofString <$> made)) plain

/-- Items with the same value have the same shape. -/
theorem shape_eq_of_same (keyed : document.IsKeyed) (same : SameValue document other item again) :
    (datumOf document item).shape = (datumOf other again).shape := by
  obtain ⟨related, correspondence, matching⟩ := same
  -- The items of a list are the same by the relation that holds between the lists.
  have listed {items others : List Yaml.Item}
      (each : List.Forall₂ (Yaml.Item.Matches related) items others) :
      items.mapM (entryText document) = others.mapM (entryText other) :=
    Outcome.mapM_eq_of_forall₂ (each.imp fun _ _ own =>
      entryText_eq_of_same keyed ⟨related, correspondence, own⟩)
  cases matching with
  | scalar value => cases value <;> rfl
  | stray _ _ => rfl
  | @object number again own =>
    obtain ⟨object, counterpart, here, there, matching⟩ := correspondence.contents _ _ own
    cases matching with
    | list each =>
      rw [shape_of_isSequence ⟨number, rfl, .inl here⟩,
        shape_of_isSequence ⟨again, rfl, .inl there⟩,
        listed each]
    | tuple each =>
      rw [shape_of_isSequence ⟨number, rfl, .inr here⟩,
        shape_of_isSequence ⟨again, rfl, .inr there⟩,
        listed each]
    | mapping _ => simp only [datumOf, here, there]
    | set _ => simp only [datumOf, here, there]

/-- The same value means the same to a field. -/
theorem datumOf_eq_of_same (keyed : document.IsKeyed)
    (same : SameValue document other item again) : datumOf document item = datumOf other again := by
  have shape := shape_eq_of_same keyed same
  have given : (datumOf document item).isGiven = (datumOf other again).isGiven := same.isGiven_eq
  have plain : (datumOf document item).plain = (datumOf other again).plain := same.plain_eq keyed
  cases first : datumOf document item with
  | mk _ _ _ =>
    cases second : datumOf other again with
    | mk _ _ _ =>
      rw [first, second] at shape given plain
      simp_all

end Values

/-! ## Keys -/

section Keys

variable {document : Yaml.Document} {pairs : List (Yaml.Item × Yaml.Item)} {text : String}

/-- The keys of what is read have no parts. -/
theorem Reads.isSingle (reads : Reads text document pairs) :
    ∀ pair ∈ pairs, pair.1.isSingle = true := by
  have keyed := Yaml.Document.isKeyed_of_ofText reads.read
  cases reads.top with
  | nothing _ => simp
  | mapping _ object => exact keyed _ (Array.mem_of_getElem? object)

/-- A single value has a text unless it is a whole number of too many digits. -/
theorem plain_of_isSingle (document : Yaml.Document) {item : Yaml.Item}
    (single : item.isSingle = true) :
    (∃ value : Int, item = .scalar (.integer value) ∧ Nat.pow 10 Number.digitLimit ≤ value.natAbs ∧
      document.plain item = .error .overlongInteger) ∨
    ∃ text, document.plain item = .ok text := by
  cases item with
  | object _ => cases single
  | stray _ => exact .inr ⟨_, rfl⟩
  | scalar value =>
    rw [Yaml.Document.plain]
    cases has : value.hasText with
    | true => exact .inr ⟨_, rfl⟩
    | false =>
      cases value with
      | integer value =>
        rw [Scalar.hasText, decide_eq_false_iff_not, Nat.not_lt] at has
        exact .inl ⟨value, rfl, has, rfl⟩
      | _ => cases has

/-- With a key of too many digits the pairs fail to be named, and with no other fault. -/
theorem namedPairs_of_overlong (reads : Reads text document pairs)
    (overlong : HasOverlongKey pairs) : namedPairs document pairs = .error .overlongInteger := by
  obtain ⟨pair, member, value, key, long⟩ := overlong
  cases gathered : namedPairs document pairs with
  | ok named =>
    obtain ⟨_, own⟩ := Outcome.exists_mapM_eq_ok_iff.mp ⟨named, gathered⟩ pair member
    obtain ⟨_, written, -⟩ := Outcome.bind_eq_ok_iff.mp own
    rw [key, plain_of_overlong long] at written
    cases written
  | error cause =>
    obtain ⟨other, among, fails⟩ := Outcome.exists_of_mapM_eq_error gathered
    rcases Outcome.bind_eq_error_iff.mp fails with illegible | ⟨_, -, made⟩
    · rcases plain_of_isSingle document (reads.isSingle other among) with
        ⟨_, -, -, own⟩ | ⟨_, written⟩
      · rw [Except.error.inj (illegible.symm.trans own)]
      · rw [written] at illegible
        cases illegible
    · cases made

/-- Keys of which none has too many digits have names. -/
theorem exists_namedPairs (reads : Reads text document pairs)
    (legible : ¬HasOverlongKey pairs) : ∃ named, namedPairs document pairs = .ok named := by
  refine Outcome.exists_mapM_eq_ok_iff.mpr fun pair member => ?_
  rcases plain_of_isSingle document (reads.isSingle pair member) with
    ⟨value, key, long, -⟩ | ⟨key, written⟩
  · exact absurd ⟨pair, member, value, key, long⟩ legible
  · exact ⟨(key, datumOf document pair.2), Outcome.bind_eq_ok_iff.mpr ⟨key, written, rfl⟩⟩

/-- A text that is read is parsed into the state of the fields that its keys name. -/
theorem Reads.parse_eq {named : List (String × Datum)} (reads : Reads text document pairs)
    (keys : namedPairs document pairs = .ok named) (system : System) (sdk : String) (file : Path) :
    parse system sdk text file = stateOf system sdk file (fieldsOf named) :=
  parse_of_topLevel reads.read reads.top keys

/-- A definition with a key that has no text ends in a fault. -/
theorem Reads.parse_of_overlong (reads : Reads text document pairs)
    (overlong : HasOverlongKey pairs) (system : System) (sdk : String) (file : Path) :
    parse system sdk text file = .error (.fault .overlongInteger) := by
  rw [parse, reads.read]
  simp only [pairsOf?_eq_some_iff.mpr reads.top, namedPairs_of_overlong reads overlong]
  rfl

end Keys

/-! ## Outcomes -/

section Outcomes

variable {document other : Yaml.Document} {pairs others : List (Yaml.Item × Yaml.Item)}
  {text again : String}

/-- The state of some fields depends only on the values of the fields. -/
theorem stateOf_eq_of_valueOf? {fields further : List (Field × Datum)}
    (same : ∀ field, valueOf? fields field = valueOf? further field) (system : System)
    (sdk : String) (file : Path) :
    stateOf system sdk file fields = stateOf system sdk file further := by
  refine stateOf_congr (fun field default _ => ?_) (fun field _ => ?_)
  · rw [textOr, textOr, same field]
  · rw [textsOf, textsOf, shapeOf, shapeOf, same field]

/-- Definitions that give each field the same first value have the same outcome. -/
theorem parse_eq_of_first (reads : Reads text document pairs)
    (readsAgain : Reads again other others)
    (overlong : HasOverlongKey pairs ↔ HasOverlongKey others)
    (first : ∀ field, Option.Rel (SameValue document other) (valueIn? document pairs field)
      (valueIn? other others field)) (system : System) (sdk : String) (file : Path) :
    parse system sdk text file = parse system sdk again file := by
  by_cases long : HasOverlongKey pairs
  · rw [reads.parse_of_overlong long, readsAgain.parse_of_overlong (overlong.mp long)]
  · obtain ⟨named, keys⟩ := exists_namedPairs reads long
    obtain ⟨renamed, keysAgain⟩ := exists_namedPairs readsAgain (mt overlong.mpr long)
    rw [reads.parse_eq keys, readsAgain.parse_eq keysAgain]
    refine stateOf_eq_of_valueOf? (fun field => ?_) system sdk file
    rw [valueOf?_of_namedPairs keys, valueOf?_of_namedPairs keysAgain]
    have keyed := Yaml.Document.isKeyed_of_ofText reads.read
    have means {item? again? : Option Yaml.Item}
        (same : Option.Rel (SameValue document other) item? again?) :
        item?.map (datumOf document) = again?.map (datumOf other) := by
      cases same with
      | none => rfl
      | some same => exact congrArg some (datumOf_eq_of_same keyed same)
    exact means (first field)

/-- Entries that come from those of a definition by edits give each field the same first value. -/
theorem valueIn?_rel_of_edits {edited : List (Option Field × Value)}
    (edits : Relation.EqvGen Edit (entriesOf document pairs) edited)
    (each : List.Forall₂ (fun entry counterpart => entry.1 = counterpart.1 ∧
      entry.2.Same counterpart.2) edited (entriesOf other others)) (field : Field) :
    Option.Rel (SameValue document other) (valueIn? document pairs field)
      (valueIn? other others field) := by
  have unmapped {item? again? : Option Yaml.Item}
      (related : Option.Rel Value.Same (item?.map (.mk document)) (again?.map (.mk other))) :
      Option.Rel (SameValue document other) item? again? := by
    cases item? with
    | none =>
      cases again? with
      | none => exact .none
      | some _ => cases related
    | some _ =>
      cases again? with
      | none => cases related
      | some _ =>
        cases related with
        | some same => exact .some same
  have related := firstOf?_rel each field
  rw [← firstOf?_eq_of_eqvGen edits, firstOf?_entriesOf, firstOf?_entriesOf] at related
  exact unmapped related

end Outcomes

/-- Of the keys of a definition only the first one for each field matters, and how it is spelled
does not.

- Definitions have the same outcome, whatever it is, if each field has the same first value in both
  or no value in either, and either both or none of them has a key without a text.
- So the outcome stays the same if keys are spelled in another way that means the same field, if
  keys that mean no field are put in or left out, if entries of different fields change places, and
  if a field that has a value gets further ones behind it.
- A key without a text ends the reading with a fault, though it means no field. -/
theorem only_first_values_matter (system : System) (sdk : String) (file : Path) :
    (∀ text again document other pairs others, Reads text document pairs →
      Reads again other others → (HasOverlongKey pairs ↔ HasOverlongKey others) →
      (∀ field, Option.Rel (SameValue document other) (valueIn? document pairs field)
        (valueIn? other others field)) →
      parse system sdk text file = parse system sdk again file) ∧
    (∀ text again document other pairs others edited, Reads text document pairs →
      Reads again other others → (HasOverlongKey pairs ↔ HasOverlongKey others) →
      Relation.EqvGen Edit (entriesOf document pairs) edited →
      List.Forall₂ (fun entry counterpart => entry.1 = counterpart.1 ∧
        entry.2.Same counterpart.2) edited (entriesOf other others) →
      parse system sdk text file = parse system sdk again file) ∧
    ∀ text document pairs, Reads text document pairs → HasOverlongKey pairs →
      parse system sdk text file = .error (.fault .overlongInteger) := by
  refine ⟨?_, ?_, ?_⟩
  · intro text again document other pairs others reads readsAgain overlong first
    exact parse_eq_of_first reads readsAgain overlong first system sdk file
  · intro text again document other pairs others edited reads readsAgain overlong edits each
    exact parse_eq_of_first reads readsAgain overlong (valueIn?_rel_of_edits edits each) system sdk
      file
  · intro text document pairs reads overlong
    exact reads.parse_of_overlong overlong system sdk file

/-- The text of a definition with other spellings, another order and more keys than one of flags. -/
def respelledText : String :=
  "1: [note]\nsdk_root: s\notherSwiftFlags: [-g]\nmoduleName: App\nmodule: Other\n"

/-- The pairs of that definition. -/
def respelledPairs : List (Yaml.Item × Yaml.Item) :=
  let text (value : String) : Yaml.Item := .scalar (.text value)
  [(.scalar (.integer 1), .object 1), (text "sdk_root", text "s"),
    (text "otherSwiftFlags", .object 2), (text "moduleName", text "App"),
    (text "module", text "Other")]

/-- The document of that definition. -/
def respelledDocument : Yaml.Document :=
  ⟨#[.mapping respelledPairs, .list [.scalar (.text "note")], .list [.scalar (.text "-g")]],
    .object 0⟩

/-- The pairs of a definition of a module, an SDK and flags. -/
def flagsPairs : List (Yaml.Item × Yaml.Item) :=
  let text (value : String) : Yaml.Item := .scalar (.text value)
  [(text "module", text "App"), (text "sdk", text "s"), (text "compilerFlags", .object 1)]

/-- The document of that definition. -/
def plainDocument : Yaml.Document := flagsDocument (.object 1) [.list [.scalar (.text "-g")]]

/-- The pairs of that definition behind another one, whose key means no field. -/
def notedPairs : List (Yaml.Item × Yaml.Item) :=
  (.scalar (.text "note"), .scalar (.bool true)) :: flagsPairs

/-- The document of such a definition. -/
def notedDocument : Yaml.Document :=
  ⟨#[.mapping notedPairs, .list [.scalar (.text "-g")]], .object 0⟩

/-- Spelling and order of the keys, a key that is a number and a second module change nothing, and
neither does a note that is put in front. -/
theorem only_first_values_matter_respelled :
    parse linkedFiles "" (flagsText "[-g]") (.ofString "/App/skdaemon.yaml") =
      parse linkedFiles "" respelledText (.ofString "/App/skdaemon.yaml") ∧
    parse linkedFiles "" (flagsText "[-g]") (.ofString "/App/skdaemon.yaml") =
      parse linkedFiles "" ("note: true\n" ++ flagsText "[-g]")
        (.ofString "/App/skdaemon.yaml") := by
  have reads : Reads (flagsText "[-g]") plainDocument flagsPairs :=
    ⟨Outcome.eq_ok_of_toOption (by decide +kernel), .mapping rfl rfl⟩
  have readsAgain : Reads respelledText respelledDocument respelledPairs :=
    ⟨Outcome.eq_ok_of_toOption (by decide +kernel), .mapping rfl rfl⟩
  have legible : ¬HasOverlongKey flagsPairs := by simp [HasOverlongKey, flagsPairs]
  have legibleAgain : ¬HasOverlongKey respelledPairs := by
    have large : 1 < Nat.pow 10 Number.digitLimit := by decide +kernel
    simpa [HasOverlongKey, respelledPairs] using large
  have first (field : Field) {item again : Option Yaml.Item}
      (same : Option.Rel (SameValue plainDocument respelledDocument) item again)
      (own : valueIn? plainDocument flagsPairs field = item)
      (other : valueIn? respelledDocument respelledPairs field = again) :
      Option.Rel (SameValue plainDocument respelledDocument)
        (valueIn? plainDocument flagsPairs field)
        (valueIn? respelledDocument respelledPairs field) := by
    rw [own, other]
    exact same
  have readsNoted : Reads ("note: true\n" ++ flagsText "[-g]") notedDocument notedPairs :=
    ⟨Outcome.eq_ok_of_toOption (by decide +kernel), .mapping rfl rfl⟩
  have legibleNoted : ¬HasOverlongKey notedPairs := by
    simp [HasOverlongKey, notedPairs, flagsPairs]
  constructor
  · refine (only_first_values_matter _ _ _).1 _ _ _ _ _ _ reads readsAgain
      (iff_of_false legible legibleAgain) fun field => ?_
    cases field with
    | moduleName =>
      exact first _ (.some (.scalar (.text "App"))) (by decide +kernel) (by decide +kernel)
    | sdk => exact first _ (.some (.scalar (.text "s"))) (by decide +kernel) (by decide +kernel)
    | flags =>
      have same : SameValue plainDocument respelledDocument (.object 1) (.object 2) :=
        .flat rfl rfl (by decide)
      exact first _ (.some same) (by decide +kernel) (by decide +kernel)
    | target => exact first _ .none (by decide +kernel) (by decide +kernel)
    | frameworks => exact first _ .none (by decide +kernel) (by decide +kernel)
    | sources => exact first _ .none (by decide +kernel) (by decide +kernel)
  · have flags : SameValue plainDocument notedDocument (.object 1) (.object 1) :=
      .flat rfl rfl (by decide)
    have unknown : none = meant? notedDocument (.scalar (.text "note")) := by decide +kernel
    refine (only_first_values_matter _ _ _).2.1 _ _ _ _ _ _ _ reads readsNoted
      (iff_of_false legible legibleNoted)
      (.rel _ _ (.unknown [] _ ⟨notedDocument, .scalar (.bool true)⟩)) ?_
    exact .cons ⟨unknown, .scalar _⟩ (.cons ⟨rfl, .scalar _⟩ (.cons ⟨rfl, .scalar _⟩
      (.cons ⟨rfl, flags⟩ .nil)))

end CompletionServer.Project
