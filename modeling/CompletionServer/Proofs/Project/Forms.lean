import CompletionServer.Proofs.Project.Definition

/-!
# Two forms of a list field

A list field can be written as a single text or as a list. Only its entries matter: definitions
whose fields have the same entries have the same outcome, be it a state, an error or a fault. A text
and the list of that text therefore say the same, except for a blank text: a list leaves it out, and
a single text keeps it.
-/

namespace CompletionServer.Project

open Files

section Entries

variable {system : System} {sdk : String} {file : Path} {fields others : List (Field × Datum)}

/-- What a list field is read as, none for another shape. -/
def textsOf (fields : List (Field × Datum)) (field : Field) :
    Except Fault (Option (List Text.Points)) :=
  Shape.texts? <$> shapeOf fields field

/-- A step that goes on from the texts of a list field depends on nothing else of it. -/
theorem bind_textList_congr {β : Type} {shape again : Except Fault Shape}
    (same : Shape.texts? <$> shape = Shape.texts? <$> again) (name field : String)
    (next : Except LoadError (List Text.Points) → Except LoadFailure β) :
    (liftFault shape >>= fun shape => next (textList name field shape)) =
      liftFault again >>= fun shape => next (textList name field shape) := by
  cases shape with
  | error fault =>
    cases again with
    | error cause =>
      obtain rfl : fault = cause := by simpa [Functor.map, Except.map] using same
      rfl
    | ok shape => simp [Functor.map, Except.map] at same
  | ok shape =>
    cases again with
    | error cause => simp [Functor.map, Except.map] at same
    | ok again =>
      have texts : shape.texts? = again.texts? := by
        simpa [Functor.map, Except.map] using same
      show next (textList name field shape) = next (textList name field again)
      rw [textList, textList, texts]

/-- An error of a definition as a way for loading to fail. -/
def liftRefusal {α : Type} : Except LoadError α → Except LoadFailure α
  | .ok value => .ok value
  | .error error => .error (.refused error)

/-- The state of a definition depends on the texts of its fields and the entries of its list fields
only. -/
theorem stateOf_congr
    (texts : ∀ field default, field.isList = false →
      textOr fields field default = textOr others field default)
    (lists : ∀ field, field.isList = true → textsOf fields field = textsOf others field) :
    stateOf system sdk file fields = stateOf system sdk file others := by
  have list (field : Field) (isList : field.isList = true) (name : String) :=
    bind_textList_congr (lists field isList) (toString file) name liftRefusal
  unfold stateOf
  dsimp only
  rw [texts .moduleName "" rfl, texts .sdk sdk rfl, texts .target "" rfl]
  refine congrArg (_ >>= ·) (funext fun path => ?_)
  refine congrArg (_ >>= ·) (funext fun moduleName => ?_)
  split
  · rfl
  refine congrArg (_ >>= ·) (funext fun sdkRoot => ?_)
  split
  · rfl
  refine congrArg (_ >>= ·) (funext fun target => ?_)
  refine congrArg₂ (· >>= ·) (list .frameworks rfl _) (funext fun frameworks => ?_)
  refine congrArg₂ (· >>= ·) (list .flags rfl _) (funext fun flags => ?_)
  exact congrArg₂ (· >>= ·) (list .sources rfl _) rfl

end Entries

/-! ## Pairs that say the same -/

/-- Pairs of two documents that have the same key and, for a list field, the same entries. -/
inductive Alike (document other : Yaml.Document) :
    Yaml.Item × Yaml.Item → Yaml.Item × Yaml.Item → Prop
  | kept {pair again : Yaml.Item × Yaml.Item} (key : document.plain pair.1 = other.plain again.1)
      (value : datumOf document pair.2 = datumOf other again.2) : Alike document other pair again
  | entries {pair again : Yaml.Item × Yaml.Item} {name : String} {field : Field}
      {texts : List Text.Points} (key : document.plain pair.1 = .ok name)
      (sameKey : other.plain again.1 = .ok name) (means : Field.ofKey? name = some field)
      (list : field.isList = true) (first : Entries document (some pair.2) texts)
      (second : Entries other (some again.2) texts) : Alike document other pair again

/-- Values with their keys that are the same, or at least have the same texts for a list field. -/
def Agree (pair again : String × Datum) : Prop :=
  pair.1 = again.1 ∧ (pair.2 = again.2 ∨ ∃ field, Field.ofKey? pair.1 = some field ∧
    field.isList = true ∧ Shape.texts? <$> pair.2.shape = Shape.texts? <$> again.2.shape)

section Pairs

variable {system : System} {sdk : String} {file : Path} {document other : Yaml.Document}
  {pairs rewritten : List (Yaml.Item × Yaml.Item)} {named renamed : List (String × Datum)}

/-- An item with entries has the shape of their texts. -/
theorem texts?_of_entries {value : Yaml.Item} {texts : List Text.Points}
    (entries : Entries document (some value) texts) :
    Shape.texts? <$> (datumOf document value).shape = .ok (some texts) := by
  obtain ⟨shape, read, own⟩ := entries_iff.mpr entries
  exact Outcome.map_eq_ok_iff.mpr ⟨shape, read, own⟩

/-- The keys of pairs that say the same have texts or have none together. -/
theorem namedPairs_of_alike (alike : List.Forall₂ (Alike document other) pairs rewritten) :
    (∃ fault, namedPairs document pairs = .error fault ∧
      namedPairs other rewritten = .error fault) ∨
    ∃ named renamed, namedPairs document pairs = .ok named ∧
      namedPairs other rewritten = .ok renamed ∧ List.Forall₂ Agree named renamed := by
  induction alike with
  | nil => exact .inr ⟨[], [], rfl, rfl, .nil⟩
  | @cons pair again rest restAgain here _ ih =>
    have step (document : Yaml.Document) (pair : Yaml.Item × Yaml.Item)
        (rest : List (Yaml.Item × Yaml.Item)) :
        namedPairs document (pair :: rest) = (do
          let name ← document.plain pair.1
          let named ← namedPairs document rest
          return (name, datumOf document pair.2) :: named) := by
      rw [namedPairs, List.mapM_cons]
      simp only [bind_assoc, pure_bind]
      rfl
    have keys : document.plain pair.1 = other.plain again.1 := by
      cases here with
      | kept key _ => exact key
      | entries key sameKey => rw [key, sameKey]
    rw [step, step, ← keys]
    cases written : document.plain pair.1 with
    | error fault => exact .inl ⟨fault, rfl, rfl⟩
    | ok name =>
      obtain ⟨fault, first, second⟩ | ⟨named, renamed, first, second, agree⟩ := ih
      · rw [first, second]
        exact .inl ⟨fault, rfl, rfl⟩
      · rw [first, second]
        refine .inr ⟨_, _, rfl, rfl, .cons ⟨rfl, ?_⟩ agree⟩
        cases here with
        | kept _ value => exact .inl value
        | @entries _ field texts key _ means list first second =>
          obtain rfl := Except.ok.inj (written.symm.trans key)
          exact .inr ⟨field, means, list,
            (texts?_of_entries first).trans (texts?_of_entries second).symm⟩

/-- Values that agree give a field the same value, or at least the same texts if it is a list. -/
theorem valueOf?_of_agree (agree : List.Forall₂ Agree named renamed) (field : Field) :
    valueOf? (fieldsOf named) field = valueOf? (fieldsOf renamed) field ∨
      field.isList = true ∧ textsOf (fieldsOf named) field = textsOf (fieldsOf renamed) field := by
  simp only [textsOf, shapeOf, valueOf?_fieldsOf]
  induction agree with
  | nil => exact .inl rfl
  | @cons pair again _ _ here _ ih =>
    obtain ⟨key, value⟩ := here
    rw [List.find?_cons, List.find?_cons, ← key]
    cases means : Field.ofKey? pair.1 == some field with
    | false => exact ih
    | true =>
      rcases value with same | ⟨own, meant, list, texts⟩
      · exact .inl (congrArg some same)
      · have : own = field := by simpa [meant] using means
        subst this
        exact .inr ⟨list, texts⟩

/-- Definitions whose pairs say the same have the same outcome. -/
theorem parse_eq_of_alike {text again : String}
    (read : Yaml.Document.ofText text = .ok document)
    (readAgain : Yaml.Document.ofText again = .ok other)
    (top : TopLevel document pairs) (topAgain : TopLevel other rewritten)
    (alike : List.Forall₂ (Alike document other) pairs rewritten) :
    parse system sdk text file = parse system sdk again file := by
  obtain ⟨fault, first, second⟩ | ⟨named, renamed, first, second, agree⟩ :=
    namedPairs_of_alike alike
  · rw [parse, parse, read, readAgain]
    simp only [pairsOf?_eq_some_iff.mpr top, pairsOf?_eq_some_iff.mpr topAgain, first, second]
  · rw [parse_of_topLevel read top first, parse_of_topLevel readAgain topAgain second]
    refine stateOf_congr (fun field default single => ?_) (fun field list => ?_)
    · obtain same | ⟨list, -⟩ := valueOf?_of_agree agree field
      · rw [textOr, textOr, same]
      · exact absurd (single.symm.trans list) Bool.false_ne_true
    · obtain same | ⟨-, texts⟩ := valueOf?_of_agree agree field
      · rw [textsOf, textsOf, shapeOf, shapeOf, same]
      · exact texts

end Pairs

/-! ## Texts and lists of one text -/

/-- Pairs of two documents that are the same, or where the value of a list field is a text that is
not blank in one and the list of that text in the other, or the list of a blank text in one and
nothing in the other. -/
inductive Rewrites (document other : Yaml.Document) :
    Yaml.Item × Yaml.Item → Yaml.Item × Yaml.Item → Prop
  | kept {pair again : Yaml.Item × Yaml.Item} (key : document.plain pair.1 = other.plain again.1)
      (value : datumOf document pair.2 = datumOf other again.2) :
      Rewrites document other pair again
  | wrapped {key again : Yaml.Item} {name : String} {field : Field} {text : Text.Points}
      {number : Nat} (written : document.plain key = .ok name)
      (sameKey : other.plain again = .ok name) (means : Field.ofKey? name = some field)
      (list : field.isList = true)
      (object : other.objects[number]? = some (.list [.scalar (.text text)]))
      (visible : Text.isBlankText (toString text) = false) :
      Rewrites document other (key, .scalar (.text text)) (again, .object number)
  | emptied {key again : Yaml.Item} {name : String} {field : Field} {text : Text.Points}
      {number : Nat} (written : document.plain key = .ok name)
      (sameKey : other.plain again = .ok name) (means : Field.ofKey? name = some field)
      (list : field.isList = true)
      (object : document.objects[number]? = some (.list [.scalar (.text text)]))
      (blank : Text.isBlankText (toString text) = true) :
      Rewrites document other (key, .object number) (again, .scalar .null)

/-- The entries of a list field keep a text that stands alone, blank or not, and otherwise none of
them is blank. -/
structure KeepsAlone (item? : Option Yaml.Item) (entries : List Text.Points) : Prop where
  alone : ∀ text, item? = some (.scalar (.text text)) → entries = [text]
  listed : (∀ text, item? ≠ some (.scalar (.text text))) →
    ∀ entry ∈ entries, Text.isBlankText (toString entry) = false

section Forms

variable {document other : Yaml.Document}

/-- The entries of a list of one text are the text unless it is blank. -/
theorem entries_of_list {number : Nat} {text : Text.Points}
    (object : document.objects[number]? = some (.list [.scalar (.text text)])) :
    Entries document (some (.object number))
      (if Text.isBlankText (toString text) then [] else [text]) := by
  have written : EntryText document (.scalar (.text text)) (some text) := .text (by simp) rfl
  have entries : Entries document (some (.object number)) _ :=
    .several rfl ⟨number, rfl, .inl object⟩ (.cons written .nil)
  cases blank : Text.isBlankText (toString text) <;> simpa [blank] using entries

/-- A pair that is rewritten stays alike. -/
theorem Rewrites.alike {pair again : Yaml.Item × Yaml.Item}
    (rewrites : Rewrites document other pair again) : Alike document other pair again := by
  cases rewrites with
  | kept key value => exact .kept key value
  | wrapped written sameKey means list object visible =>
    refine .entries written sameKey means list (.single rfl) ?_
    simpa [visible] using entries_of_list object
  | emptied written sameKey means list object blank =>
    refine .entries written sameKey means list ?_ (.nothing rfl)
    simpa [blank] using entries_of_list object

/-- The entries of a value keep a text that stands alone, and otherwise none is blank. -/
theorem keepsAlone_of_entries {item? : Option Yaml.Item} {entries : List Text.Points}
    (own : Entries document item? entries) : KeepsAlone item? entries := by
  cases own with
  | absent value =>
    subst value
    exact ⟨by simp, by simp⟩
  | nothing value =>
    subst value
    exact ⟨by simp, by simp⟩
  | @single text value =>
    subst value
    exact ⟨fun text same => by simp_all, fun never => absurd rfl (never text)⟩
  | @several item items texts value sequence =>
    subst value
    obtain ⟨number, rfl, -⟩ := sequence
    exact ⟨by simp, fun _ entry member => by simpa using (List.mem_filter.mp member).2⟩

end Forms

/-- A text that is not blank and the list of that text mean the same, and a blank text shows where
they differ.

- Definitions have the same outcome, whatever it is, if they differ only in that list fields have
  a text that is not blank in one and the list of it in the other, or the list of a blank text in
  one and nothing in the other.
- In a state, a text that stands alone is kept as a flag or as the path of a framework, blank or
  not; of a field in any other form no entry is blank. -/
theorem text_means_list_unless_blank (system : System) (sdk : String) (file : Path) :
    (∀ text again document other pairs rewritten, Yaml.Document.ofText text = .ok document →
      Yaml.Document.ofText again = .ok other → TopLevel document pairs →
      TopLevel other rewritten → List.Forall₂ (Rewrites document other) pairs rewritten →
      parse system sdk text file = parse system sdk again file) ∧
    ∀ text state, parse system sdk text file = .ok state →
      ∃ document pairs place, Yaml.Document.ofText text = .ok document ∧
        TopLevel document pairs ∧ system.resolve file = .ok (.absolute place) ∧
        (∃ flags, KeepsAlone (valueIn? document pairs .flags) flags ∧
          state.compilerFlags = flags.map toString) ∧
        ∃ entries, KeepsAlone (valueIn? document pairs .frameworks) entries ∧
          List.Forall₂ (fun entry path => ∃ goal,
            system.resolveText (.absolute place.dropLast) entry = .ok (.absolute goal) ∧
            path = toString (Path.absolute goal)) entries state.frameworkSearchPaths := by
  constructor
  · intro text again document other pairs rewritten read readAgain top topAgain rewrites
    exact parse_eq_of_alike read readAgain top topAgain (rewrites.imp fun _ _ => Rewrites.alike)
  · intro text state done
    obtain ⟨document, pairs, place, read, top, resolved, described⟩ := describes_of_parse done
    obtain ⟨flags, ownFlags, shown⟩ := described.compilerFlags
    obtain ⟨entries, own, paths⟩ := described.frameworkSearchPaths
    exact ⟨document, pairs, place, read, top, resolved,
      ⟨flags, keepsAlone_of_entries ownFlags, shown⟩, entries, keepsAlone_of_entries own, paths⟩

/-- A document of a module, an SDK and flags, with further collections. -/
def flagsDocument (flags : Yaml.Item) (lists : List Yaml.Object) : Yaml.Document :=
  let text (value : String) : Yaml.Item := .scalar (.text value)
  ⟨⟨.mapping [(text "module", text "App"), (text "sdk", text "s"), (text "compilerFlags", flags)]
    :: lists⟩, .object 0⟩

/-- The text of a definition with flags. -/
def flagsText (flags : String) : String :=
  "module: App\nsdk: s\ncompilerFlags: " ++ flags ++ "\n"

/-- The state of a definition with flags. -/
def flagsState (flags : List String) : State :=
  ⟨"/App/skdaemon.yaml", "App", "s", none, [], flags, []⟩

/-- One flag may stand alone or in a list, and a blank flag makes a difference. -/
theorem text_means_list_unless_blank_flag :
    parse linkedFiles "" (flagsText "-g") (.ofString "/App/skdaemon.yaml") =
      parse linkedFiles "" (flagsText "[-g]") (.ofString "/App/skdaemon.yaml") ∧
    parse linkedFiles "" (flagsText "['']") (.ofString "/App/skdaemon.yaml") =
      .ok (flagsState []) ∧
    parse linkedFiles "" (flagsText "''") (.ofString "/App/skdaemon.yaml") =
      .ok (flagsState [""]) ∧
    ∃ document pairs, TopLevel document pairs ∧
      ∃ flags, KeepsAlone (valueIn? document pairs .flags) flags ∧
        (flagsState [""]).compilerFlags = flags.map toString := by
  obtain ⟨rewritten, kept⟩ :=
    text_means_list_unless_blank linkedFiles "" (.ofString "/App/skdaemon.yaml")
  have alone : Yaml.Document.ofText (flagsText "-g") =
      .ok (flagsDocument (.scalar (.text "-g")) []) :=
    Outcome.eq_ok_of_toOption (by decide +kernel)
  have listed : Yaml.Document.ofText (flagsText "[-g]") =
      .ok (flagsDocument (.object 1) [.list [.scalar (.text "-g")]]) :=
    Outcome.eq_ok_of_toOption (by decide +kernel)
  have blankListed : parse linkedFiles "" (flagsText "['']") (.ofString "/App/skdaemon.yaml") =
      .ok (flagsState []) :=
    Outcome.eq_ok_of_toOption (by decide +kernel)
  have blankAlone : parse linkedFiles "" (flagsText "''") (.ofString "/App/skdaemon.yaml") =
      .ok (flagsState [""]) :=
    Outcome.eq_ok_of_toOption (by decide +kernel)
  obtain ⟨document, pairs, _, -, top, -, flags, -⟩ := kept _ _ blankAlone
  refine ⟨?_, blankListed, blankAlone, document, pairs, top, flags⟩
  refine rewritten _ _ _ _ _ _ alone listed (.mapping rfl rfl) (.mapping rfl rfl) ?_
  refine .cons (.kept rfl rfl) (.cons (.kept rfl rfl) (.cons ?_ .nil))
  exact .wrapped rfl rfl rfl rfl rfl (by decide)

end CompletionServer.Project
