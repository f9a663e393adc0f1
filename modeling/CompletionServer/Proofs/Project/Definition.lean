import CompletionServer.Proofs.Project.Regularity
import CompletionServer.Proofs.Project.Values

/-!
# What definitions describe

Reading a definition goes through its file's path, three texts and three lists, and judges them
afterwards. It makes a state of everything that is not refused, and the reasons to refuse are those
that the document's values show.
-/

namespace CompletionServer.Project

open Files

/-! ## Judging what is read -/

/-- What is read of a definition before it is judged. -/
structure Reading where
  path : Path
  moduleText : String
  sdkText : String
  targetText : String
  frameworks : Shape
  flags : Shape
  sources : Shape

/-- The shape of a field's value. -/
def shapeOf (fields : List (Field × Datum)) (field : Field) : Except Fault Shape :=
  ((valueOf? fields field).map (·.shape)).getD (.ok .nothing)

/-- A definition's file and fields are read so. -/
structure Reading.Of (system : System) (sdk : String) (file : Path)
    (fields : List (Field × Datum)) (reading : Reading) : Prop where
  path : system.resolve file = .ok reading.path
  moduleText : textOr fields .moduleName "" = .ok reading.moduleText
  sdkText : textOr fields .sdk sdk = .ok reading.sdkText
  targetText : textOr fields .target "" = .ok reading.targetText
  frameworks : shapeOf fields .frameworks = .ok reading.frameworks
  flags : shapeOf fields .flags = .ok reading.flags
  sources : shapeOf fields .sources = .ok reading.sources

/-- The state made of what is read, or what is wrong with it. -/
def Reading.judge (reading : Reading) (system : System) (file : Path) :
    Except LoadFailure State :=
  let refused (reason : Reason) : Except LoadFailure State :=
    .error (.refused ⟨toString file, reason⟩)
  if Text.trim reading.moduleText = "" then refused .noModule
  else if Text.trim reading.sdkText = "" then refused .noSdk
  else
    match reading.frameworks.texts?, reading.flags.texts?, reading.sources.texts? with
    | none, _, _ => refused (.notList "frameworkSearchPaths")
    | some _, none, _ => refused (.notList "compilerFlags")
    | some _, some _, none => refused (.notList "sources")
    | some frameworks, some flags, some sources => do
      let frameworkPaths ← liftFault (frameworks.mapM (system.resolveText reading.path.parent))
      let sourceFiles ← liftFault (expandTexts system reading.path.parent sources)
      let target := Text.trim reading.targetText
      return {
        projectFile := toString file
        moduleName := Text.trim reading.moduleText
        sdkRoot := Text.trim reading.sdkText
        platformTarget := if target = "" then none else some target
        frameworkSearchPaths := frameworkPaths.map toString
        compilerFlags := flags.map toString
        sourceFiles }

section Judging

variable {system : System} {sdk : String} {file : Path} {fields : List (Field × Datum)}
  {state : State} {reading : Reading}

/-- A lifted outcome has the values of the outcome. -/
theorem liftFault_eq_ok_iff {α : Type} {outcome : Except Fault α} {value : α} :
    liftFault outcome = .ok value ↔ outcome = .ok value := by
  cases outcome <;> simp [liftFault]

/-- A definition of which everything can be read is judged by that. -/
theorem stateOf_eq_judge (reads : reading.Of system sdk file fields) :
    stateOf system sdk file fields = reading.judge system file := by
  obtain ⟨path, moduleText, sdkText, targetText, frameworks, flags, sources⟩ := reads
  rw [shapeOf] at frameworks flags sources
  simp only [stateOf, Reading.judge, path, moduleText, sdkText, targetText, frameworks, flags,
    sources, liftFault, textList, bind, Except.bind, pure, Except.pure]
  split
  · rfl
  · split
    · rfl
    · cases reading.frameworks.texts? with
      | none => rfl
      | some texts =>
        cases reading.flags.texts? with
        | none => rfl
        | some texts =>
          cases reading.sources.texts? with
          | none => rfl
          | some texts => rfl

/-- Of a definition that gives a state everything can be read. -/
theorem exists_reading_of_stateOf (done : stateOf system sdk file fields = .ok state) :
    ∃ reading : Reading, reading.Of system sdk file fields := by
  -- Each part is a step of its own, and the steps between them only refuse.
  have text {field : Field} {default trimmed : String}
      (part : (do return Text.trim (← liftFault (textOr fields field default))) =
        (Except.ok trimmed : Except LoadFailure String)) :
      ∃ text, textOr fields field default = .ok text := by
    obtain ⟨text, read, -⟩ := Outcome.bind_eq_ok_iff.mp part
    exact ⟨text, liftFault_eq_ok_iff.mp read⟩
  unfold stateOf at done
  dsimp only at done
  obtain ⟨path, resolved, done⟩ := Outcome.bind_eq_ok_iff.mp done
  obtain ⟨_, moduleText, done⟩ := Outcome.bind_eq_ok_iff.mp done
  split at done
  · cases done
  obtain ⟨_, sdkText, done⟩ := Outcome.bind_eq_ok_iff.mp done
  split at done
  · cases done
  obtain ⟨_, targetText, done⟩ := Outcome.bind_eq_ok_iff.mp done
  obtain ⟨_, frameworks, done⟩ := Outcome.bind_eq_ok_iff.mp done
  obtain ⟨_, flags, done⟩ := Outcome.bind_eq_ok_iff.mp done
  obtain ⟨_, sources, done⟩ := Outcome.bind_eq_ok_iff.mp done
  obtain ⟨moduleText, hm⟩ := text moduleText
  obtain ⟨sdkText, hs⟩ := text sdkText
  obtain ⟨targetText, ht⟩ := text targetText
  obtain ⟨frameworks, hf, -⟩ := Outcome.bind_eq_ok_iff.mp frameworks
  obtain ⟨flags, hl, -⟩ := Outcome.bind_eq_ok_iff.mp flags
  obtain ⟨sources, hu, -⟩ := Outcome.bind_eq_ok_iff.mp sources
  exact ⟨⟨path, moduleText, sdkText, targetText, frameworks, flags, sources⟩,
    liftFault_eq_ok_iff.mp resolved, hm, hs, ht, liftFault_eq_ok_iff.mp hf,
    liftFault_eq_ok_iff.mp hl, liftFault_eq_ok_iff.mp hu⟩

/-- A state is made of what is read exactly if nothing is missing, all lists are lists and all paths
can be followed. -/
theorem judge_eq_ok_iff :
    reading.judge system file = .ok state ↔
      Text.isBlankText reading.moduleText = false ∧ Text.isBlankText reading.sdkText = false ∧
      ∃ frameworks flags sources frameworkPaths sourceFiles,
        reading.frameworks.texts? = some frameworks ∧ reading.flags.texts? = some flags ∧
        reading.sources.texts? = some sources ∧
        frameworks.mapM (system.resolveText reading.path.parent) = .ok frameworkPaths ∧
        expandTexts system reading.path.parent sources = .ok sourceFiles ∧
        state = ⟨toString file, Text.trim reading.moduleText, Text.trim reading.sdkText,
          if Text.isBlankText reading.targetText then none
          else some (Text.trim reading.targetText),
          frameworkPaths.map toString, flags.map toString, sourceFiles⟩ := by
  rw [Reading.judge]
  simp only [Text.trim_eq_empty_iff]
  cases Text.isBlankText reading.moduleText with
  | true => simp
  | false =>
    cases Text.isBlankText reading.sdkText with
    | true => simp
    | false =>
      cases reading.frameworks.texts? with
      | none => simp
      | some frameworks =>
        cases reading.flags.texts? with
        | none => simp
        | some flags =>
          cases reading.sources.texts? with
          | none => simp
          | some sources =>
            simp only [Bool.false_eq_true, if_false, true_and]
            constructor
            · intro made
              obtain ⟨frameworkPaths, resolved, made⟩ := Outcome.bind_eq_ok_iff.mp made
              obtain ⟨sourceFiles, listed, made⟩ := Outcome.bind_eq_ok_iff.mp made
              exact ⟨frameworks, flags, sources, frameworkPaths, sourceFiles, rfl, rfl, rfl,
                liftFault_eq_ok_iff.mp resolved, liftFault_eq_ok_iff.mp listed,
                (Except.ok.inj made).symm⟩
            · rintro ⟨_, _, _, frameworkPaths, sourceFiles, first, second, third, resolved, listed,
                rfl⟩
              obtain rfl := Option.some.inj first
              obtain rfl := Option.some.inj second
              obtain rfl := Option.some.inj third
              refine Outcome.bind_eq_ok_iff.mpr
                ⟨frameworkPaths, liftFault_eq_ok_iff.mpr resolved, ?_⟩
              exact Outcome.bind_eq_ok_iff.mpr
                ⟨sourceFiles, liftFault_eq_ok_iff.mpr listed, rfl⟩

/-- A reading is refused exactly if a required text is blank or a list has no texts. -/
theorem judge_refused_iff :
    (∃ error, reading.judge system file = .error (.refused error)) ↔
      Text.isBlankText reading.moduleText = true ∨ Text.isBlankText reading.sdkText = true ∨
      reading.frameworks.texts? = none ∨ reading.flags.texts? = none ∨
      reading.sources.texts? = none := by
  have lifted {α β : Type} (outcome : Except Fault α) (next : α → Except LoadFailure β)
      (never : ∀ value error, next value ≠ .error (.refused error)) (error : LoadError) :
      liftFault outcome >>= next ≠ .error (.refused error) := by
    cases outcome with
    | ok value => exact never value error
    | error fault => simp [liftFault, bind, Except.bind]
  rw [Reading.judge]
  simp only [Text.trim_eq_empty_iff]
  cases Text.isBlankText reading.moduleText with
  | true => simp
  | false =>
    cases Text.isBlankText reading.sdkText with
    | true => simp
    | false =>
      cases reading.frameworks.texts? with
      | none => simp
      | some frameworks =>
        cases reading.flags.texts? with
        | none => simp
        | some flags =>
          cases reading.sources.texts? with
          | none => simp
          | some sources =>
            simp only [Bool.false_eq_true, if_false, reduceCtorEq, or_false, iff_false,
              not_exists]
            exact lifted _ _ fun _ => lifted _ _ fun _ _ => by simp [pure, Except.pure]

/-- What is not refused gives a state if the paths can be followed. -/
theorem exists_state_of_judge
    (accepted : ¬∃ error, reading.judge system file = .error (.refused error))
    (frameworksPass : ∀ texts, reading.frameworks.texts? = some texts →
      ∀ entry ∈ texts, ∃ path, system.resolveText reading.path.parent entry = .ok path)
    (sourcesPass : ∀ texts, reading.sources.texts? = some texts →
      ∃ files, expandTexts system reading.path.parent texts = .ok files) :
    ∃ state, reading.judge system file = .ok state := by
  simp only [judge_refused_iff, not_or, Bool.not_eq_true] at accepted
  obtain ⟨moduleVisible, sdkVisible, frameworks, flags, sources⟩ := accepted
  obtain ⟨frameworks, frameworkTexts⟩ := Option.ne_none_iff_exists'.mp frameworks
  obtain ⟨flags, flagTexts⟩ := Option.ne_none_iff_exists'.mp flags
  obtain ⟨sources, sourceTexts⟩ := Option.ne_none_iff_exists'.mp sources
  obtain ⟨paths, resolved⟩ :=
    Outcome.exists_mapM_eq_ok_iff.mpr (frameworksPass frameworks frameworkTexts)
  obtain ⟨files, listed⟩ := sourcesPass sources sourceTexts
  exact ⟨_, judge_eq_ok_iff.mpr ⟨moduleVisible, sdkVisible, frameworks, flags, sources, paths,
    files, frameworkTexts, flagTexts, sourceTexts, resolved, listed, rfl⟩⟩

end Judging

/-! ## States -/

section Rules

variable (document : Yaml.Document)

/-- Every key has a text, and so has every value and every item of which one is asked. -/
structure Legible (pairs : List (Yaml.Item × Yaml.Item)) : Prop where
  keys : ∀ pair ∈ pairs, ∃ text, document.plain pair.1 = .ok text
  texts : ∀ field item, field.isList = false → valueIn? document pairs field = some item →
    document.isGiven item = true → ∃ text, document.plain item = .ok text
  entries : ∀ field item items, field.isList = true → valueIn? document pairs field = some item →
    IsSequence document item items → ∀ entry ∈ items, ∃ text, document.plain entry = .ok text

/-- What a definition is refused for. -/
inductive Refusal (sdk : String) : Prop
  | notMapping (other : ∀ pairs, ¬TopLevel document pairs)
  | noModule {pairs : List (Yaml.Item × Yaml.Item)} {text : String}
      (top : TopLevel document pairs)
      (value : TextIn document (valueIn? document pairs .moduleName) "" text)
      (blank : Text.isBlankText text = true)
  | noSdk {pairs : List (Yaml.Item × Yaml.Item)} {text : String}
      (top : TopLevel document pairs)
      (value : TextIn document (valueIn? document pairs .sdk) sdk text)
      (blank : Text.isBlankText text = true)
  | notList {pairs : List (Yaml.Item × Yaml.Item)} {field : Field} {item : Yaml.Item}
      (top : TopLevel document pairs) (list : field.isList = true)
      (value : valueIn? document pairs field = some item) (other : ¬IsListLike document item)

end Rules

/-- A text that is not empty and has no blank at either end. -/
structure IsTrimmed (text : String) : Prop where
  nonempty : text ≠ ""
  front : ∀ c ∈ text.toList.head?, Text.isBlank c = false
  back : ∀ c ∈ text.toList.getLast?, Text.isBlank c = false

/-- A text that is not blank is trimmed after it was stripped. -/
theorem isTrimmed_trim {text : String} (visible : Text.isBlankText text = false) :
    IsTrimmed (Text.trim text) := by
  have chars : (Text.trim text).toList = Text.trimmed text.toList := String.toList_ofList
  refine ⟨?_, ?_, ?_⟩
  · rw [Ne, Text.trim_eq_empty_iff, visible]
    exact Bool.false_ne_true
  · intro c first
    exact Text.head_trimmed_not_blank (chars ▸ first)
  · intro c last
    exact Text.last_trimmed_not_blank (chars ▸ last)

/-- A state is what the pairs of a document describe, paths being seen from a directory. -/
structure Describes (system : System) (sdk : String) (document : Yaml.Document)
    (pairs : List (Yaml.Item × Yaml.Item)) (directory : Place) (state : State) : Prop where
  moduleName : ∃ text, TextIn document (valueIn? document pairs .moduleName) "" text ∧
    state.moduleName = Text.trim text ∧ IsTrimmed state.moduleName
  sdkRoot : ∃ text, TextIn document (valueIn? document pairs .sdk) sdk text ∧
    state.sdkRoot = Text.trim text ∧ IsTrimmed state.sdkRoot
  platformTarget : ∃ text, TextIn document (valueIn? document pairs .target) "" text ∧
    (state.platformTarget = none ∧ Text.isBlankText text = true ∨
      state.platformTarget = some (Text.trim text) ∧ IsTrimmed (Text.trim text))
  frameworkSearchPaths : ∃ entries,
    Entries document (valueIn? document pairs .frameworks) entries ∧
    List.Forall₂ (fun entry path => ∃ place,
      system.resolveText (.absolute directory) entry = .ok (.absolute place) ∧
      path = toString (Path.absolute place)) entries state.frameworkSearchPaths
  compilerFlags : ∃ entries, Entries document (valueIn? document pairs .flags) entries ∧
    state.compilerFlags = entries.map toString
  sourceFiles : ∃ entries, Entries document (valueIn? document pairs .sources) entries ∧
    expandTexts system (.absolute directory) entries = .ok state.sourceFiles
  distinct : state.sourceFiles.Nodup
  regular : ∀ file ∈ state.sourceFiles, HoldsFile system file

section States

variable {system : System} {sdk : String} {file : Path} {document : Yaml.Document}
  {pairs : List (Yaml.Item × Yaml.Item)} {fields : List (Field × Datum)} {reading : Reading}

/-- A field has the shape of the value that the pairs give it. -/
theorem shapeOf_eq_shapeIn {field : Field}
    (value : valueOf? fields field = (valueIn? document pairs field).map (datumOf document)) :
    shapeOf fields field = shapeIn document (valueIn? document pairs field) := by
  rw [shapeOf, value, shapeIn]

/-- A text that defines named pairs is parsed into the state of their fields. -/
theorem parse_of_topLevel {text : String} (read : Yaml.Document.ofText text = .ok document)
    (top : TopLevel document pairs) {named : List (String × Datum)}
    (keys : namedPairs document pairs = .ok named) :
    parse system sdk text file = stateOf system sdk file (fieldsOf named) := by
  rw [parse, read]
  simp only [pairsOf?_eq_some_iff.mpr top, keys]
  rfl

/-- Framework paths are the resolved entries, one for each. -/
theorem resolved_of_mapM {directory : Place} {entries : List Text.Points} {paths : List Path}
    (resolved : entries.mapM (system.resolveText (.absolute directory)) = .ok paths) :
    List.Forall₂ (fun entry path => ∃ place,
      system.resolveText (.absolute directory) entry = .ok (.absolute place) ∧
      path = toString (Path.absolute place)) entries (paths.map toString) := by
  rw [List.forall₂_map_right_iff]
  refine (Outcome.mapM_eq_ok_iff.mp resolved).imp fun entry path own => ?_
  obtain ⟨_, -, done⟩ := Outcome.bind_eq_ok_iff.mp (named_eq_ok_iff.mp own)
  obtain ⟨place, rfl⟩ := System.exists_absolute_of_resolve done
  exact ⟨place, own, rfl⟩

/-- A state that is made of what a document says is what it describes. -/
theorem describes_of_judge {place : Place} {state : State}
    (values : ∀ field, valueOf? fields field =
      (valueIn? document pairs field).map (datumOf document))
    (reads : reading.Of system sdk file fields) (path : reading.path = .absolute place)
    (made : reading.judge system file = .ok state) :
    Describes system sdk document pairs place.dropLast state := by
  obtain ⟨moduleVisible, sdkVisible, frameworks, flags, sources, frameworkPaths, sourceFiles,
    frameworkTexts, flagTexts, sourceTexts, resolved, listed, rfl⟩ := judge_eq_ok_iff.mp made
  have entries {field : Field} {shape : Shape} {texts : List Text.Points}
      (read : shapeOf fields field = .ok shape) (own : shape.texts? = some texts) :
      Entries document (valueIn? document pairs field) texts :=
    entries_iff.mp ⟨shape, shapeOf_eq_shapeIn (values field) ▸ read, own⟩
  have parent : reading.path.parent = .absolute place.dropLast := by rw [path]; rfl
  rw [parent] at resolved listed
  obtain ⟨distinct, regular⟩ := holdsFile_of_expandSources (expandTexts_eq_ok_iff.mp listed)
  refine ⟨⟨_, (textOr_eq_ok_iff (values _)).mp reads.moduleText, rfl, isTrimmed_trim moduleVisible⟩,
    ⟨_, (textOr_eq_ok_iff (values _)).mp reads.sdkText, rfl, isTrimmed_trim sdkVisible⟩,
    ⟨_, (textOr_eq_ok_iff (values _)).mp reads.targetText, ?_⟩,
    ⟨frameworks, entries reads.frameworks frameworkTexts, resolved_of_mapM resolved⟩,
    ⟨flags, entries reads.flags flagTexts, rfl⟩,
    ⟨sources, entries reads.sources sourceTexts, listed⟩, distinct, regular⟩
  cases blank : Text.isBlankText reading.targetText with
  | true => exact .inl ⟨rfl, rfl⟩
  | false => exact .inr ⟨rfl, isTrimmed_trim blank⟩

/-- A definition that gives a state describes it. -/
theorem describes_of_parse {text : String} {state : State}
    (done : parse system sdk text file = .ok state) :
    ∃ document pairs place, Yaml.Document.ofText text = .ok document ∧
      TopLevel document pairs ∧ system.resolve file = .ok (.absolute place) ∧
      Describes system sdk document pairs place.dropLast state := by
  rw [parse] at done
  split at done
  · cases done
  · cases done
  next document read =>
  split at done
  · cases done
  next pairs found =>
  obtain ⟨named, gathered, made⟩ := Outcome.bind_eq_ok_iff.mp done
  obtain ⟨reading, reads⟩ := exists_reading_of_stateOf made
  obtain ⟨place, path⟩ := System.exists_absolute_of_resolve reads.path
  have values := valueOf?_of_namedPairs (liftFault_eq_ok_iff.mp gathered)
  rw [stateOf_eq_judge reads] at made
  exact ⟨document, pairs, place, read, pairsOf?_eq_some_iff.mp found, path ▸ reads.path,
    describes_of_judge values reads path made⟩

/-- In a legible definition every field that is no list has a text. -/
theorem exists_textIn (legible : Legible document pairs) {field : Field}
    (single : field.isList = false) (default : String) :
    ∃ text, TextIn document (valueIn? document pairs field) default text := by
  cases value : valueIn? document pairs field with
  | none => exact ⟨default, .missing (by simp)⟩
  | some item =>
    cases given : document.isGiven item with
    | false => exact ⟨default, .missing (by simpa using given)⟩
    | true =>
      obtain ⟨text, written⟩ := legible.texts field item single value given
      exact ⟨text, .given rfl given written⟩

/-- In a legible definition every list has a shape. -/
theorem exists_shapeIn (legible : Legible document pairs) {field : Field}
    (list : field.isList = true) :
    ∃ shape, shapeIn document (valueIn? document pairs field) = .ok shape := by
  cases value : valueIn? document pairs field with
  | none => exact ⟨.nothing, rfl⟩
  | some item =>
    by_cases like : IsListLike document item
    · obtain rfl | ⟨text, rfl⟩ | ⟨items, sequence⟩ := like
      · exact ⟨.nothing, rfl⟩
      · exact ⟨.text text, rfl⟩
      · have each : ∀ entry ∈ items, ∃ text?, entryText document entry = .ok text? := by
          intro entry member
          obtain ⟨text, plain⟩ :=
            legible.entries field item items list value sequence entry member
          by_cases null : entry = .scalar .null
          · exact ⟨none, entryText_eq_ok_iff.mpr (null ▸ .nothing)⟩
          · cases written : document.written entry with
            | ok text => exact ⟨some text, entryText_eq_ok_iff.mpr (.text null written)⟩
            | error fault => cases plain.symm.trans (written_eq_error_iff.mp written)
        obtain ⟨texts, read⟩ := Outcome.exists_mapM_eq_ok_iff.mpr each
        exact ⟨.list texts, (shape_of_isSequence sequence).trans
          (Outcome.map_eq_ok_iff.mpr ⟨texts, read, rfl⟩)⟩
    · exact ⟨.other, shape_of_not_isListLike like⟩

/-- A definition whose texts can all be made is judged by what is read of it. -/
theorem exists_reading_of_topLevel {text : String} {path : Path}
    (read : Yaml.Document.ofText text = .ok document) (resolved : system.resolve file = .ok path)
    (top : TopLevel document pairs) (legible : Legible document pairs) (sdk : String) :
    ∃ fields, ∃ reading : Reading,
      (∀ field, valueOf? fields field = (valueIn? document pairs field).map (datumOf document)) ∧
      reading.Of system sdk file fields ∧ reading.path = path ∧
      parse system sdk text file = reading.judge system file := by
  have keys : ∀ pair ∈ pairs, ∃ entry : String × Datum,
      (do return (← document.plain pair.1, datumOf document pair.2)) =
        (Except.ok entry : Except Fault (String × Datum)) := by
    intro pair member
    obtain ⟨key, written⟩ := legible.keys pair member
    exact ⟨(key, datumOf document pair.2), Outcome.bind_eq_ok_iff.mpr ⟨key, written, rfl⟩⟩
  obtain ⟨named, gathered⟩ := Outcome.exists_mapM_eq_ok_iff.mpr keys
  have values := valueOf?_of_namedPairs gathered
  have textOf (field : Field) (single : field.isList = false) (default : String) :
      ∃ text, textOr (fieldsOf named) field default = .ok text := by
    obtain ⟨text, own⟩ := exists_textIn legible single default
    exact ⟨text, (textOr_eq_ok_iff (values field)).mpr own⟩
  have shapeFor (field : Field) (list : field.isList = true) :
      ∃ shape, shapeOf (fieldsOf named) field = .ok shape := by
    rw [shapeOf_eq_shapeIn (values field)]
    exact exists_shapeIn legible list
  obtain ⟨moduleText, moduleRead⟩ := textOf .moduleName rfl ""
  obtain ⟨sdkText, sdkRead⟩ := textOf .sdk rfl sdk
  obtain ⟨targetText, targetRead⟩ := textOf .target rfl ""
  obtain ⟨frameworks, frameworksRead⟩ := shapeFor .frameworks rfl
  obtain ⟨flags, flagsRead⟩ := shapeFor .flags rfl
  obtain ⟨sources, sourcesRead⟩ := shapeFor .sources rfl
  have reads : Reading.Of system sdk file (fieldsOf named)
      ⟨path, moduleText, sdkText, targetText, frameworks, flags, sources⟩ :=
    ⟨resolved, moduleRead, sdkRead, targetRead, frameworksRead, flagsRead, sourcesRead⟩
  exact ⟨fieldsOf named, _, values, reads, rfl,
    (parse_of_topLevel read top gathered).trans (stateOf_eq_judge reads)⟩

/-- A definition whose texts can all be made is refused exactly for one of the reasons. -/
theorem refused_iff_refusal {text : String} {path : Path}
    (read : Yaml.Document.ofText text = .ok document) (resolved : system.resolve file = .ok path)
    (legible : ∀ pairs, TopLevel document pairs → Legible document pairs) :
    (∃ error, parse system sdk text file = .error (.refused error)) ↔ Refusal document sdk := by
  constructor
  · rintro refused
    cases found : pairsOf? document with
    | none =>
      refine .notMapping fun pairs top => ?_
      rw [pairsOf?_eq_some_iff.mpr top] at found
      contradiction
    | some pairs =>
      have top := pairsOf?_eq_some_iff.mp found
      obtain ⟨fields, reading, values, reads, -, judged⟩ :=
        exists_reading_of_topLevel read resolved top (legible pairs top) sdk
      have notList {field : Field} {shape : Shape} (list : field.isList = true)
          (own : shapeOf fields field = .ok shape) (none : shape.texts? = none) :
          Refusal document sdk := by
        rw [shapeOf_eq_shapeIn (values field)] at own
        obtain ⟨item, value, other⟩ := shapeIn_other_iff.mp ⟨shape, own, none⟩
        exact .notList top list value other
      rw [judged] at refused
      rcases judge_refused_iff.mp refused with blank | blank | none | none | none
      · exact .noModule top ((textOr_eq_ok_iff (values _)).mp reads.moduleText) blank
      · exact .noSdk top ((textOr_eq_ok_iff (values _)).mp reads.sdkText) blank
      · exact notList rfl reads.frameworks none
      · exact notList rfl reads.flags none
      · exact notList rfl reads.sources none
  · rintro (other | ⟨top, value, blank⟩ | ⟨top, value, blank⟩ | ⟨top, list, value, other⟩)
    · have none : pairsOf? document = none :=
        Option.eq_none_iff_forall_ne_some.mpr fun pairs found =>
          other pairs (pairsOf?_eq_some_iff.mp found)
      rw [parse, read]
      simp only [none]
      exact ⟨_, rfl⟩
    all_goals
      obtain ⟨fields, reading, values, reads, -, judged⟩ :=
        exists_reading_of_topLevel read resolved top (legible _ top) sdk
      rw [judged, judge_refused_iff]
    · have same := ((textOr_eq_ok_iff (values _)).mpr value).symm.trans reads.moduleText
      exact .inl (Except.ok.inj same ▸ blank)
    · have same := ((textOr_eq_ok_iff (values _)).mpr value).symm.trans reads.sdkText
      exact .inr (.inl (Except.ok.inj same ▸ blank))
    · next field item =>
      obtain ⟨shape, own, none⟩ := shapeIn_other_iff.mpr ⟨item, value, other⟩
      rw [← shapeOf_eq_shapeIn (values field)] at own
      cases field with
      | frameworks =>
        exact .inr (.inr (.inl (Except.ok.inj (own.symm.trans reads.frameworks) ▸ none)))
      | flags =>
        exact .inr (.inr (.inr (.inl (Except.ok.inj (own.symm.trans reads.flags) ▸ none))))
      | sources =>
        exact .inr (.inr (.inr (.inr (Except.ok.inj (own.symm.trans reads.sources) ▸ none))))
      | moduleName => cases list
      | sdk => cases list
      | target => cases list

/-- A key whose text cannot be made ends the reading with a fault. -/
theorem fault_of_illegible_key {text : String} {pair : Yaml.Item × Yaml.Item} {fault : Fault}
    (read : Yaml.Document.ofText text = .ok document) (top : TopLevel document pairs)
    (member : pair ∈ pairs) (illegible : document.plain pair.1 = .error fault) :
    ∃ cause, parse system sdk text file = .error (.fault cause) := by
  cases gathered : namedPairs document pairs with
  | ok named =>
    obtain ⟨entry, own⟩ := Outcome.exists_mapM_eq_ok_iff.mp ⟨named, gathered⟩ pair member
    obtain ⟨key, written, -⟩ := Outcome.bind_eq_ok_iff.mp own
    rw [illegible] at written
    contradiction
  | error cause =>
    rw [parse, read]
    simp only [pairsOf?_eq_some_iff.mpr top, gathered]
    exact ⟨cause, rfl⟩

end States

/-- Every path that the fields of a document name can be followed from a directory. -/
structure PathsPass (system : System) (directory : Path) (document : Yaml.Document) : Prop where
  frameworks : ∀ pairs texts, TopLevel document pairs →
    Entries document (valueIn? document pairs .frameworks) texts →
    ∀ entry ∈ texts, ∃ path, system.resolveText directory entry = .ok path
  sources : ∀ pairs texts, TopLevel document pairs →
    Entries document (valueIn? document pairs .sources) texts →
    ∃ files, expandTexts system directory texts = .ok files

/-- Every state of a project is well formed, and definitions are refused for what they say only.

- If a definition gives a state, then the state is what its document describes: the module's name
  and the SDK are trimmed and not empty, and so is the target if there is one; the framework paths
  are the entries of their field, resolved, in order; the flags are the entries of theirs as they
  are; the sources are distinct regular files, written as absolute paths without links.
- If the document is read, its texts can be made and its file's path can be resolved, then the
  definition is refused exactly if its top level is something other than a mapping, the module's
  text is missing or blank, that of the SDK is blank or is missing without a default, or a list
  field is something other than nothing, a text or a list.
- Such a definition that is not refused gives a state if its paths can be followed.
- A key whose text cannot be made ends the reading with a fault, whatever else is missing. -/
theorem definition_gives_well_formed_state (system : System) (sdk text : String) (file : Path) :
    (∀ state, parse system sdk text file = .ok state →
      ∃ document pairs place, Yaml.Document.ofText text = .ok document ∧
        TopLevel document pairs ∧ system.resolve file = .ok (.absolute place) ∧
        Describes system sdk document pairs place.dropLast state) ∧
    (∀ document path, Yaml.Document.ofText text = .ok document → system.resolve file = .ok path →
      (∀ pairs, TopLevel document pairs → Legible document pairs) →
      ((∃ error, parse system sdk text file = .error (.refused error)) ↔ Refusal document sdk) ∧
      (¬Refusal document sdk → PathsPass system path.parent document →
        ∃ state, parse system sdk text file = .ok state)) ∧
    ∀ document pairs pair fault, Yaml.Document.ofText text = .ok document →
      TopLevel document pairs → pair ∈ pairs → document.plain pair.1 = .error fault →
      ∃ cause, parse system sdk text file = .error (.fault cause) := by
  refine ⟨fun state => describes_of_parse, ?_,
    fun document pairs pair fault => fault_of_illegible_key⟩
  · intro document path read resolved legible
    refine ⟨refused_iff_refusal read resolved legible, fun accepted passes => ?_⟩
    cases found : pairsOf? document with
    | none =>
      refine absurd (.notMapping fun pairs top => ?_) accepted
      rw [pairsOf?_eq_some_iff.mpr top] at found
      contradiction
    | some pairs =>
      have top := pairsOf?_eq_some_iff.mp found
      obtain ⟨fields, reading, values, reads, same, judged⟩ :=
        exists_reading_of_topLevel read resolved top (legible pairs top) sdk
      have entries {field : Field} {shape : Shape} {texts : List Text.Points}
          (own : shapeOf fields field = .ok shape) (listed : shape.texts? = some texts) :
          Entries document (valueIn? document pairs field) texts :=
        entries_iff.mp ⟨shape, shapeOf_eq_shapeIn (values field) ▸ own, listed⟩
      rw [← refused_iff_refusal read resolved legible, judged] at accepted
      rw [judged]
      refine exists_state_of_judge accepted (fun texts listed => ?_) (fun texts listed => ?_)
      · exact same ▸ passes.frameworks pairs texts top (entries reads.frameworks listed)
      · exact same ▸ passes.sources pairs texts top (entries reads.sources listed)

/-- The text of a definition that names one source twice, once through a link. -/
def linkedDefinition : String :=
  "module: ' App '\nsdk: s\nframeworkSearchPaths: lib\nsources: [Latest.swift, View.swift]\n"

/-- The text of a definition of a module, an SDK and a source. -/
def sampleText (moduleName : String) : String :=
  "module: " ++ moduleName ++ "\nsdk: s\nsources: View.swift\n"

/-- The pairs of such a definition. -/
def samplePairs (moduleName : String) : List (Yaml.Item × Yaml.Item) :=
  let text (value : String) : Yaml.Item := .scalar (.text value)
  [(text "module", text moduleName), (text "sdk", text "s"), (text "sources", text "View.swift")]

/-- The document of such a definition. -/
def sampleDocument (moduleName : String) : Yaml.Document :=
  ⟨#[.mapping (samplePairs moduleName)], .object 0⟩

/-- There are no other pairs in it. -/
theorem eq_samplePairs {moduleName : String} {pairs : List (Yaml.Item × Yaml.Item)}
    (top : TopLevel (sampleDocument moduleName) pairs) : pairs = samplePairs moduleName := by
  have own : TopLevel (sampleDocument moduleName) (samplePairs moduleName) := .mapping rfl rfl
  exact Option.some.inj
    ((pairsOf?_eq_some_iff.mpr top).symm.trans (pairsOf?_eq_some_iff.mpr own))

/-- The values of its fields. -/
theorem valueIn?_samplePairs (moduleName : String) (field : Field) :
    valueIn? (sampleDocument moduleName) (samplePairs moduleName) field =
      match field with
      | .moduleName => some (.scalar (.text moduleName))
      | .sdk => some (.scalar (.text "s"))
      | .sources => some (.scalar (.text "View.swift"))
      | _ => none := by
  cases field <;> rfl

/-- Every value in it is a text. -/
theorem exists_text_of_samplePairs {moduleName : String} {field : Field} {item : Yaml.Item}
    (value : valueIn? (sampleDocument moduleName) (samplePairs moduleName) field = some item) :
    ∃ text : String, item = .scalar (.text text) := by
  rw [valueIn?_samplePairs] at value
  cases field with
  | moduleName => exact ⟨moduleName, (Option.some.inj value).symm⟩
  | sdk => exact ⟨"s", (Option.some.inj value).symm⟩
  | sources => exact ⟨"View.swift", (Option.some.inj value).symm⟩
  | target | frameworks | flags => contradiction

/-- So all of it has texts. -/
theorem legible_samplePairs (moduleName : String) :
    Legible (sampleDocument moduleName) (samplePairs moduleName) where
  keys := by simp [samplePairs, Yaml.Document.plain, Scalar.hasText]
  texts := by
    intro field item _ value _
    obtain ⟨text, rfl⟩ := exists_text_of_samplePairs value
    exact ⟨_, rfl⟩
  entries := by
    intro field item items _ value sequence
    obtain ⟨text, rfl⟩ := exists_text_of_samplePairs value
    obtain ⟨number, other, _⟩ := sequence
    cases other

/-- It is not refused if its module has a name. -/
theorem not_refusal_sampleDocument : ¬Refusal (sampleDocument "App") "" := by
  rintro (other | ⟨top, value, blank⟩ | ⟨top, value, blank⟩ | ⟨top, list, value, other⟩)
  · exact other (samplePairs "App") (.mapping rfl rfl)
  · obtain rfl := eq_samplePairs top
    rw [valueIn?_samplePairs] at value
    obtain rfl := value.eq_of_plain (by decide) rfl
    exact absurd blank (by decide)
  · obtain rfl := eq_samplePairs top
    rw [valueIn?_samplePairs] at value
    obtain rfl := value.eq_of_plain (by decide) rfl
    exact absurd blank (by decide)
  · obtain rfl := eq_samplePairs top
    obtain ⟨text, rfl⟩ := exists_text_of_samplePairs value
    exact other (.inr (.inl ⟨text, rfl⟩))

/-- Its paths can be followed where its source is. -/
theorem pathsPass_sampleDocument (moduleName : String) :
    PathsPass linkedFiles (.ofString "/App") (sampleDocument moduleName) where
  frameworks := by
    intro pairs texts top entries
    obtain rfl := eq_samplePairs top
    rw [valueIn?_samplePairs] at entries
    cases entries with
    | absent => simp
    | nothing value | single value | several value => cases value
  sources := by
    intro pairs texts top entries
    obtain rfl := eq_samplePairs top
    rw [valueIn?_samplePairs] at entries
    cases entries with
    | absent value | nothing value => cases value
    | @single text value =>
      obtain rfl : Text.Points.ofString "View.swift" = text := by simpa using value
      exact Outcome.isOk_iff.mp (by decide +kernel)
    | several value sequence =>
      obtain rfl := Option.some.inj value
      obtain ⟨number, other, _⟩ := sequence
      cases other

/-- A document without a module, whose only key is a number. -/
def numberedDocument (key : Int) : Yaml.Document :=
  ⟨#[.mapping [(.scalar (.integer key), .scalar .null)]], .object 0⟩

/-- A definition that names a source twice gives a state, one whose module's name is blank is
refused, one with a name, an SDK and a source gives a state, and one that has a number of too many
digits in place of a key ends with a fault. -/
theorem definition_gives_well_formed_state_linked :
    (∃ state, parse linkedFiles "" linkedDefinition (.ofString "/App/skdaemon.yaml") = .ok state ∧
      state.moduleName = "App" ∧ state.frameworkSearchPaths = ["/App/lib"] ∧
      state.sourceFiles = ["/App/View.swift"] ∧
      ∃ document pairs place, TopLevel document pairs ∧
        Describes linkedFiles "" document pairs place state) ∧
    (∃ error, parse linkedFiles "" (sampleText "' '") (.ofString "/App/skdaemon.yaml") =
      .error (.refused error)) ∧
    (∃ state, parse linkedFiles "" (sampleText "App") (.ofString "/App/skdaemon.yaml") =
      .ok state) ∧
    ∀ text key, Yaml.Document.ofText text = .ok (numberedDocument key) →
      Nat.pow 10 Number.digitLimit ≤ key.natAbs →
      ∃ cause, parse linkedFiles "" text (.ofString "/App/skdaemon.yaml") =
        .error (.fault cause) := by
  have resolved : linkedFiles.resolve (.ofString "/App/skdaemon.yaml") =
      .ok (.ofString "/App/skdaemon.yaml") :=
    Outcome.eq_ok_of_toOption (by decide +kernel)
  have reads {text name : String}
      (read : (Yaml.Document.ofText text).toOption = some (sampleDocument name)) :=
    (definition_gives_well_formed_state linkedFiles "" text _).2.1 _ _
      (Outcome.eq_ok_of_toOption read) resolved
      fun pairs top => eq_samplePairs top ▸ legible_samplePairs name
  refine ⟨?_, ?_, ?_, ?_⟩
  · have done : parse linkedFiles "" linkedDefinition (.ofString "/App/skdaemon.yaml") =
        .ok ⟨"/App/skdaemon.yaml", "App", "s", none, ["/App/lib"], [], ["/App/View.swift"]⟩ :=
      Outcome.eq_ok_of_toOption (by decide +kernel)
    obtain ⟨document, pairs, place, -, top, -, described⟩ :=
      (definition_gives_well_formed_state _ _ _ _).1 _ done
    exact ⟨_, done, rfl, rfl, rfl, document, pairs, place.dropLast, top, described⟩
  · have named : valueIn? (sampleDocument " ") (samplePairs " ") .moduleName =
        some (.scalar (.text " ")) := valueIn?_samplePairs " " .moduleName
    have refusal : Refusal (sampleDocument " ") "" :=
      .noModule (.mapping rfl rfl) (.given named (by decide) rfl) (by decide)
    exact (reads (by decide +kernel)).1.mpr refusal
  · exact (reads (by decide +kernel)).2 not_refusal_sampleDocument (pathsPass_sampleDocument "App")
  · intro text key read long
    exact (definition_gives_well_formed_state linkedFiles "" text _).2.2 _ _ _ _ read
      (.mapping rfl rfl) List.mem_cons_self (plain_of_overlong long)

end CompletionServer.Project
