import CompletionServer.Introspection.Output
import CompletionServer.Proofs.Json.Printing
import CompletionServer.Proofs.Text.Encoding

/-!
# Candidates are read back

The introspection tool writes each candidate as an object. It may choose between two keys for the
source text, leave out what is empty or write it in one of two ways, add keys of its own, and put
values that are no objects between the candidates. Whatever it chooses, the candidates come back in
order from every JSON text of the array, and from the bytes of such a text.
-/

namespace CompletionServer.Introspection

open Text (Points)

/-! ## How candidates are written -/

/-- An object holds a text under a key: as it is or, if it is empty, as nothing or not at all. -/
inductive Holds (fields : Json.Fields) (key text : String) : Prop
  | written (member : (Points.ofString key, Json.text (.ofString text)) ∈ fields)
  | nothing (empty : text = "") (member : (Points.ofString key, Json.null) ∈ fields)
  | omitted (empty : text = "") (absent : ∀ field ∈ fields, field.1 ≠ Points.ofString key)

/-- The fields of an object describe a candidate. The source text is under one of two keys, and what
is under the other is empty. -/
structure Describes (fields : Json.Fields) (candidate : Candidate) : Prop where
  distinct : (fields.map (·.1)).Nodup
  sourceText :
    Holds fields "sourcetext" candidate.sourceText ∧ Holds fields "sourceText" "" ∨
    Holds fields "sourcetext" "" ∧ Holds fields "sourceText" candidate.sourceText
  descriptionKey : Holds fields "descriptionKey" candidate.descriptionKey
  moduleName : Holds fields "moduleName" (candidate.moduleName.getD "")
  moduleNamed : candidate.moduleName ≠ some ""
  contextTag : Holds fields "context" candidate.contextTag
  name : Holds fields "name" candidate.name
  kind : Holds fields "kind" candidate.kind
  typeName : Holds fields "typeName" candidate.typeName

/-- The items of an array describe candidates in order, with other values between them. -/
inductive Encodes : List Json → List Candidate → Prop
  | done : Encodes [] []
  | candidate {fields : Json.Fields} {candidate : Candidate} {items : List Json}
      {candidates : List Candidate} (describes : Describes fields candidate)
      (later : Encodes items candidates) :
      Encodes (.object fields :: items) (candidate :: candidates)
  | other {value : Json} {items : List Json} {candidates : List Candidate}
      (noObject : ∀ fields, value ≠ .object fields) (later : Encodes items candidates) :
      Encodes (value :: items) candidates

/-- The object of a candidate with all its texts. -/
def written (candidate : Candidate) : Json :=
  let field (key text : String) : Points × Json := (.ofString key, .text (.ofString text))
  .object [field "sourcetext" candidate.sourceText,
    field "descriptionKey" candidate.descriptionKey,
    field "moduleName" (candidate.moduleName.getD ""), field "context" candidate.contextTag,
    field "name" candidate.name, field "kind" candidate.kind,
    field "typeName" candidate.typeName]

/-! ## Fields are read back -/

section Fields

variable {fields : Json.Fields} {key text : String} {candidate : Candidate}

/-- A field is found by its key if no other field has it. -/
theorem field?_of_mem (distinct : (fields.map (·.1)).Nodup) {value : Json}
    (member : (Points.ofString key, value) ∈ fields) : Json.field? fields key = some value := by
  induction fields with
  | nil => cases member
  | cons field rest ih =>
    rw [List.map_cons, List.nodup_cons] at distinct
    rw [Json.field?, List.find?_cons]
    rcases List.mem_cons.mp member with rfl | later
    · simp
    · have other : field.1 ≠ Points.ofString key := by
        intro same
        exact distinct.1 (List.mem_map.mpr ⟨_, later, same.symm⟩)
      simp only [beq_eq_false_iff_ne.mpr other]
      exact ih distinct.2 later

/-- A key that no field has finds nothing. -/
theorem field?_of_absent (absent : ∀ field ∈ fields, field.1 ≠ Points.ofString key) :
    Json.field? fields key = none := by
  rw [Json.field?, List.find?_eq_none.mpr (by simpa using absent)]
  rfl

/-- The code points of a string are empty exactly if the string is. -/
theorem isEmpty_ofString : (Points.ofString text).isEmpty = decide (text = "") := by
  rw [Points.isEmpty, Points.ofString, List.isEmpty_map, Bool.eq_iff_iff, decide_eq_true_iff,
    List.isEmpty_iff, String.toList_eq_nil_iff]

/-- The text under a key is given exactly if it is not empty. -/
theorem fieldText_of_holds (distinct : (fields.map (·.1)).Nodup) (holds : Holds fields key text) :
    fieldText fields [key] = if text = "" then none else some text := by
  cases holds with
  | written member =>
    have plain : Json.plain (.text (.ofString text)) = text := Points.toString_ofString text
    by_cases empty : text = ""
    · simp [fieldText, field?_of_mem distinct member, Json.isGiven, isEmpty_ofString, empty]
    · simp [fieldText, field?_of_mem distinct member, Json.isGiven, isEmpty_ofString, plain, empty]
  | nothing empty member =>
    simp [fieldText, field?_of_mem distinct member, Json.isGiven, empty]
  | omitted empty absent =>
    simp [fieldText, field?_of_absent absent, empty]

/-- The text of the first of several keys is that of the first if it counts, and else that of the
others. -/
theorem fieldText_cons (fields : Json.Fields) (key : String) (keys : List String) :
    fieldText fields (key :: keys) = (fieldText fields [key]).or (fieldText fields keys) := by
  simp only [fieldText, List.findSome?_cons, List.findSome?_nil]
  split
  · rfl
  · rfl

/-- An object that describes a candidate is read as the candidate. -/
theorem Describes.candidateOf_eq (describes : Describes fields candidate) :
    candidateOf fields = candidate := by
  have own {key text : String} (holds : Holds fields key text) :
      (fieldText fields [key]).getD "" = text := by
    rw [fieldText_of_holds describes.distinct holds]
    split
    · next empty => exact empty.symm
    · rfl
  have none {key : String} (holds : Holds fields key "") : fieldText fields [key] = none := by
    rw [fieldText_of_holds describes.distinct holds, if_pos rfl]
  have sourceText : (fieldText fields ["sourcetext", "sourceText"]).getD "" =
      candidate.sourceText := by
    rw [fieldText_cons]
    rcases describes.sourceText with ⟨first, second⟩ | ⟨first, second⟩
    · rw [none second, Option.or_none, own first]
    · rw [none first, Option.none_or, own second]
  have moduleName : fieldText fields ["moduleName"] = candidate.moduleName := by
    rw [fieldText_of_holds describes.distinct describes.moduleName]
    cases named : candidate.moduleName with
    | none => rfl
    | some name =>
      have visible : name ≠ "" := fun empty => describes.moduleNamed (named.trans (empty ▸ rfl))
      exact if_neg visible
  rw [candidateOf, sourceText, moduleName, own describes.descriptionKey, own describes.contextTag,
    own describes.name, own describes.kind, own describes.typeName]

/-- Items that encode candidates give these candidates. -/
theorem Encodes.candidatesOf_eq {items : List Json} {candidates : List Candidate}
    (encodes : Encodes items candidates) : candidatesOf items = candidates := by
  induction encodes with
  | done => rfl
  | candidate describes _ ih =>
    rw [candidatesOf, List.filterMap_cons] at *
    simp only [describes.candidateOf_eq, ih]
  | @other value _ _ noObject _ ih =>
    rw [candidatesOf, List.filterMap_cons] at *
    cases value with
    | object fields => exact absurd rfl (noObject fields)
    | _ => exact ih

end Fields

/-! ## Blank texts -/

section Blanks

variable {c : Char} {rest : List Char}

/-- A blank is no visible character. -/
theorem ne_of_isBlank (blank : Text.isBlank c = true) {mark : Char}
    (visible : Text.isBlank mark = false) : c ≠ mark := by
  rintro rfl
  rw [blank] at visible
  contradiction

/-- No word begins with a blank. -/
theorem readWord?_of_isBlank (blank : Text.isBlank c = true) :
    Json.readWord? (c :: rest) = none := by
  refine Json.readWord?_eq_none fun word value member => ?_
  rcases Json.eq_of_mem_words member with rfl | rfl | rfl | rfl | rfl | rfl
  all_goals
    rw [String.toList_ofList, List.isPrefixOf, beq_eq_false_iff_ne.mpr, Bool.false_and]
    exact (ne_of_isBlank blank (by decide)).symm

/-- No number begins with a blank. -/
theorem readNumber_of_isBlank (blank : Text.isBlank c = true) :
    Json.readNumber false (c :: rest) = .error .value := by
  have noDigit : c.isDigit = false := by
    by_contra digit
    rw [Bool.not_eq_false] at digit
    rw [Number.isBlank_of_isDigit digit] at blank
    contradiction
  have nothing : Number.spanDigits ([] ++ c :: rest) = ([], c :: rest) :=
    Json.spanDigits_append (by simp) (by simpa using noDigit)
  have whole : Json.wholePart? (c :: rest) = none := by
    unfold Json.wholePart?
    split
    · next same => exact absurd (List.cons.inj same).1 (ne_of_isBlank blank (by decide))
    · rw [← List.nil_append (c :: rest), nothing]
      rfl
  rw [Json.readNumber, whole]

/-- No value begins with a blank. -/
theorem readValue_of_isBlank {fuel room : Nat} (blank : Text.isBlank c = true) :
    Json.readValue (fuel + 1) room (c :: rest) = .error .value := by
  have other {mark : Char} (visible : Text.isBlank mark = false) : c ≠ mark :=
    ne_of_isBlank blank visible
  rw [Json.readValue_otherwise (other (by decide)) (other (by decide)) (other (by decide))
    (other (by decide)) (readWord?_of_isBlank blank)]
  exact readNumber_of_isBlank blank

/-- A text that is read as a value is not blank. -/
theorem not_blank_of_read {text : String} {value : Json} (read : Json.read text = .ok value) :
    Text.isBlankText text = false := by
  by_contra blank
  rw [Bool.not_eq_false, Text.isBlankText, List.all_eq_true] at blank
  unfold Json.read at read
  dsimp only at read
  split at read
  · cases read
  · obtain ⟨⟨found, rest⟩, first, -⟩ := Outcome.bind_eq_ok_iff.mp read
    cases start : Json.skipSpace text.toList with
    | nil =>
      rw [start] at first
      cases first
    | cons c more =>
      have inside : c ∈ Json.skipSpace text.toList := start ▸ List.mem_cons_self
      have member : c ∈ text.toList := (List.dropWhile_suffix Json.isSpace).subset inside
      rw [start, readValue_of_isBlank (blank c member)] at first
      cases first

end Blanks

/-- A text that is read as an array gives the candidates of its items. -/
theorem parseText_of_read {text : String} {items : List Json}
    (read : Json.read text = .ok (.array items)) : parseText text = .ok (candidatesOf items) := by
  rw [parseText, not_blank_of_read read]
  simp only [Bool.false_eq_true, if_false, read]

/-- Bytes of a text give what the text gives. -/
theorem parseBytes_encode (text : String) :
    parseBytes (Text.Utf8.encode text) = parseText text := by
  rw [parseBytes, Text.Utf8.decodeLossy_encode]

/-! ## All candidates have a text -/

/-- A written candidate is described by its fields. -/
theorem describes_written {candidate : Candidate} (named : candidate.moduleName ≠ some "") :
    ∃ fields, written candidate = .object fields ∧ Describes fields candidate := by
  refine ⟨_, rfl, ⟨?_, .inl ⟨.written ?_, .omitted rfl ?_⟩, .written ?_, .written ?_, named,
    .written ?_, .written ?_, .written ?_, .written ?_⟩⟩
  · simp
  all_goals simp

/-- Written candidates encode the candidates. -/
theorem encodes_written {candidates : List Candidate}
    (named : ∀ candidate ∈ candidates, candidate.moduleName ≠ some "") :
    Encodes (candidates.map written) candidates := by
  induction candidates with
  | nil => exact .done
  | cons candidate rest ih =>
    rw [List.forall_mem_cons] at named
    obtain ⟨fields, own, describes⟩ := describes_written named.1
    rw [List.map_cons, own]
    exact .candidate describes (ih named.2)

/-- An array of written candidates can be printed. -/
theorem printable_written (candidates : List Candidate) :
    Json.Printable Json.depthLimit (.array (candidates.map written)) := by
  have object (candidate : Candidate) : Json.Printable (983 + 1) (written candidate) := by
    refine .object ?_ ?_ ?_
    · simp
    · simp
    · simp [Json.Printable.text]
  have array : Json.Printable (984 + 1) (.array (candidates.map written)) := by
    refine .array fun item member => ?_
    obtain ⟨candidate, -, rfl⟩ := List.mem_map.mp member
    exact object candidate
  exact array

/-- Candidates are read back from what the tool prints.

- Whatever way is chosen to write candidates as the items of an array, every JSON text of the array
  that is not nested too deeply gives the candidates back in order, and so do the bytes of the text.
  The same holds of every text that is read as the array.
- All candidates can be written, unless the name of a module is there and empty: their objects
  describe them, and the compact form of the array is a JSON text of it. -/
theorem output_gives_back_candidates :
    (∀ items candidates, Encodes items candidates → ∀ text,
      Json.IsTextOf text (.array items) ∨ Json.read text = .ok (.array items) →
      parseText text = .ok candidates ∧ parseBytes (Text.Utf8.encode text) = .ok candidates) ∧
    ∀ candidates : List Candidate, (∀ candidate ∈ candidates, candidate.moduleName ≠ some "") →
      Encodes (candidates.map written) candidates ∧
      Json.IsTextOf (Json.array (candidates.map written)).print
        (.array (candidates.map written)) := by
  constructor
  · intro items candidates encodes text given
    have read : Json.read text = .ok (.array items) := by
      rcases given with isText | read
      · exact Json.read_of_isTextOf isText
      · exact read
    have parsed : parseText text = .ok candidates := by
      rw [parseText_of_read read, encodes.candidatesOf_eq]
    exact ⟨parsed, (parseBytes_encode text).trans parsed⟩
  · intro candidates named
    exact ⟨encodes_written named, (printable_written candidates).isTextOf⟩

/-- A candidate with little more than its source text. -/
def quotedCandidate : Candidate := ⟨"a\"é", "", none, "", "", "", ""⟩

/-- Fields that describe it, with the second key for the source text and a key of the tool's own. -/
def quotedFields : Json.Fields :=
  [(.ofString "sourceText", .text (.ofString "a\"é")), (.ofString "context", .text (.ofString "")),
    (.ofString "rank", .array [.array []])]

/-- The candidate comes back from a text with escapes, blanks and other values around it, and from
its compact form. -/
theorem output_gives_back_candidates_between :
    parseText ("[\"x\", \x7b\"sourceText\": \"a\\\"\\u00e9\", \"context\":\"\"," ++
      "\"rank\" :[[]]\x7d ,[]]") = .ok [quotedCandidate] ∧
    parseBytes (Text.Utf8.encode (Json.array [written quotedCandidate]).print) =
      .ok [quotedCandidate] := by
  obtain ⟨back, all⟩ := output_gives_back_candidates
  have describes : Describes quotedFields quotedCandidate := by
    refine ⟨by simp [quotedFields], .inr ⟨.omitted rfl ?_, .written ?_⟩, .omitted rfl ?_,
      .omitted rfl ?_, by simp [quotedCandidate], .written ?_, .omitted rfl ?_, .omitted rfl ?_,
      .omitted rfl ?_⟩
    all_goals simp [quotedFields, quotedCandidate]
  have encodes : Encodes [.text (.ofString "x"), .object quotedFields, .array []]
      [quotedCandidate] :=
    .other (by simp) (.candidate describes (.other (by simp) .done))
  obtain ⟨own, isText⟩ := all [quotedCandidate] (by simp [quotedCandidate])
  exact ⟨(back _ _ encodes _ (.inr (by cbv))).1, (back _ _ own _ (.inl isText)).2⟩

end CompletionServer.Introspection
