import CompletionServer.Daemon
import CompletionServer.Proofs.Number.Numeral
import CompletionServer.Proofs.Outcome

/-!
# Which headers make a request

The rules for the headers of a request, independent of how they are looked at: `OffsetDigits` and
`RelationText` say which texts are an offset and a relation, `Says` what request headers are, and
`Offends` what is wrong with a header. A request is made exactly of the headers that follow the
rules. All others are refused for the first header that offends, but for one kind: an offset of more
digits than the limit is accepted as a text and ends in a fault as a number.
-/

namespace CompletionServer.Request

/-! ## The rules -/

/-- A text that is ASCII digits between blanks. -/
structure OffsetDigits (text digits : String) : Prop where
  padded : Text.Padded digits text
  nonempty : digits ≠ ""
  ascii : ∀ c ∈ digits.toList, c.isDigit = true

/-- A text that is a relation: the relation's number, as any whole number is written, between
blanks. -/
def RelationText (text : String) (relation : Relation) : Prop :=
  ∃ numeral, Text.Padded numeral text ∧ Number.Denotes numeral.toList relation.toNat

/-- Headers say what a request is. -/
structure Says (headers : Headers) (request : Request) : Prop where
  offset : ∃ text digits, headers.offset = some text ∧ OffsetDigits text digits ∧
    digits.length ≤ Number.digitLimit ∧ request.byteOffset = Nat.ofDigitChars 10 digits.toList 0
  path : headers.path = some request.filePath ∧ request.filePath ≠ ""
  prefixText : headers.prefixText = some request.prefixText
  cacheKey : headers.cacheKey = some request.cacheKey
  relation : ∃ text, headers.relation = some text ∧ RelationText text request.relation
  sessionPrefix : request.sessionPrefix = headers.sessionPrefix.getD ""

/-- An offset of more digits than a whole number may have. -/
def Overlong (headers : Headers) (digits : String) : Prop :=
  ∃ text, headers.offset = some text ∧ OffsetDigits text digits ∧
    Number.digitLimit < digits.length

/-- The headers that a request has to have. -/
inductive Parameter
  | offset
  | path
  | prefixText
  | cacheKey
  | relation

/-- The name of a header. -/
def Parameter.header : Parameter → String
  | .offset => "X-Offset"
  | .path => "X-Path"
  | .prefixText => "X-Prefix"
  | .cacheKey => "X-Cachekey"
  | .relation => "X-Type"

/-- The place of a header in the order in which they are looked at. -/
def Parameter.place : Parameter → Nat
  | .offset => 0
  | .path => 1
  | .prefixText => 2
  | .cacheKey => 3
  | .relation => 4

/-- What is wrong with a header that may have some texts: it is missing, or its text is none of
those. -/
inductive Flawed (accepts : String → Prop) (missing : ClientError)
    (invalid : String → ClientError) : Option String → ClientError → Prop
  | absent : Flawed accepts missing invalid none missing
  | refused {text : String} (other : ¬accepts text) :
      Flawed accepts missing invalid (some text) (invalid text)

/-- A header that counts as missing if its text is not accepted. -/
abbrev Lacking (accepts : String → Prop) (missing : ClientError) :
    Option String → ClientError → Prop :=
  Flawed accepts missing fun _ => missing

/-- What is wrong with a header of a request. -/
def Offends (headers : Headers) : Parameter → ClientError → Prop
  | .offset =>
    Flawed (fun text => ∃ digits, OffsetDigits text digits)
      (.missingParameter "X-Offset" "as completion offset for completion") .invalidOffset
      headers.offset
  | .path =>
    Lacking (· ≠ "") (.missingParameter "X-Path" "as path to the temporary buffer") headers.path
  | .prefixText => Lacking (fun _ => True) (.missingParameter "X-Prefix" "") headers.prefixText
  | .cacheKey => Lacking (fun _ => True) (.missingParameter "X-Cachekey" "") headers.cacheKey
  | .relation =>
    Flawed (fun text => ∃ relation, RelationText text relation)
      (.missingParameter "X-Type" "as relation type (0 = this class, 1 = superclass)")
      (.invalidParameter "X-Type" · "0 (this class) or 1 (superclass)") headers.relation

/-- Nothing is wrong with a header. -/
def IsSound (headers : Headers) (parameter : Parameter) : Prop :=
  ∀ error, ¬Offends headers parameter error

/-- What is wrong with the first header that offends. -/
structure FirstOffence (headers : Headers) (parameter : Parameter) (error : ClientError) :
    Prop where
  offends : Offends headers parameter error
  first : ∀ earlier : Parameter, earlier.place < parameter.place → IsSound headers earlier

/-! ## Offsets -/

section Offsets

variable {text digits : String}

/-- The digits of an offset are what trimming leaves. -/
theorem offsetDigits_iff : OffsetDigits text digits ↔
    Text.trim text = digits ∧ digits ≠ "" ∧ ∀ c ∈ digits.toList, c.isDigit = true := by
  constructor
  · rintro ⟨padded, nonempty, ascii⟩
    refine ⟨padded.trim_eq (fun c first => ?_) (fun c last => ?_), nonempty, ascii⟩
    · exact Number.isBlank_of_isDigit (ascii c (List.mem_of_mem_head? first))
    · exact Number.isBlank_of_isDigit (ascii c (List.mem_of_mem_getLast? last))
  · rintro ⟨rfl, nonempty, ascii⟩
    exact ⟨Text.padded_trim text, nonempty, ascii⟩

/-- A text has the digits of an offset exactly if it passes the test for them. -/
theorem exists_offsetDigits_iff : (∃ digits, OffsetDigits text digits) ↔
    ((Text.trim text).toList.isEmpty || !(Text.trim text).toList.all (Number.isDigitOf 10)) =
      false := by
  simp [offsetDigits_iff, Number.isDigitOf_ten]

/-- A text without such digits is refused. -/
theorem parseOffset_of_other (other : ¬∃ digits, OffsetDigits text digits) :
    parseOffset (some text) = refuse (.invalidOffset text) := by
  rw [exists_offsetDigits_iff, Bool.not_eq_false] at other
  rw [parseOffset]
  exact if_pos other

/-- A text with such digits is their number, if they are not too many. -/
theorem parseOffset_of_offsetDigits (own : OffsetDigits text digits) :
    parseOffset (some text) =
      if Number.digitLimit < digits.length then
        .error (.fault (.integer 10 digits (.tooLong digits.length)))
      else .ok (Nat.ofDigitChars 10 digits.toList 0) := by
  have found := exists_offsetDigits_iff.mp ⟨digits, own⟩
  obtain ⟨rfl, -, ascii⟩ := offsetDigits_iff.mp own
  rw [parseOffset]
  simp only [found, Bool.false_eq_true, if_false, Number.spelled_eq_ofDigitChars ascii,
    String.length_toList]

/-- The decimal form of a number below the limit is read back, whatever blanks are around it. -/
theorem parseOffset_toString {value : Nat} (small : value < 10 ^ Number.digitLimit)
    {left right : String} (before : Text.isBlankText left = true)
    (after : Text.isBlankText right = true) :
    parseOffset (some (left ++ toString value ++ right)) = .ok value := by
  have chars : (toString value).toList = Nat.toDigits 10 value := by
    rw [Nat.toString_eq_ofList_toDigits, String.toList_ofList]
  have own : OffsetDigits (left ++ toString value ++ right) (toString value) := by
    refine ⟨⟨left, right, before, after, rfl⟩, ?_, ?_⟩
    · intro empty
      rw [empty] at chars
      exact Nat.toDigits_ne_nil chars.symm
    · rw [chars]
      exact fun c member => Nat.isDigit_of_mem_toDigits (by decide) (by decide) member
  have fits : (toString value).length ≤ Number.digitLimit := by
    rw [← String.length_toList, chars]
    exact Nat.toDigits_length 10 value _ (by decide) small
  rw [parseOffset_of_offsetDigits own, if_neg (Nat.not_lt.mpr fits), chars,
    Nat.ofDigitChars_toDigits (by decide) (by decide)]

end Offsets

/-! ## Relations -/

section Relations

variable {text : String} {relation : Relation}

/-- The relation of a number is the one that has it. -/
theorem ofInt?_eq_some_iff {value : Int} :
    Relation.ofInt? value = some relation ↔ value = relation.toNat := by
  unfold Relation.ofInt?
  split
  · cases relation <;> simp [Relation.toNat]
  · cases relation <;> simp [Relation.toNat]
  next notZero notOne =>
    cases relation with
    | thisClass => simpa [Relation.toNat] using notZero
    | superClass => simpa [Relation.toNat] using notOne

/-- The relation that a text is read as. -/
def relationOf? (text : String) : Option Relation :=
  match Number.integer (Text.trim text) with
  | .ok value => Relation.ofInt? value
  | .error _ => none

/-- A text is read as a relation exactly if it denotes it. -/
theorem relationOf?_eq_some_iff :
    relationOf? text = some relation ↔ RelationText text relation := by
  rw [RelationText, ← Number.integer_trim_eq_ok_iff]
  unfold relationOf?
  cases Number.integer (Text.trim text) with
  | error cause => simp
  | ok value => simp [ofInt?_eq_some_iff]

/-- A relation is parsed as its text is read, and else refused. -/
theorem parseRelation_some (text : String) :
    parseRelation (some text) = (relationOf? text).elim
      (refuse (.invalidParameter "X-Type" text "0 (this class) or 1 (superclass)")) .ok := by
  unfold parseRelation relationOf?
  dsimp only
  cases Number.integer (Text.trim text) with
  | error cause => simp only [Option.elim_none]
  | ok value =>
    dsimp only
    cases Relation.ofInt? value with
    | none => simp only [Option.elim_none]
    | some relation => simp only [Option.elim_some]

/-- The text of a relation is parsed as the relation. -/
theorem parseRelation_of_relationText (own : RelationText text relation) :
    parseRelation (some text) = .ok relation := by
  rw [parseRelation_some, relationOf?_eq_some_iff.mpr own, Option.elim_some]

/-- A text that is none of a relation is refused. -/
theorem parseRelation_of_other (other : ¬∃ relation, RelationText text relation) :
    parseRelation (some text) =
      refuse (.invalidParameter "X-Type" text "0 (this class) or 1 (superclass)") := by
  have none : relationOf? text = none := by
    rw [Option.eq_none_iff_forall_ne_some]
    intro relation found
    exact other ⟨relation, relationOf?_eq_some_iff.mp found⟩
  rw [parseRelation_some, none, Option.elim_none]

end Relations

/-! ## All headers -/

/-- The check of a header that has to have an accepted text. -/
def required (accepts : String → Prop) [DecidablePred accepts] (missing : ClientError) :
    Option String → Except Failure String
  | none => refuse missing
  | some text => if accepts text then .ok text else refuse missing

/-- A check of a header comes to this: a text that it may have is passed, and all else is
refused. -/
inductive Judged {α : Type} (accepts : String → Prop) (missing : ClientError)
    (invalid : String → ClientError) : Option String → Except Failure α → Prop
  | absent : Judged accepts missing invalid none (refuse missing)
  | refused {text : String} (other : ¬accepts text) :
      Judged accepts missing invalid (some text) (refuse (invalid text))
  | passed {text : String} (own : accepts text) (value : α) :
      Judged accepts missing invalid (some text) (.ok value)

section Judging

variable {α : Type} {accepts : String → Prop} {missing : ClientError}
  {invalid : String → ClientError} {given : Option String} {outcome : Except Failure α}

/-- A header is passed, or it is refused for what is wrong with it. -/
theorem Judged.ok_or_refuse (judged : Judged accepts missing invalid given outcome) :
    (∃ value, outcome = .ok value ∧ ∀ error, ¬Flawed accepts missing invalid given error) ∨
      ∃ error, outcome = refuse error ∧ Flawed accepts missing invalid given error := by
  cases judged with
  | absent => exact .inr ⟨missing, rfl, .absent⟩
  | refused other => exact .inr ⟨_, rfl, .refused other⟩
  | passed own value =>
    refine .inl ⟨value, rfl, fun error flawed => ?_⟩
    cases flawed with
    | refused other => exact other own

/-- There is one thing wrong with a header. -/
theorem Flawed.unique {error other : ClientError}
    (first : Flawed accepts missing invalid given error)
    (second : Flawed accepts missing invalid given other) : error = other := by
  cases first <;> cases second <;> rfl

end Judging

section Headers

variable {headers : Headers} {parameter : Parameter} {error : ClientError}

/-- A required header is judged by what it accepts. -/
theorem judged_required (accepts : String → Prop) [DecidablePred accepts] (missing : ClientError)
    (given : Option String) :
    Judged accepts missing (fun _ => missing) given (required accepts missing given) := by
  cases given with
  | none => exact .absent
  | some text =>
    rw [required]
    split
    · next own => exact .passed own text
    · next other => exact .refused other

/-- A relation is judged by its text. -/
theorem judged_parseRelation (given : Option String) :
    Judged (fun text => ∃ relation, RelationText text relation)
      (.missingParameter "X-Type" "as relation type (0 = this class, 1 = superclass)")
      (.invalidParameter "X-Type" · "0 (this class) or 1 (superclass)") given
      (parseRelation given) := by
  cases given with
  | none => exact .absent
  | some text =>
    by_cases own : ∃ relation, RelationText text relation
    · obtain ⟨relation, written⟩ := own
      rw [parseRelation_of_relationText written]
      exact .passed ⟨relation, written⟩ relation
    · rw [parseRelation_of_other own]
      exact .refused own

/-- An offset is judged by its digits, if they are not too many. -/
theorem judged_parseOffset (fits : ∀ digits, ¬Overlong headers digits) :
    Judged (fun text => ∃ digits, OffsetDigits text digits)
      (.missingParameter "X-Offset" "as completion offset for completion") .invalidOffset
      headers.offset (parseOffset headers.offset) := by
  cases given : headers.offset with
  | none => exact .absent
  | some text =>
    by_cases own : ∃ digits, OffsetDigits text digits
    · obtain ⟨digits, written⟩ := own
      have short : ¬Number.digitLimit < digits.length :=
        fun long => fits digits ⟨text, given, written, long⟩
      rw [parseOffset_of_offsetDigits written, if_neg short]
      exact .passed ⟨digits, written⟩ _
    · rw [parseOffset_of_other own]
      exact .refused own

/-- A request is made by five checks in a row. -/
theorem ofHeaders_eq (headers : Headers) : ofHeaders headers = (do
    let byteOffset ← parseOffset headers.offset
    let filePath ← required (· ≠ "")
      (.missingParameter "X-Path" "as path to the temporary buffer") headers.path
    let prefixText ← required (fun _ => True) (.missingParameter "X-Prefix" "") headers.prefixText
    let cacheKey ← required (fun _ => True) (.missingParameter "X-Cachekey" "") headers.cacheKey
    let relation ← parseRelation headers.relation
    return ⟨filePath, byteOffset, prefixText, cacheKey, relation,
      headers.sessionPrefix.getD ""⟩) := by
  unfold ofHeaders
  refine congrArg (_ >>= ·) (funext fun byteOffset => ?_)
  dsimp only
  split
  · next absent =>
    rw [absent]
    rfl
  · next empty =>
    rw [empty]
    rfl
  next text other given =>
    have passed : required (· ≠ "")
        (.missingParameter "X-Path" "as path to the temporary buffer") headers.path = .ok text := by
      rw [given]
      exact if_pos other
    rw [passed]
    cases headers.prefixText with
    | none => rfl
    | some prefixText => cases headers.cacheKey <;> rfl

/-- There is one thing wrong with a header of a request. -/
theorem Offends.unique {other : ClientError} (first : Offends headers parameter error)
    (second : Offends headers parameter other) : error = other := by
  cases parameter <;> exact Flawed.unique first second

/-- No two parameters have the same place. -/
theorem Parameter.eq_of_place {again : Parameter} (same : parameter.place = again.place) :
    parameter = again := by
  cases parameter <;> cases again <;> simp_all [Parameter.place]

/-- Only one header is the first that offends. -/
theorem FirstOffence.unique {again : Parameter} {other : ClientError}
    (first : FirstOffence headers parameter error) (second : FirstOffence headers again other) :
    error = other := by
  have places : parameter.place = again.place := by
    rcases Nat.lt_trichotomy parameter.place again.place with less | same | more
    · exact absurd first.offends (second.first parameter less error)
    · exact same
    · exact absurd second.offends (first.first again more other)
  obtain rfl := Parameter.eq_of_place places
  exact first.offends.unique second.offends

/-- Checks come to a request and nothing is wrong, or they refuse the first header that offends. -/
def Resolved (headers : Headers) (outcome : Except Failure Request) : Prop :=
  (∃ request, outcome = .ok request ∧ ∀ parameter, IsSound headers parameter) ∨
    ∃ parameter error, outcome = refuse error ∧ FirstOffence headers parameter error

/-- The check of one header, if those before it are sound: the checks go on, with this header sound
too, or it is the first that offends. -/
theorem resolved_bind {α : Type} {accepts : String → Prop} {missing : ClientError}
    {invalid : String → ClientError} {given : Option String} {outcome : Except Failure α}
    {next : α → Except Failure Request} (parameter : Parameter)
    (judged : Judged accepts missing invalid given outcome)
    (rule : Offends headers parameter = Flawed accepts missing invalid given)
    (before : ∀ earlier : Parameter, earlier.place < parameter.place → IsSound headers earlier)
    (goes : ∀ value, (∀ earlier : Parameter, earlier.place < parameter.place + 1 →
      IsSound headers earlier) → Resolved headers (next value)) :
    Resolved headers (outcome >>= next) := by
  rcases judged.ok_or_refuse with ⟨value, rfl, sound⟩ | ⟨error, rfl, flawed⟩
  · refine goes value fun earlier less => ?_
    rcases Nat.lt_succ_iff_lt_or_eq.mp less with less | same
    · exact before earlier less
    · obtain rfl := Parameter.eq_of_place same
      rw [IsSound, rule]
      exact sound
  · exact .inr ⟨parameter, error, rfl, by rw [rule]; exact flawed, before⟩

/-- Headers whose offset is not too long make a request, or are refused for the first of them that
offends. -/
theorem resolved_ofHeaders (fits : ∀ digits, ¬Overlong headers digits) :
    Resolved headers (ofHeaders headers) := by
  rw [ofHeaders_eq]
  refine resolved_bind .offset (judged_parseOffset fits) rfl (by simp [Parameter.place])
    fun byteOffset before => ?_
  refine resolved_bind .path (judged_required _ _ _) rfl before fun filePath before => ?_
  refine resolved_bind .prefixText (judged_required _ _ _) rfl before fun prefixText before => ?_
  refine resolved_bind .cacheKey (judged_required _ _ _) rfl before fun cacheKey before => ?_
  refine resolved_bind .relation (judged_parseRelation _) rfl before fun relation before => ?_
  refine .inl ⟨_, rfl, fun parameter => before parameter ?_⟩
  cases parameter <;> decide

/-- An offset that is too long ends in a fault, whatever the other headers are. -/
theorem fault_of_overlong {digits : String} (long : Overlong headers digits) :
    ofHeaders headers = .error (.fault (.integer 10 digits (.tooLong digits.length))) := by
  obtain ⟨text, given, own, more⟩ := long
  rw [ofHeaders_eq, given, parseOffset_of_offsetDigits own, if_pos more]
  rfl

/-! ## Requests that are made -/

/-- A required header passes with a text that it accepts. -/
theorem required_eq_ok_iff {accepts : String → Prop} [DecidablePred accepts]
    {missing : ClientError} {given : Option String} {text : String} :
    required accepts missing given = .ok text ↔ given = some text ∧ accepts text := by
  cases given with
  | none => simp [required, refuse]
  | some own =>
    by_cases accepted : accepts own
    · rw [required, if_pos accepted]
      simp only [Except.ok.injEq, Option.some.injEq]
      exact ⟨fun same => ⟨same, same ▸ accepted⟩, And.left⟩
    · rw [required, if_neg accepted]
      simp only [refuse, reduceCtorEq, Option.some.injEq, false_iff, not_and]
      rintro rfl
      exact accepted

/-- An offset is the number of its digits. -/
theorem parseOffset_eq_ok_iff {given : Option String} {value : Nat} :
    parseOffset given = .ok value ↔ ∃ text digits, given = some text ∧ OffsetDigits text digits ∧
      digits.length ≤ Number.digitLimit ∧ value = Nat.ofDigitChars 10 digits.toList 0 := by
  constructor
  · intro read
    cases given with
    | none => cases read
    | some text =>
      by_cases own : ∃ digits, OffsetDigits text digits
      · obtain ⟨digits, written⟩ := own
        rw [parseOffset_of_offsetDigits written] at read
        split at read
        · cases read
        next short =>
          exact ⟨text, digits, rfl, written, Nat.le_of_not_lt short, (Except.ok.inj read).symm⟩
      · rw [parseOffset_of_other own] at read
        cases read
  · rintro ⟨text, digits, rfl, own, fits, rfl⟩
    rw [parseOffset_of_offsetDigits own, if_neg (Nat.not_lt.mpr fits)]

/-- A relation is what its text says. -/
theorem parseRelation_eq_ok_iff {given : Option String} {relation : Relation} :
    parseRelation given = .ok relation ↔
      ∃ text, given = some text ∧ RelationText text relation := by
  cases given with
  | none =>
    unfold parseRelation
    simp [refuse]
  | some text =>
    simp only [Option.some.injEq, exists_eq_left', ← relationOf?_eq_some_iff, parseRelation_some]
    cases relationOf? text <;> simp [refuse]

/-- Headers are read as the request that they say. -/
theorem ofHeaders_eq_ok_iff {request : Request} :
    ofHeaders headers = .ok request ↔ Says headers request := by
  rw [ofHeaders_eq]
  simp only [Outcome.bind_eq_ok_iff, parseOffset_eq_ok_iff, required_eq_ok_iff,
    parseRelation_eq_ok_iff]
  constructor
  · rintro ⟨_, offset, _, path, _, ⟨prefixText, -⟩, _, ⟨cacheKey, -⟩, _, relation, same⟩
    rw [← Except.ok.inj same]
    exact ⟨offset, path, prefixText, cacheKey, relation, rfl⟩
  · rintro ⟨offset, path, prefixText, cacheKey, relation, sessionPrefix⟩
    refine ⟨_, offset, _, path, _, ⟨prefixText, trivial⟩, _, ⟨cacheKey, trivial⟩, _, relation, ?_⟩
    rw [← sessionPrefix]
    rfl

end Headers

/-- A request is made exactly of the headers that follow the rules, and it is what they say.

- The offset is one to as many ASCII digits as the limit allows, between blanks, and stands for the
  number that they are the decimal form of; the path is not empty; prefix and cache key may be; the
  relation is zero or one, as any whole number is written, between blanks. Path, prefix, cache key
  and session prefix are kept as they are, and a missing session prefix is empty.
- The decimal form of every number within the limit is read back, whatever blanks are around it. -/
theorem headers_say_request (headers : Headers) :
    (∀ request, ofHeaders headers = .ok request ↔ Says headers request) ∧
    ∀ value < 10 ^ Number.digitLimit, ∀ left right, Text.isBlankText left = true →
      Text.isBlankText right = true →
      parseOffset (some (left ++ toString value ++ right)) = .ok value :=
  ⟨fun _ => ofHeaders_eq_ok_iff, fun _ small _ _ before after =>
    parseOffset_toString small before after⟩

/-- Headers of a request in unusual spelling: zeros in front of the offset, and a relation with a
sign, an underscore and a digit of another script. -/
def spelledHeaders : Headers :=
  ⟨some "\t042\u2003", some "/View.swift", some "", some "", some " +0_\u0661\n", none⟩

/-- Headers in unusual spelling make a request. -/
theorem headers_say_request_spelled :
    ofHeaders spelledHeaders = .ok ⟨"/View.swift", 42, "", "", .superClass, ""⟩ ∧
    parseOffset (some (" " ++ toString 42 ++ "\n")) = .ok 42 := by
  obtain ⟨made, read⟩ := headers_say_request spelledHeaders
  have offset : OffsetDigits "\t042\u2003" "042" :=
    ⟨⟨"\t", "\u2003", by decide, by decide, rfl⟩, by decide, by simp⟩
  have numeral : Number.Numeral "0_\u0661".toList [0, 1] :=
    .apart (by decide) (.last (by decide))
  have relation : RelationText " +0_\u0661\n" .superClass :=
    ⟨"+0_\u0661", ⟨" ", "\n", by decide, by decide, rfl⟩, .plus numeral (by decide)⟩
  constructor
  · exact (made _).mpr ⟨⟨_, _, rfl, offset, by decide, by decide⟩, ⟨rfl, by decide⟩, rfl, rfl,
      ⟨_, rfl, relation⟩, rfl⟩
  · exact read 42 (Nat.lt_of_lt_of_le (by decide : 42 < 10 ^ 2)
      (Nat.pow_le_pow_right (by decide) (by decide))) _ _ (by decide) (by decide)

/-! ## Requests that are refused -/

/-- The message of an error names a header. -/
def Names (error : ClientError) (header : String) : Prop :=
  ∃ back, error.message = "Need " ++ header ++ back ∨ error.message = "Invalid " ++ header ++ back

/-- The message about a missing header names it. -/
theorem names_missing (header hint : String) : Names (.missingParameter header hint) header := by
  refine ⟨if hint = "" then "" else " " ++ hint, .inl ?_⟩
  unfold ClientError.message
  rfl

/-- The message about an invalid header names it. -/
theorem names_invalid (header value expected : String) :
    Names (.invalidParameter header value expected) header := by
  have parts : ClientError.message (.invalidParameter header value expected) =
      "Invalid " ++ header ++ " " ++ Text.quoted value ++ s!": expected {expected}" := by
    unfold ClientError.message ClientError.invalidMessage
    rfl
  refine ⟨" " ++ Text.quoted value ++ s!": expected {expected}", .inr (parts.trans ?_)⟩
  simp only [String.append_assoc]

/-- An invalid offset has the wording of a header whose value cannot be used. -/
theorem names_invalidOffset (value : String) : Names (.invalidOffset value) "X-Offset" := by
  have same : ClientError.message (.invalidOffset value) = ClientError.message
      (.invalidParameter ClientError.offsetHeader value ClientError.offsetExpectation) := by
    unfold ClientError.message
    rfl
  obtain ⟨back, need | invalid⟩ :=
    names_invalid ClientError.offsetHeader value ClientError.offsetExpectation
  · exact ⟨back, .inl (same.trans need)⟩
  · exact ⟨back, .inr (same.trans invalid)⟩

/-- Whatever is wrong with a header, the message names it if both messages do. -/
theorem Flawed.names {accepts : String → Prop} {missing error : ClientError}
    {invalid : String → ClientError} {given : Option String} {header : String}
    (flawed : Flawed accepts missing invalid given error) (absent : Names missing header)
    (refused : ∀ text, Names (invalid text) header) : Names error header := by
  cases flawed with
  | absent => exact absent
  | refused other => exact refused _

/-- Every error names the header that it is about. -/
theorem names_of_offends {headers : Headers} {parameter : Parameter} {error : ClientError}
    (offends : Offends headers parameter error) : Names error parameter.header := by
  cases parameter with
  | offset => exact Flawed.names offends (names_missing _ _) names_invalidOffset
  | path => exact Flawed.names offends (names_missing _ _) fun _ => names_missing _ _
  | prefixText => exact Flawed.names offends (names_missing _ _) fun _ => names_missing _ _
  | cacheKey => exact Flawed.names offends (names_missing _ _) fun _ => names_missing _ _
  | relation => exact Flawed.names offends (names_missing _ _) fun text => names_invalid _ _ _

/-- Headers are refused for the first one that offends, unless the offset has too many digits. -/
theorem ofHeaders_refused_iff {headers : Headers} {error : ClientError} :
    ofHeaders headers = .error (.refused error) ↔
      (∀ digits, ¬Overlong headers digits) ∧ ∃ parameter, FirstOffence headers parameter error := by
  constructor
  · intro refused
    have fits (digits : String) : ¬Overlong headers digits := by
      intro long
      rw [fault_of_overlong long] at refused
      cases refused
    rcases resolved_ofHeaders fits with ⟨request, made, -⟩ | ⟨parameter, cause, ended, first⟩
    · rw [made] at refused
      cases refused
    · have same : cause = error := Failure.refused.inj (Except.error.inj (ended.symm.trans refused))
      exact ⟨fits, parameter, same ▸ first⟩
  · rintro ⟨fits, parameter, first⟩
    rcases resolved_ofHeaders fits with ⟨request, -, sound⟩ | ⟨_, cause, ended, other⟩
    · exact absurd first.offends (sound parameter error)
    · rw [ended, first.unique other]
      rfl

/-- Headers fail only for an offset of too many digits. -/
theorem ofHeaders_fault_iff {headers : Headers} {fault : Fault} :
    ofHeaders headers = .error (.fault fault) ↔
      ∃ digits, Overlong headers digits ∧
        fault = .integer 10 digits (.tooLong digits.length) := by
  constructor
  · intro faulted
    by_cases long : ∃ digits, Overlong headers digits
    · obtain ⟨digits, long⟩ := long
      have same := Except.error.inj (faulted.symm.trans (fault_of_overlong long))
      exact ⟨digits, long, Failure.fault.inj same⟩
    · rcases resolved_ofHeaders (not_exists.mp long) with ⟨_, ended, -⟩ | ⟨_, _, ended, -⟩
      · rw [ended] at faulted
        cases faulted
      · rw [ended] at faulted
        cases faulted
  · rintro ⟨digits, long, rfl⟩
    exact fault_of_overlong long

/-- Reading headers is never cancelled. -/
theorem ofHeaders_ne_cancelled (headers : Headers) : ofHeaders headers ≠ .error .cancelled := by
  intro cancelled
  by_cases long : ∃ digits, Overlong headers digits
  · obtain ⟨digits, long⟩ := long
    rw [fault_of_overlong long] at cancelled
    cases cancelled
  · rcases resolved_ofHeaders (not_exists.mp long) with ⟨_, ended, -⟩ | ⟨_, _, ended, -⟩
    · rw [ended] at cancelled
      cases cancelled
    · rw [ended] at cancelled
      cases cancelled

/-- A request whose headers are refused is answered with the refusal. -/
theorem prepare_of_refused {daemon : Daemon} {request : Http.Request} {error : ClientError}
    (route : Http.destination request.method request.path = .route .complete)
    (refused : ofHeaders (Daemon.parameters request) = .error (.refused error)) :
    daemon.prepare request = .answered (.ok (.ofClientError error)) := by
  simp only [Daemon.prepare, route, refused]
  rfl

/-- Headers that make no request are refused for the first of them that offends, unless the offset
is too long.

- They are refused with an error exactly if it is what is wrong with the first header that offends,
  in the order offset, path, prefix, cache key and relation: that it is missing, or empty in the
  case of the path, or that its text is no offset or no relation.
- Only digits that are more than the limit allows end in a fault, and they always do.
- The message of the error names the header, and the request is answered with it and the status of
  client errors. -/
theorem bad_headers_are_refused (headers : Headers) :
    (∀ error, ofHeaders headers = .error (.refused error) ↔
      (∀ digits, ¬Overlong headers digits) ∧ ∃ parameter, FirstOffence headers parameter error) ∧
    (∀ fault, ofHeaders headers = .error (.fault fault) ↔
      ∃ digits, Overlong headers digits ∧ fault = .integer 10 digits (.tooLong digits.length)) ∧
    ofHeaders headers ≠ .error .cancelled ∧
    (∀ parameter error, FirstOffence headers parameter error → Names error parameter.header) ∧
    ∀ (daemon : Daemon) (request : Http.Request) (error : ClientError),
      Http.destination request.method request.path = .route .complete →
      Daemon.parameters request = headers → ofHeaders headers = .error (.refused error) →
      daemon.prepare request = .answered (.ok (.ofClientError error)) ∧
      (Http.Response.ofClientError error).status = 400 := by
  refine ⟨fun _ => ofHeaders_refused_iff, fun _ => ofHeaders_fault_iff,
    ofHeaders_ne_cancelled headers, fun _ _ first => names_of_offends first.offends, ?_⟩
  rintro daemon request error route rfl refused
  exact ⟨prepare_of_refused route refused, rfl⟩

/-- A request whose offset has a sign, and that has no other headers. -/
def signedRequest : Http.Request :=
  ⟨"GET", "/complete", "", [⟨"x-offset", "+5"⟩], "127.0.0.1:8081"⟩

/-- The decimal form of a number with one digit more than the limit. -/
def overlongOffset : String :=
  String.ofList (List.replicate (Number.digitLimit + 1) '1')

/-- A sign in the offset is the first offence of a request that lacks all else, and too many digits
are a fault. -/
theorem bad_headers_are_refused_signed :
    (∃ error, ofHeaders (Daemon.parameters signedRequest) = .error (.refused error) ∧
      Names error "X-Offset" ∧ ∀ settings,
        (Daemon.fresh settings).prepare signedRequest = .answered (.ok (.ofClientError error)) ∧
        (Http.Response.ofClientError error).status = 400) ∧
    ∃ fault, ofHeaders ⟨some overlongOffset, some "/View.swift", some "", some "", some "0", none⟩ =
      .error (.fault fault) := by
  constructor
  · obtain ⟨refused, -, -, names, answered⟩ :=
      bad_headers_are_refused (Daemon.parameters signedRequest)
    have given : (Daemon.parameters signedRequest).offset = some "+5" := by decide
    have other (digits : String) : ¬OffsetDigits "+5" digits := by
      rw [offsetDigits_iff]
      rintro ⟨rfl, -, ascii⟩
      exact absurd (ascii '+' (by decide)) (by decide)
    have first : FirstOffence (Daemon.parameters signedRequest) .offset (.invalidOffset "+5") := by
      refine ⟨?_, fun earlier less => absurd less (Nat.not_lt_zero _)⟩
      rw [Offends, given]
      exact .refused (not_exists.mpr other)
    have fits (digits : String) : ¬Overlong (Daemon.parameters signedRequest) digits := by
      rintro ⟨text, own, written, -⟩
      obtain rfl := Option.some.inj (given.symm.trans own)
      exact other digits written
    have ended := (refused _).mpr ⟨fits, .offset, first⟩
    have named : Names (.invalidOffset "+5") Parameter.offset.header := names _ _ first
    exact ⟨_, ended, named, fun settings => answered _ _ _ (by decide) rfl ended⟩
  · obtain ⟨-, faulted, -⟩ := bad_headers_are_refused
      ⟨some overlongOffset, some "/View.swift", some "", some "", some "0", none⟩
    have digits : OffsetDigits overlongOffset overlongOffset := by
      refine ⟨⟨"", "", by decide, by decide, by simp⟩, ?_, ?_⟩
      · simp [overlongOffset, String.ofList_eq_empty_iff]
      · intro c member
        rw [overlongOffset, String.toList_ofList] at member
        rw [List.eq_of_mem_replicate member]
        decide
    have long : Number.digitLimit < overlongOffset.length := by
      simp [overlongOffset]
    exact ⟨_, (faulted _).mpr ⟨_, ⟨_, rfl, digits, long⟩, rfl⟩⟩

end CompletionServer.Request
