import CompletionServer.Json.Printer
import CompletionServer.Proofs.Json.Grammar

/-!
# Printed values are texts of the values

The compact form of a value is one of its texts, so that it is read back as the value. This holds of
every value whose numbers are whole and not too long, whose texts consist of characters, and which
is not nested too deeply.
-/

namespace CompletionServer.Json

/-- A value that is printed as a text of it, inside which arrays and objects stand at most `room`
deep. -/
inductive Printable : (room : Nat) → Json → Prop
  | null {room : Nat} : Printable room .null
  | bool {room : Nat} (value : Bool) : Printable room (.bool value)
  | integer {room : Nat} {value : Int} (short : value.natAbs < 10 ^ Number.digitLimit) :
      Printable room (.integer value)
  | text {room : Nat} (value : String) : Printable room (.text (.ofString value))
  | array {room : Nat} {items : List Json} (each : ∀ item ∈ items, Printable room item) :
      Printable (room + 1) (.array items)
  | object {room : Nat} {fields : Fields} (distinct : (fields.map (·.1)).Nodup)
      (keys : ∀ field ∈ fields, ∃ key : String, field.1 = .ofString key)
      (each : ∀ field ∈ fields, Printable room field.2) : Printable (room + 1) (.object fields)

/-! ## Texts -/

/-- A hexadecimal digit has its value. -/
theorem hexDigit_of_lt {value : Nat} (small : value < 16) :
    HexDigit (Text.hexDigit value) value := by
  have table : ∀ value < 16, Number.digitValue? (Text.hexDigit value) = some value := by decide
  exact ⟨table value small, small⟩

/-- Four hexadecimal digits have the value of the number they write. -/
theorem quad_hexDigits {code : Nat} (small : code < 0x10000) :
    Quad (Text.hexDigits 4 code) code := by
  have digit (value : Nat) : HexDigit (Text.hexDigit (value % 16)) (value % 16) :=
    hexDigit_of_lt (Nat.mod_lt _ (by decide))
  have quad := Quad.mk (digit (code / 16 / 16 / 16)) (digit (code / 16 / 16)) (digit (code / 16))
    (digit code)
  have value : ((code / 16 / 16 / 16 % 16 * 16 + code / 16 / 16 % 16) * 16 + code / 16 % 16) * 16 +
      code % 16 = code := by omega
  rw [value] at quad
  exact quad

/-- A printed character stands for itself. -/
theorem textSpells_stringChar (c : Char) {chars : List Char} {codes : List Nat}
    (later : TextSpells chars codes) : TextSpells (stringChar c ++ chars) (c.toNat :: codes) := by
  unfold stringChar
  split
  all_goals try exact .letter (by decide) later
  next quote mark _ _ _ _ _ =>
  split
  · next control =>
    have low : Text.Points.isHighHalf c.toNat = false := Text.Points.isHighHalf_toNat c
    exact .unit (quad_hexDigits (by omega)) (by simp [low]) later
  · next visible => exact .plain quote mark (Nat.le_of_not_lt visible) later

/-- The printed characters of a text stand for its code points. -/
theorem textSpells_string (text : String) :
    TextSpells ((Text.Points.ofString text).codes.flatMap stringCode)
      (Text.Points.ofString text).codes := by
  rw [Text.Points.ofString]
  induction text.toList with
  | nil => exact .done
  | cons c rest ih =>
    have valid : c.toNat.isValidChar := c.valid
    have own : stringCode c.toNat = stringChar c := by
      rw [stringCode, if_pos valid, Char.ofNat_toNat]
    rw [List.map_cons, List.flatMap_cons, own]
    exact textSpells_stringChar c ih

/-- A printed text stands between quotes. -/
theorem toList_printString (text : Text.Points) :
    (printString text).toList = '"' :: (text.codes.flatMap stringCode ++ ['"']) := by
  rw [printString, String.toList_ofList, List.cons_append]

/-! ## Numbers -/

/-- Only zero is written with a leading zero. -/
theorem zero_of_head?_toDigits {value : Nat} (zero : (Nat.toDigits 10 value).head? = some '0') :
    value = 0 := by
  induction value using Nat.strongRecOn with
  | ind value ih =>
    by_cases small : value < 10
    · rw [Nat.toDigits_of_lt_base small] at zero
      have table : ∀ value < 10, value.digitChar = '0' → value = 0 := by decide
      exact table value small (Option.some.inj zero)
    · have large : 10 ≤ value := Nat.le_of_not_lt small
      rw [Nat.toDigits_of_base_le (by decide) large,
        List.head?_append_of_ne_nil _ Nat.toDigits_ne_nil] at zero
      have front := ih (value / 10) (by omega) zero
      omega

/-- The digits of a number are a whole part. -/
theorem isWhole_toDigits (value : Nat) : IsWhole (Nat.toDigits 10 value) := by
  refine ⟨⟨Nat.toDigits_ne_nil, ?_⟩, ?_⟩
  · exact fun c member => Nat.isDigit_of_mem_toDigits (by decide) (by decide) member
  · intro zero
    rw [zero_of_head?_toDigits zero]
    rfl

/-- A printed whole number is spelled by its digits and its sign. -/
theorem spells_integer {room : Nat} {value : Int} (short : value.natAbs < 10 ^ Number.digitLimit) :
    Spells room (toString value).toList (.integer value) := by
  have spells (negative : Bool) (magnitude : Nat) (short : magnitude < 10 ^ Number.digitLimit) :
      NumberSpells negative (Nat.toDigits 10 magnitude) (.integer (signed negative magnitude)) := by
    have length : (Nat.toDigits 10 magnitude).length ≤ Number.digitLimit :=
      (Nat.length_toDigits_le_iff (by decide) (by decide)).mpr short
    have number : NumberSpells negative (Nat.toDigits 10 magnitude) _ :=
      .integer (isWhole_toDigits magnitude) length
    rwa [Nat.ofDigitChars_toDigits (by decide) (by decide)] at number
  rw [Int.toString_eq_repr]
  cases value with
  | ofNat magnitude =>
    have digits :
        (Int.repr (.ofNat magnitude)).toList = signOf false ++ Nat.toDigits 10 magnitude := by
      rw [Int.repr, Nat.repr_eq_ofList_toDigits, String.toList_ofList]
      rfl
    rw [digits]
    exact .number (spells false magnitude short)
  | negSucc magnitude =>
    have digits : (Int.repr (.negSucc magnitude)).toList =
        signOf true ++ Nat.toDigits 10 (magnitude + 1) := by
      rw [Int.repr, Nat.repr_eq_ofList_toDigits, String.toList_append, String.toList_ofList,
        String.toList_ofList]
      rfl
    rw [digits]
    exact .number (spells true (magnitude + 1) short)

/-! ## Values -/

/-- No blanks. -/
def Blanks.none : Blanks := ⟨[], by simp⟩

/-- A value's characters without blanks. -/
def ItemText.bare (chars : List Char) : ItemText :=
  ⟨.none, chars, .none⟩

/-- An item with its printed characters. -/
def printedItem (item : Json) : ItemText × Json :=
  (.bare item.print.toList, item)

/-- A field with its printed characters. -/
def printedField (field : Text.Points × Json) : FieldText × Text.Points × Json :=
  (⟨.none, field.1.codes.flatMap stringCode, .none, .bare field.2.print.toList⟩, field)

/-- A bare item has no other characters than its value. -/
theorem ItemText.chars_bare (chars : List Char) : (ItemText.bare chars).chars = chars :=
  List.append_nil chars

/-- The characters of a printed field are its key, a colon and its value. -/
theorem chars_printedField (field : Text.Points × Json) :
    (printedField field).1.chars = (printString field.1 ++ ":" ++ field.2.print).toList := by
  rw [String.toList_append, String.toList_append, toList_printString, printedField, FieldText.chars,
    ItemText.chars_bare]
  simp [Blanks.none]

/-- Items are printed one by one. -/
theorem printItems_eq (items : List Json) : printItems items = items.map print := by
  induction items with
  | nil => rfl
  | cons item rest ih => rw [printItems, ih, List.map_cons]

/-- Fields are printed one by one. -/
theorem printFields_eq (fields : Fields) :
    printFields fields = fields.map fun field => printString field.1 ++ ":" ++ field.2.print := by
  induction fields with
  | nil => rfl
  | cons field rest ih => rw [printFields, ih, List.map_cons]

/-- A printed array is spelled by the spellings of its items. -/
theorem spells_array {room : Nat} {items : List Json}
    (each : ∀ item ∈ items, Spells room item.print.toList item) :
    Spells (room + 1) (Json.array items).print.toList (.array items) := by
  by_cases empty : items = []
  · subst empty
    exact .emptyArray .none
  · have parts : ∀ part ∈ items.map printedItem, Spells room part.1.core part.2 := by
      intro part member
      obtain ⟨item, own, rfl⟩ := List.mem_map.mp member
      exact each item own
    have spelled := Spells.array (by simpa using empty) parts
    have chars : (Json.array items).print.toList =
        '[' :: ([','].intercalate ((items.map printedItem).map (·.1.chars)) ++ [']']) := by
      rw [print, printItems_eq, String.toList_append, String.toList_append,
        String.toList_intercalate, List.map_map, List.map_map]
      simp [printedItem, ItemText.chars_bare, Function.comp_def]
    have values : (items.map printedItem).map (·.2) = items := by
      simp [printedItem, Function.comp_def]
    rw [values, ← chars] at spelled
    exact spelled

/-- A printed object is spelled by the spellings of its fields, if its keys differ. -/
theorem spells_object {room : Nat} {fields : Fields} (distinct : (fields.map (·.1)).Nodup)
    (keys : ∀ field ∈ fields, ∃ key : String, field.1 = .ofString key)
    (each : ∀ field ∈ fields, Spells room field.2.print.toList field.2) :
    Spells (room + 1) (Json.object fields).print.toList (.object fields) := by
  by_cases empty : fields = []
  · subst empty
    exact .emptyObject .none
  · have parts : ∀ part ∈ fields.map printedField, Spells room part.1.item.core part.2.2 := by
      intro part member
      obtain ⟨field, own, rfl⟩ := List.mem_map.mp member
      exact each field own
    have named : ∀ part ∈ fields.map printedField, TextSpells part.1.key part.2.1.codes := by
      intro part member
      obtain ⟨field, own, rfl⟩ := List.mem_map.mp member
      obtain ⟨key, same⟩ := keys field own
      rw [printedField, same]
      exact textSpells_string key
    have unique : ((fields.map printedField).map (·.2.1)).Nodup := by
      rw [List.map_map]
      exact distinct
    have spelled := Spells.object (by simpa using empty) unique named parts
    have chars : (Json.object fields).print.toList =
        '\x7b' :: ([','].intercalate ((fields.map printedField).map (·.1.chars)) ++ ['\x7d']) := by
      rw [print, printFields_eq, String.toList_append, String.toList_append,
        String.toList_intercalate, List.map_map, List.map_map]
      simp [chars_printedField, Function.comp_def]
    have values : (fields.map printedField).map (·.2) = fields := by
      simp [printedField, Function.comp_def]
    rw [values, ← chars] at spelled
    exact spelled

/-- The compact form of a value is a text of it. -/
theorem Printable.spells {room : Nat} {value : Json} (printable : Printable room value) :
    Spells room value.print.toList value := by
  induction printable with
  | null =>
    rw [print]
    exact .word (by simp [words])
  | bool value =>
    rw [print]
    cases value <;> exact .word (by simp [words])
  | integer short =>
    rw [print]
    exact spells_integer short
  | text value =>
    rw [print, toList_printString]
    exact .text (textSpells_string value)
  | array _ ih => exact spells_array ih
  | object distinct keys _ ih => exact spells_object distinct keys ih

/-- A value is read back from its compact form. -/
theorem Printable.isTextOf {value : Json} (printable : Printable depthLimit value) :
    IsTextOf value.print value :=
  ⟨.bare value.print.toList, ItemText.chars_bare _, printable.spells⟩

end CompletionServer.Json
