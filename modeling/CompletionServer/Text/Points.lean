import CompletionServer.Text.Quoted

/-!
# Texts of code points

Escapes by number can spell half of a surrogate pair on its own, which is no character. A text that
is read from a document therefore is a list of code points. As a string it shows the character of
two halves that make up a pair, and the replacement character for every other half; between quotes a
half is written by its number. Halves have no encoding, except that where files are named some of
them stand for single bytes. A path that holds any other half can no more be looked up than one that
holds NUL.
-/

namespace CompletionServer.Text

/-- A text as its code points. -/
structure Points where
  codes : List Nat
  deriving DecidableEq, Repr

namespace Points

/-- The code points of a string. -/
def ofString (text : String) : Points := ⟨text.toList.map Char.toNat⟩

/-- A string is taken as its code points. -/
instance : Coe String Points := ⟨ofString⟩

/-- The character of a code point, the replacement character if there is none. -/
def charOf (code : Nat) : Char :=
  if code.isValidChar then Char.ofNat code else '\ufffd'

/-- The characters of a text, one for each code point. -/
def chars (points : Points) : List Char := points.codes.map charOf

/-- Whether a number is the first half of a surrogate pair. -/
def isHighHalf (unit : Nat) : Bool := 0xd800 ≤ unit && unit ≤ 0xdbff

/-- Whether a number is the second half of a surrogate pair. -/
def isLowHalf (unit : Nat) : Bool := 0xdc00 ≤ unit && unit ≤ 0xdfff

/-- Whether a number is half of a surrogate pair. -/
def isHalf (unit : Nat) : Bool := isHighHalf unit || isLowHalf unit

/-- Whether a half stands for a byte that is no part of a character in the names of files. -/
def isByteHalf (unit : Nat) : Bool := 0xdc80 ≤ unit && unit ≤ 0xdcff

/-- The code point of a surrogate pair. -/
def pairCode (high low : Nat) : Nat :=
  0x10000 + (high - 0xd800) * 0x400 + (low - 0xdc00)

/-- Code points with each two halves that make up a pair put together. -/
def joined : List Nat → List Nat
  | high :: low :: rest =>
    if isHighHalf high && isLowHalf low then pairCode high low :: joined rest
    else high :: joined (low :: rest)
  | codes => codes

/-- The string of a text. -/
protected def toString (points : Points) : String :=
  String.ofList ((joined points.codes).map charOf)

/-- Code points are shown as a string. -/
instance : ToString Points := ⟨Points.toString⟩

/-- Where the first half stands that cannot be encoded, none of those that are permitted, and where
the halves from there on end. -/
def unencodable? (permitted : Nat → Bool) (points : Points) : Option (Nat × Nat) :=
  (points.codes.findIdx? fun code => isHalf code && !permitted code).map fun start =>
    (start, start + ((points.codes.drop start).takeWhile isHalf).length)

/-- The text as it is looked up in a file system, one character for each code point. What can be
part of no path stands as NUL. -/
def pathText (points : Points) : String :=
  String.ofList (points.codes.map fun code =>
    if isHalf code && !isByteHalf code then '\x00' else charOf code)

/-- The names between the slashes of a text. -/
def names (points : Points) : List Points :=
  ((points.codes.splitOn '/'.toNat).map mk).filter fun name =>
    name ≠ ofString "" && name ≠ ofString "."

/-- Whether a text holds nothing. -/
def isEmpty (points : Points) : Bool := points.codes.isEmpty

/-- One code point inside quotes. -/
def quotedCode (quote : Char) (code : Nat) : List Char :=
  if code.isValidChar then quotedChar quote (Char.ofNat code) else numberEscape code

/-- A text between quotes. -/
def quoted (points : Points) : String :=
  let quote := quoteFor points.chars
  String.ofList (quote :: points.codes.flatMap (quotedCode quote) ++ [quote])

/-- A character is the character of its code point. -/
@[simp] theorem charOf_toNat (c : Char) : charOf c.toNat = c := by
  have valid : c.toNat.isValidChar := c.valid
  simp [charOf, valid, Char.ofNat_toNat]

/-- No character is the first half of a pair. -/
@[simp] theorem isHighHalf_toNat (c : Char) : isHighHalf c.toNat = false := by
  have valid : c.toNat < 0xd800 ∨ 0xdfff < c.toNat ∧ c.toNat < 0x110000 := c.valid
  simp only [isHighHalf, Bool.and_eq_false_iff, decide_eq_false_iff_not]
  omega

/-- Between characters there is nothing to join. -/
@[simp] theorem joined_map_toNat (chars : List Char) :
    joined (chars.map Char.toNat) = chars.map Char.toNat := by
  match chars with
  | [] | [_] => rfl
  | first :: second :: rest =>
    have ih := joined_map_toNat (second :: rest)
    rw [List.map_cons] at ih
    simp [joined, ih]

/-- The string of a string's code points is the string. -/
@[simp] theorem toString_ofString (text : String) : (ofString text).toString = text := by
  simp [ofString, Points.toString, Function.comp_def]

/-- Strings with the same code points are the same. -/
theorem ofString_injective {left right : String} (h : ofString left = ofString right) :
    left = right := by
  rw [← toString_ofString left, h, toString_ofString]

/-- Strings have the same code points exactly if they are the same. -/
@[simp] theorem ofString_inj {left right : String} :
    ofString left = ofString right ↔ left = right :=
  ⟨ofString_injective, congrArg ofString⟩

end Points

end CompletionServer.Text
