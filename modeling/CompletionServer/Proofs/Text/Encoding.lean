import CompletionServer.Text.Utf8
import Mathlib.Data.List.Basic

/-!
# What the bytes of a text tell

The bytes of a text are those of its characters one after the other. They tell texts apart, and
there is a zero among them only if there is one among the characters: no longer form of a character
has a zero in it. Reading them gives the text back.
-/

namespace CompletionServer.Text.Utf8

/-- The bytes of an array from a place on, put behind others. -/
theorem toList_loop (bytes : ByteArray) (place : Nat) (front : List UInt8) :
    ByteArray.toList.loop bytes place front = front.reverse ++ bytes.data.toList.drop place := by
  fun_induction ByteArray.toList.loop bytes place front with
  | case1 place front there ih =>
    have there : place < bytes.data.toList.length := by simpa using there
    rw [ih, List.drop_eq_getElem_cons there]
    simp [ByteArray.get!, *]
  | case2 place front there =>
    rw [List.drop_eq_nil_of_le (by simpa using Nat.le_of_not_lt there)]
    simp

/-- The bytes of a text are those of its characters. -/
theorem encode_eq_flatMap (text : String) :
    encode text = text.toList.flatMap String.utf8EncodeChar := by
  rw [encode, String.toUTF8_eq_toByteArray, ← String.utf8Encode_toList, List.utf8Encode,
    ByteArray.toList, toList_loop, List.toList_data_toByteArray, List.drop_zero, List.reverse_nil,
    List.nil_append]

/-- Texts with the same bytes are the same. -/
theorem encode_injective : Function.Injective encode := by
  intro text other same
  rw [encode_eq_flatMap, encode_eq_flatMap] at same
  apply String.toByteArray_inj.mp
  rw [← String.utf8Encode_toList, ← String.utf8Encode_toList, List.utf8Encode, List.utf8Encode,
    same]

/-- A character of one byte. -/
theorem utf8EncodeChar_of_le {c : Char} (small : c.toNat ≤ 0x7f) :
    String.utf8EncodeChar c = [UInt8.ofNat c.toNat] :=
  if_pos small

/-- All bytes of a character of several bytes have their highest bit. -/
theorem le_of_mem_utf8EncodeChar {c : Char} (large : 0x7f < c.toNat) {byte : UInt8}
    (member : byte ∈ String.utf8EncodeChar c) : 0x80 ≤ byte.toNat := by
  revert member
  fun_cases String.utf8EncodeChar c with
  | case1 value small => exact absurd small (Nat.not_le_of_lt large)
  | case2 | case3 | case4 =>
    simp only [List.mem_cons, List.not_mem_nil, or_false]
    intro member
    -- Each byte is a remainder plus a number that has this bit and no more than eight.
    obtain rfl | rfl | rfl | rfl := member <;> rw [UInt8.toNat_ofNat'] <;> omega

/-- A character whose bytes have a zero among them is the zero character. -/
theorem zero_mem_utf8EncodeChar_iff (c : Char) : 0 ∈ String.utf8EncodeChar c ↔ c = '\x00' := by
  constructor
  · intro member
    have small : c.toNat ≤ 0x7f := by
      by_contra large
      exact absurd (le_of_mem_utf8EncodeChar (Nat.lt_of_not_le large) member) (by decide)
    rw [utf8EncodeChar_of_le small, List.mem_singleton] at member
    have zero : c.toNat = 0 := by
      have same := congrArg UInt8.toNat member
      rw [UInt8.toNat_ofNat'] at same
      have none : (0 : UInt8).toNat = 0 := rfl
      omega
    exact Char.ext (UInt32.toNat_inj.mp zero)
  · rintro rfl
    decide

/-- There is a zero among the bytes of a text if there is one among its characters. -/
theorem zero_mem_encode_iff (text : String) : 0 ∈ encode text ↔ '\x00' ∈ text.toList := by
  simp [encode_eq_flatMap, zero_mem_utf8EncodeChar_iff]

/-! ## Reading back -/

/-- A number that fits in a byte is the byte's. -/
theorem toNat_ofNat {code : Nat} (byte : code < 0x100) : (UInt8.ofNat code).toNat = code := by
  rw [UInt8.toNat_ofNat']
  omega

/-- A byte that continues a character is taken in with its six bits. -/
theorem gather_succ {following width bits low high code : Nat} {rest : List UInt8}
    (byte : code < 0x100) (above : low ≤ code) (below : code ≤ high) :
    gather (following + 1) width bits low high (UInt8.ofNat code :: rest) =
      gather following (width + 1) (bits * 64 + (code - 0x80)) 0x80 0xbf rest := by
  rw [gather, toNat_ofNat byte, if_pos (by simp [above, below])]

/-- What the first of two bytes promises. -/
theorem lead?_two {code : Nat} (above : 0x7f < code) (below : code ≤ 0x7ff) :
    lead? (code / 64 + 0xc0) = some ⟨1, code / 64, 0x80, 0xbf⟩ := by
  have table : ∀ front < 32, 2 ≤ front → lead? (front + 0xc0) = some ⟨1, front, 0x80, 0xbf⟩ := by
    decide
  exact table (code / 64) (by omega) (by omega)

/-- What the first of three bytes promises: bounds that the second keeps, since the code point is
neither small nor half of a pair. -/
theorem lead?_three {code : Nat} (above : 0x7ff < code) (below : code ≤ 0xffff)
    (valid : code < 0xd800 ∨ 0xdfff < code) :
    ∃ low high, lead? (code / 4096 + 0xe0) = some ⟨2, code / 4096, low, high⟩ ∧
      low ≤ code / 64 % 64 + 0x80 ∧ code / 64 % 64 + 0x80 ≤ high := by
  have table : ∀ front < 16, front ≠ 0 → front ≠ 0xd →
      lead? (front + 0xe0) = some ⟨2, front, 0x80, 0xbf⟩ := by decide
  by_cases first : code / 4096 = 0
  · rw [first]
    exact ⟨0xa0, 0xbf, rfl, by omega, by omega⟩
  · by_cases halves : code / 4096 = 0xd
    · rw [halves]
      exact ⟨0x80, 0x9f, rfl, by omega, by omega⟩
    · exact ⟨0x80, 0xbf, table (code / 4096) (by omega) first halves, by omega, by omega⟩

/-- What the first of four bytes promises: bounds that the second keeps, since the code point is
neither small nor beyond the last. -/
theorem lead?_four {code : Nat} (above : 0xffff < code) (below : code < 0x110000) :
    ∃ low high, lead? (code / 262144 + 0xf0) = some ⟨3, code / 262144, low, high⟩ ∧
      low ≤ code / 4096 % 64 + 0x80 ∧ code / 4096 % 64 + 0x80 ≤ high := by
  have table : ∀ front < 4, front ≠ 0 → lead? (front + 0xf0) = some ⟨3, front, 0x80, 0xbf⟩ := by
    decide
  by_cases first : code / 262144 = 0
  · rw [first]
    exact ⟨0x90, 0xbf, rfl, by omega, by omega⟩
  · by_cases last : code / 262144 = 4
    · rw [last]
      exact ⟨0x80, 0x8f, rfl, by omega, by omega⟩
    · exact ⟨0x80, 0xbf, table (code / 262144) (by omega) first, by omega, by omega⟩

/-- A first byte of several leads to the bytes that follow it. -/
theorem firstPiece_of_lead {code following bits low high : Nat} {rest : List UInt8}
    (byte : code < 0x100) (above : 0x80 ≤ code)
    (promise : lead? code = some ⟨following, bits, low, high⟩) :
    firstPiece (UInt8.ofNat code) rest = gather following 1 bits low high rest := by
  rw [firstPiece, toNat_ofNat byte, if_neg (Nat.not_lt.mpr above), promise]

/-- The bytes of a character are one piece. -/
theorem firstPiece_utf8EncodeChar (c : Char) (rest : List UInt8) :
    ∃ byte more, String.utf8EncodeChar c = byte :: more ∧
      firstPiece byte (more ++ rest) = .char c (more.length + 1) := by
  have valid : c.val.toNat < 0xd800 ∨ 0xdfff < c.val.toNat ∧ c.val.toNat < 0x110000 := c.valid
  have own {code : Nat} (same : code = c.val.toNat) : Char.ofNat code = c := by
    rw [same]
    exact Char.ofNat_toNat c
  fun_cases String.utf8EncodeChar c with
  | case1 code small =>
    refine ⟨_, _, rfl, ?_⟩
    rw [firstPiece, toNat_ofNat (by omega), if_pos (by omega), own rfl]
    rfl
  | case2 code above below =>
    have front : code / 64 % 32 = code / 64 := by omega
    have promise := lead?_two (Nat.lt_of_not_le above) below
    refine ⟨_, _, rfl, ?_⟩
    rw [front, firstPiece_of_lead (by omega) (by omega) promise, List.cons_append,
      gather_succ (by omega) (by omega) (by omega), gather, own (by omega)]
    rfl
  | case3 code _ above below =>
    have front : code / 4096 % 16 = code / 4096 := by omega
    obtain ⟨low, high, promise, least, most⟩ :=
      lead?_three (Nat.lt_of_not_le above) below (by omega)
    refine ⟨_, _, rfl, ?_⟩
    rw [front, firstPiece_of_lead (by omega) (by omega) promise, List.cons_append,
      gather_succ (by omega) least most, List.cons_append,
      gather_succ (by omega) (by omega) (by omega), gather, own (by omega)]
    rfl
  | case4 code _ _ above =>
    have front : code / 262144 % 8 = code / 262144 := by omega
    obtain ⟨low, high, promise, least, most⟩ :=
      lead?_four (Nat.lt_of_not_le above) (by omega)
    refine ⟨_, _, rfl, ?_⟩
    rw [front, firstPiece_of_lead (by omega) (by omega) promise, List.cons_append,
      gather_succ (by omega) least most, List.cons_append,
      gather_succ (by omega) (by omega) (by omega), List.cons_append,
      gather_succ (by omega) (by omega) (by omega), gather, own (by omega)]
    rfl

/-- Bytes that belong to an earlier piece are passed over. -/
theorem piecesFrom_append (covered rest : List UInt8) :
    piecesFrom covered.length (covered ++ rest) = pieces rest := by
  induction covered with
  | nil => rfl
  | cons _ covered ih => exact ih

/-- The bytes of a character are one piece, before those of the others. -/
theorem pieces_utf8EncodeChar_append (c : Char) (rest : List UInt8) :
    ∃ width, pieces (String.utf8EncodeChar c ++ rest) = .char c width :: pieces rest := by
  obtain ⟨byte, more, bytes, first⟩ := firstPiece_utf8EncodeChar c rest
  refine ⟨more.length + 1, ?_⟩
  rw [bytes, List.cons_append, pieces, piecesFrom, first]
  exact congrArg _ (piecesFrom_append more rest)

/-- Bytes of characters in front of any others are read as these characters. -/
theorem map_toChar_pieces_append (chars : List Char) (rest : List UInt8) :
    (pieces (chars.flatMap String.utf8EncodeChar ++ rest)).map Piece.toChar =
      chars ++ (pieces rest).map Piece.toChar := by
  induction chars with
  | nil => rfl
  | cons c chars ih =>
    obtain ⟨width, cut⟩ :=
      pieces_utf8EncodeChar_append c (chars.flatMap String.utf8EncodeChar ++ rest)
    rw [List.flatMap_cons, List.append_assoc, cut, List.map_cons, ih]
    rfl

/-- The bytes of a text in front of any others are read back as the text, and the others as they are
read alone. -/
theorem decodeLossy_encode_append (text : String) (rest : List UInt8) :
    decodeLossy (encode text ++ rest) = text ++ decodeLossy rest := by
  rw [decodeLossy, decodeLossy, encode_eq_flatMap, map_toChar_pieces_append, String.ofList_append,
    String.ofList_toList]

/-- The bytes of a text are read back as the text. -/
theorem decodeLossy_encode (text : String) : decodeLossy (encode text) = text := by
  have alone := decodeLossy_encode_append text []
  rw [List.append_nil] at alone
  exact alone.trans (String.append_empty)

end CompletionServer.Text.Utf8
