import CompletionServer.Proofs.Text.Encoding
import CompletionServer.Proofs.Outcome

/-!
# Which bytes are text

Strict reading accepts the bytes of texts and no others: a character is read from its own bytes
only, since the bounds on what follows a first byte exclude longer forms, halves of pairs and
numbers beyond the last. So bytes are read as a text exactly if they are the bytes of that text.
-/

namespace CompletionServer.Text.Utf8

/-- What a first byte of several promises, by the number of bytes that follow it. -/
inductive Promises (byte : Nat) : Lead → Prop
  | one (above : 0xc2 ≤ byte) (below : byte ≤ 0xdf) : Promises byte ⟨1, byte - 0xc0, 0x80, 0xbf⟩
  | two {low high : Nat} (above : 0xe0 ≤ byte) (below : byte ≤ 0xef) (least : 0x80 ≤ low)
      (most : high ≤ 0xbf) (long : byte = 0xe0 → 0xa0 ≤ low) (whole : byte = 0xed → high ≤ 0x9f) :
      Promises byte ⟨2, byte - 0xe0, low, high⟩
  | three {low high : Nat} (above : 0xf0 ≤ byte) (below : byte ≤ 0xf4) (least : 0x80 ≤ low)
      (most : high ≤ 0xbf) (long : byte = 0xf0 → 0x90 ≤ low) (last : byte = 0xf4 → high ≤ 0x8f) :
      Promises byte ⟨3, byte - 0xf0, low, high⟩

/-- What a byte is taken to promise it promises. -/
theorem promises_of_lead? {byte : Nat} {lead : Lead} (promise : lead? byte = some lead) :
    Promises byte lead := by
  unfold lead? at promise
  simp only [Bool.and_eq_true, decide_eq_true_eq, beq_iff_eq] at promise
  split_ifs at promise with two least halves three fourth four last
  all_goals obtain rfl := Option.some.inj promise
  · exact .one two.1 two.2
  · subst least
    exact .two (by omega) (by omega) (by omega) (by omega) (by omega) (by omega)
  · subst halves
    exact .two (by omega) (by omega) (by omega) (by omega) (by omega) (by omega)
  · exact .two (by omega) (by omega) (by omega) (by omega) (by omega) (by omega)
  · subst fourth
    exact .three (by omega) (by omega) (by omega) (by omega) (by omega) (by omega)
  · exact .three (by omega) (by omega) (by omega) (by omega) (by omega) (by omega)
  · subst last
    exact .three (by omega) (by omega) (by omega) (by omega) (by omega) (by omega)

/-- A character is gathered only from a further byte between the bounds. -/
theorem gather_succ_eq_char {following width bits low high total : Nat} {bytes : List UInt8}
    {c : Char} (gathered : gather (following + 1) width bits low high bytes = .char c total) :
    ∃ byte rest, bytes = byte :: rest ∧ low ≤ byte.toNat ∧ byte.toNat ≤ high ∧
      gather following (width + 1) (bits * 64 + (byte.toNat - 0x80)) 0x80 0xbf rest =
        .char c total := by
  cases bytes with
  | nil => cases gathered
  | cons byte rest =>
    rw [gather] at gathered
    split at gathered
    · next between =>
      simp only [Bool.and_eq_true, decide_eq_true_eq] at between
      exact ⟨byte, rest, rfl, between.1, between.2, gathered⟩
    · cases gathered

/-- A code point that is neither half of a pair nor beyond the last is that of its character. -/
theorem toNat_val_ofNat {code : Nat} (valid : code < 0xd800 ∨ 0xdfff < code ∧ code < 0x110000) :
    (Char.ofNat code).val.toNat = code := by
  have isValid : code.isValidChar := valid
  have made : Char.ofNat code = Char.ofNatAux code isValid := dif_pos isValid
  rw [made]
  rfl

/-- A byte is the one that is made of its number. -/
theorem ofNat_eq {code : Nat} (byte : UInt8) (same : code = byte.toNat) :
    UInt8.ofNat code = byte := by
  rw [same, UInt8.ofNat_toNat]

/-- A first piece that is a character is made of that character's bytes. -/
theorem firstPiece_eq_char {byte : UInt8} {rest : List UInt8} {c : Char} {width : Nat}
    (piece : firstPiece byte rest = .char c width) :
    ∃ more tail, rest = more ++ tail ∧ String.utf8EncodeChar c = byte :: more ∧
      width = more.length + 1 := by
  unfold firstPiece at piece
  split at piece
  · next small =>
    obtain ⟨rfl, rfl⟩ := Piece.char.inj piece
    have own : (Char.ofNat byte.toNat).val.toNat = byte.toNat := toNat_val_ofNat (by omega)
    refine ⟨[], rest, rfl, ?_, rfl⟩
    rw [String.utf8EncodeChar, own, if_pos (by omega), ofNat_eq byte rfl]
  · next large =>
    split at piece
    · next lead promise =>
      -- The bounds keep the code point in the range in which it has as many bytes.
      cases promises_of_lead? promise with
      | one above below =>
        dsimp only at piece
        obtain ⟨second, tail, rfl, least, most, piece⟩ := gather_succ_eq_char piece
        obtain ⟨rfl, rfl⟩ := Piece.char.inj piece
        generalize made : (byte.toNat - 0xc0) * 64 + (second.toNat - 0x80) = code
        have own : (Char.ofNat code).val.toNat = code := toNat_val_ofNat (by omega)
        refine ⟨[second], tail, rfl, ?_, rfl⟩
        rw [String.utf8EncodeChar, own, if_neg (by omega), if_pos (by omega),
          ofNat_eq byte (by omega), ofNat_eq second (by omega)]
      | two above below lowest highest long whole =>
        dsimp only at piece
        obtain ⟨second, tail, rfl, least, most, piece⟩ := gather_succ_eq_char piece
        obtain ⟨third, tail, rfl, atLeast, atMost, piece⟩ := gather_succ_eq_char piece
        obtain ⟨rfl, rfl⟩ := Piece.char.inj piece
        generalize made : ((byte.toNat - 0xe0) * 64 + (second.toNat - 0x80)) * 64 +
          (third.toNat - 0x80) = code
        have own : (Char.ofNat code).val.toNat = code := toNat_val_ofNat (by omega)
        refine ⟨[second, third], tail, rfl, ?_, rfl⟩
        rw [String.utf8EncodeChar, own, if_neg (by omega), if_neg (by omega), if_pos (by omega),
          ofNat_eq byte (by omega), ofNat_eq second (by omega), ofNat_eq third (by omega)]
      | three above below lowest highest long last =>
        dsimp only at piece
        obtain ⟨second, tail, rfl, least, most, piece⟩ := gather_succ_eq_char piece
        obtain ⟨third, tail, rfl, atLeast, atMost, piece⟩ := gather_succ_eq_char piece
        obtain ⟨fourth, tail, rfl, nextLeast, nextMost, piece⟩ := gather_succ_eq_char piece
        obtain ⟨rfl, rfl⟩ := Piece.char.inj piece
        generalize made : (((byte.toNat - 0xf0) * 64 + (second.toNat - 0x80)) * 64 +
          (third.toNat - 0x80)) * 64 + (fourth.toNat - 0x80) = code
        have own : (Char.ofNat code).val.toNat = code := toNat_val_ofNat (by omega)
        refine ⟨[second, third, fourth], tail, rfl, ?_, rfl⟩
        rw [String.utf8EncodeChar, own, if_neg (by omega), if_neg (by omega), if_neg (by omega),
          ofNat_eq byte (by omega), ofNat_eq second (by omega), ofNat_eq third (by omega),
          ofNat_eq fourth (by omega)]
    · cases piece

/-- Bytes without damage begin with those of the first character, and the rest are read on. -/
theorem eq_append_of_charsStrict {position : Nat} {byte : UInt8} {rest : List UInt8}
    {chars : List Char} (read : charsStrict position (pieces (byte :: rest)) = .ok chars) :
    ∃ c later next tail, chars = c :: later ∧ byte :: rest = String.utf8EncodeChar c ++ tail ∧
      charsStrict next (pieces tail) = .ok later := by
  rw [pieces, piecesFrom] at read
  cases piece : firstPiece byte rest with
  | damage kind width =>
    rw [piece] at read
    cases read
  | char c width =>
    obtain ⟨more, tail, rfl, encoded, rfl⟩ := firstPiece_eq_char piece
    simp only [piece, Piece.width, Nat.add_sub_cancel, piecesFrom_append] at read
    obtain ⟨later, readLater, same⟩ := Outcome.map_eq_ok_iff.mp read
    refine ⟨c, later, _, tail, same.symm, ?_, readLater⟩
    rw [encoded, List.cons_append]

/-- Bytes without damage are those of the characters that they are read as. -/
theorem flatMap_of_charsStrict {position : Nat} {bytes : List UInt8} {chars : List Char}
    (read : charsStrict position (pieces bytes) = .ok chars) :
    bytes = chars.flatMap String.utf8EncodeChar := by
  induction chars generalizing position bytes with
  | nil =>
    cases bytes with
    | nil => rfl
    | cons byte rest =>
      obtain ⟨_, _, _, _, nonempty, -, -⟩ := eq_append_of_charsStrict read
      cases nonempty
  | cons c chars ih =>
    cases bytes with
    | nil => cases read
    | cons byte rest =>
      obtain ⟨_, _, _, tail, same, begins, readLater⟩ := eq_append_of_charsStrict read
      obtain ⟨rfl, rfl⟩ := List.cons.inj same
      rw [begins, List.flatMap_cons, ← ih readLater]

/-- The bytes of characters are read as these. -/
theorem charsStrict_flatMap (position : Nat) (chars : List Char) :
    charsStrict position (pieces (chars.flatMap String.utf8EncodeChar)) = .ok chars := by
  induction chars generalizing position with
  | nil => rfl
  | cons c chars ih =>
    obtain ⟨width, cut⟩ := pieces_utf8EncodeChar_append c (chars.flatMap String.utf8EncodeChar)
    rw [List.flatMap_cons, cut, charsStrict, ih]
    rfl

/-- Bytes are read as a text exactly if they are the bytes of that text. -/
theorem decode_eq_ok_iff {bytes : List UInt8} {text : String} :
    decode bytes = .ok text ↔ bytes = encode text := by
  rw [decode, Outcome.map_eq_ok_iff, encode_eq_flatMap]
  constructor
  · rintro ⟨chars, read, rfl⟩
    rw [String.toList_ofList]
    exact flatMap_of_charsStrict read
  · rintro rfl
    exact ⟨text.toList, charsStrict_flatMap 0 _, String.ofList_toList⟩

end CompletionServer.Text.Utf8
