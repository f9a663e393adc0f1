import CompletionServer.Proofs.Text.Encoding

/-!
# Damage is local

A byte that begins a character is never taken for the continuation of another. So whatever bytes
stand before a text's encoding, even the beginning of a character that was cut off, they are read as
if nothing followed them, and the text after them is read back unchanged. Only the kind of a damage
may change, from bytes that ended too early to a byte that does not continue; where it begins and
how far it reaches stay the same.
-/

namespace CompletionServer.Text.Utf8

/-- The bytes end, or the first of them does not continue a character. -/
def BeginsAnew (bytes : List UInt8) : Prop :=
  ∀ byte ∈ bytes.head?, byte.toNat < 0x80 ∨ 0xbf < byte.toNat

/-- A character's first byte does not continue another. -/
theorem beginsAnew_utf8EncodeChar (c : Char) (rest : List UInt8) :
    BeginsAnew (String.utf8EncodeChar c ++ rest) := by
  intro byte first
  revert first
  fun_cases String.utf8EncodeChar c with
  | case1 | case2 | case3 | case4 =>
    intro first
    obtain rfl := Option.some.inj first
    rw [UInt8.toNat_ofNat']
    omega

/-- The bytes of a text begin anew. -/
theorem beginsAnew_encode (text : String) : BeginsAnew (encode text) := by
  rw [encode_eq_flatMap]
  cases text.toList with
  | nil =>
    intro byte none
    cases none
  | cons c chars => exact beginsAnew_utf8EncodeChar c _

/-- Two pieces are read as the same character and reach as far. -/
structure Piece.Alike (piece other : Piece) : Prop where
  toChar : piece.toChar = other.toChar
  width : piece.width = other.width

/-- The bytes after a first one are bounded as those that continue a character, or closer. -/
theorem bounds_of_lead? {byte : Nat} {lead : Lead} (promise : lead? byte = some lead) :
    0x80 ≤ lead.low ∧ lead.high ≤ 0xbf := by
  unfold lead? at promise
  split_ifs at promise <;> obtain rfl := Option.some.inj promise <;> simp

variable {rest : List UInt8}

/-- What is gathered of some bytes is alike if others follow that begin anew: where the first bytes
end too early, the next one does not continue. -/
theorem gather_append_alike (anew : BeginsAnew rest) {following width bits low high : Nat}
    (least : 0x80 ≤ low) (most : high ≤ 0xbf) (bytes : List UInt8) :
    (gather following width bits low high (bytes ++ rest)).Alike
      (gather following width bits low high bytes) := by
  induction bytes generalizing following width bits low high with
  | nil =>
    cases following with
    | zero => exact ⟨rfl, rfl⟩
    | succ following =>
      cases rest with
      | nil => exact ⟨rfl, rfl⟩
      | cons byte rest =>
        have outside : ¬ (low ≤ byte.toNat && byte.toNat ≤ high) = true := by
          have first := anew byte rfl
          simp only [Bool.and_eq_true, decide_eq_true_eq]
          omega
        have damaged : gather (following + 1) width bits low high (byte :: rest) =
            .damage .continuation width := if_neg outside
        rw [List.nil_append, damaged]
        exact ⟨rfl, rfl⟩
  | cons byte bytes ih =>
    cases following with
    | zero => exact ⟨rfl, rfl⟩
    | succ following =>
      rw [List.cons_append, gather, gather]
      split
      · exact ih (Nat.le_refl _) (Nat.le_refl _)
      · exact ⟨rfl, rfl⟩

/-- No more bytes are gathered than there are. -/
theorem width_gather_le (following width bits low high : Nat) (bytes : List UInt8) :
    (gather following width bits low high bytes).width ≤ width + bytes.length := by
  induction bytes generalizing following width bits low high with
  | nil => cases following <;> exact Nat.le_refl _
  | cons byte bytes ih =>
    cases following with
    | zero => exact Nat.le_add_right _ _
    | succ following =>
      rw [gather]
      split
      · have later := ih following (width + 1) (bits * 64 + (byte.toNat - 0x80)) 0x80 0xbf
        rw [List.length_cons]
        omega
      · exact Nat.le_add_right _ _

/-- The first piece of some bytes is alike if others follow that begin anew. -/
theorem firstPiece_append_alike (anew : BeginsAnew rest) (byte : UInt8) (bytes : List UInt8) :
    (firstPiece byte (bytes ++ rest)).Alike (firstPiece byte bytes) := by
  unfold firstPiece
  split
  · exact ⟨rfl, rfl⟩
  · split
    · next lead promise =>
      obtain ⟨least, most⟩ := bounds_of_lead? promise
      exact gather_append_alike anew least most bytes
    · exact ⟨rfl, rfl⟩

/-- The first piece covers no more than there is. -/
theorem width_firstPiece_le (byte : UInt8) (bytes : List UInt8) :
    (firstPiece byte bytes).width ≤ bytes.length + 1 := by
  unfold firstPiece
  split
  · exact Nat.le_add_left _ _
  · split
    · next lead _ =>
      have gathered := width_gather_le lead.following 1 lead.bits lead.low lead.high bytes
      omega
    · exact Nat.le_add_left _ _

/-- Bytes are read piece by piece as if nothing followed them, if what follows begins anew. -/
theorem map_toChar_piecesFrom_append (anew : BeginsAnew rest) {covered : Nat} {bytes : List UInt8}
    (inside : covered ≤ bytes.length) :
    (piecesFrom covered (bytes ++ rest)).map Piece.toChar =
      (piecesFrom covered bytes).map Piece.toChar ++ (pieces rest).map Piece.toChar := by
  induction bytes generalizing covered with
  | nil =>
    obtain rfl := Nat.le_zero.mp inside
    rfl
  | cons byte bytes ih =>
    cases covered with
    | succ covered => exact ih (Nat.le_of_succ_le_succ inside)
    | zero =>
      have alike := firstPiece_append_alike anew byte bytes
      have covers : (firstPiece byte bytes).width - 1 ≤ bytes.length := by
        have short := width_firstPiece_le byte bytes
        omega
      rw [List.cons_append, piecesFrom, piecesFrom, List.map_cons, List.map_cons, alike.toChar,
        alike.width, ih covers, List.cons_append]

/-- Bytes are read in two parts where the second begins anew. -/
theorem decodeLossy_append (anew : BeginsAnew rest) (bytes : List UInt8) :
    decodeLossy (bytes ++ rest) = decodeLossy bytes ++ decodeLossy rest := by
  rw [decodeLossy, pieces, map_toChar_piecesFrom_append anew (Nat.zero_le _), String.ofList_append]
  rfl

/-- A text is read back from its bytes after whatever other bytes, which are read as they are read
alone. -/
theorem decodeLossy_append_encode (bytes : List UInt8) (text : String) :
    decodeLossy (bytes ++ encode text) = decodeLossy bytes ++ text := by
  rw [decodeLossy_append (beginsAnew_encode text), decodeLossy_encode]

end CompletionServer.Text.Utf8
