/-!
# UTF-8 bytes

Bytes are cut into pieces from the front. A piece is either one well-formed character or the
longest run of bytes that could have begun one, which is damage of a stated kind. Strict reading
stops at the first damage; lossy reading writes one replacement character for each.
-/

namespace CompletionServer.Text.Utf8

/-- Why bytes are no character. -/
inductive Damage
  /-- The first byte begins no character. -/
  | start
  /-- A byte that had to continue the character does not. -/
  | continuation
  /-- The bytes end inside the character. -/
  | truncated
  deriving DecidableEq, Repr

/-- The wording of a damage. -/
def Damage.reason : Damage → String
  | .start => "invalid start byte"
  | .continuation => "invalid continuation byte"
  | .truncated => "unexpected end of data"

/-- One piece of a byte list: a character or damage, with the number of bytes it covers. -/
inductive Piece
  | char (c : Char) (width : Nat)
  | damage (kind : Damage) (width : Nat)
  deriving DecidableEq, Repr

/-- The number of bytes that a piece covers. -/
def Piece.width : Piece → Nat
  | .char _ width => width
  | .damage _ width => width

/-- What a leading byte promises: how many bytes follow, the bits it gives, and the bounds on the
first byte after it, which exclude overlong forms, surrogates and numbers beyond the last. -/
structure Lead where
  following : Nat
  bits : Nat
  low : Nat
  high : Nat
  deriving DecidableEq, Repr

/-- The promise of a leading byte, if it begins a character of several bytes. -/
def lead? (byte : Nat) : Option Lead :=
  if 0xc2 ≤ byte && byte ≤ 0xdf then some ⟨1, byte - 0xc0, 0x80, 0xbf⟩
  else if byte == 0xe0 then some ⟨2, 0, 0xa0, 0xbf⟩
  else if byte == 0xed then some ⟨2, 0xd, 0x80, 0x9f⟩
  else if 0xe1 ≤ byte && byte ≤ 0xef then some ⟨2, byte - 0xe0, 0x80, 0xbf⟩
  else if byte == 0xf0 then some ⟨3, 0, 0x90, 0xbf⟩
  else if 0xf1 ≤ byte && byte ≤ 0xf3 then some ⟨3, byte - 0xf0, 0x80, 0xbf⟩
  else if byte == 0xf4 then some ⟨3, 4, 0x80, 0x8f⟩
  else none

/-- Gathers `following` more bytes, the first of them between the bounds; `width` bytes and the
number `bits` are behind. -/
def gather : (following width bits low high : Nat) → List UInt8 → Piece
  | 0, width, bits, _, _, _ => .char (Char.ofNat bits) width
  | _ + 1, width, _, _, _, [] => .damage .truncated width
  | following + 1, width, bits, low, high, byte :: rest =>
    if low ≤ byte.toNat && byte.toNat ≤ high then
      gather following (width + 1) (bits * 64 + (byte.toNat - 0x80)) 0x80 0xbf rest
    else .damage .continuation width

/-- The piece that a nonempty byte list begins with. -/
def firstPiece (byte : UInt8) (rest : List UInt8) : Piece :=
  if byte.toNat < 0x80 then .char (Char.ofNat byte.toNat) 1
  else
    match lead? byte.toNat with
    | some lead => gather lead.following 1 lead.bits lead.low lead.high rest
    | none => .damage .start 1

/-- Pieces of a byte list of which the first `covered` bytes belong to an earlier piece. -/
def piecesFrom : (covered : Nat) → List UInt8 → List Piece
  | _, [] => []
  | covered + 1, _ :: rest => piecesFrom covered rest
  | 0, byte :: rest =>
    let piece := firstPiece byte rest
    piece :: piecesFrom (piece.width - 1) rest

/-- A byte list cut into pieces. -/
def pieces (bytes : List UInt8) : List Piece :=
  piecesFrom 0 bytes

/-- The first damage in a byte list: where it begins, where it ends, and its kind. -/
structure Fault where
  start : Nat
  stop : Nat
  kind : Damage
  deriving DecidableEq, Repr

/-- Characters of the pieces up to the first damage; `position` bytes are behind. -/
def charsStrict : (position : Nat) → List Piece → Except Fault (List Char)
  | _, [] => .ok []
  | position, .char c width :: rest => (c :: ·) <$> charsStrict (position + width) rest
  | position, .damage kind width :: _ => .error ⟨position, position + width, kind⟩

/-- The text of a byte list with no damage. -/
def decode (bytes : List UInt8) : Except Fault String :=
  String.ofList <$> charsStrict 0 (pieces bytes)

/-- The character of a piece, a replacement for damage. -/
def Piece.toChar : Piece → Char
  | .char c _ => c
  | .damage _ _ => '\ufffd'

/-- The text of any byte list, each damage replaced by one character. -/
def decodeLossy (bytes : List UInt8) : String :=
  String.ofList ((pieces bytes).map Piece.toChar)

/-- The bytes of a text. -/
def encode (text : String) : List UInt8 :=
  text.toUTF8.toList

/-- The text that reads every byte of a text's encoding as one character. -/
def bytesAsChars (text : String) : String :=
  String.ofList ((encode text).map fun byte => Char.ofNat byte.toNat)

end CompletionServer.Text.Utf8
