/-!
# SHA-1

The message is padded to whole blocks of sixty-four bytes, each block is spread over eighty words,
and eighty rounds fold it into a chain of five words. The digest is written in hexadecimal.
-/

namespace CompletionServer.Digest

/-- The five words carried from block to block. -/
structure Chain where
  a : UInt32
  b : UInt32
  c : UInt32
  d : UInt32
  e : UInt32
  deriving DecidableEq, Repr

namespace Sha1

/-- The chain before the first block. -/
def start : Chain := ⟨0x67452301, 0xefcdab89, 0x98badcfe, 0x10325476, 0xc3d2e1f0⟩

/-- Bits moved left, those that leave coming back on the right. -/
def rotate (word : UInt32) (amount : UInt32) : UInt32 :=
  (word <<< amount) ||| (word >>> (32 - amount))

/-- A number as eight bytes, most significant first. -/
def lengthBytes (value : Nat) : List UInt8 :=
  (List.range 8).map fun place => UInt8.ofNat (value / Nat.pow 256 (7 - place))

/-- A mark, zeros, and the length in bits, so that whole blocks result. -/
def padded (message : List UInt8) : List UInt8 :=
  let zeros := (55 + 64 - message.length % 64) % 64
  message ++ 0x80 :: List.replicate zeros 0 ++ lengthBytes (8 * message.length)

/-- Four bytes as a word, most significant first. -/
def words : List UInt8 → List UInt32
  | b₀ :: b₁ :: b₂ :: b₃ :: rest =>
    ((b₀.toUInt32 <<< 24) ||| (b₁.toUInt32 <<< 16) ||| (b₂.toUInt32 <<< 8) ||| b₃.toUInt32) ::
      words rest
  | _ => []

/-- The words of a block continued, each from the sixteen before it. -/
def spread : (count : Nat) → Array UInt32 → Array UInt32
  | 0, schedule => schedule
  | count + 1, schedule =>
    let at' (back : Nat) : UInt32 := schedule.getD (schedule.size - back) 0
    spread count (schedule.push (rotate (at' 3 ^^^ at' 8 ^^^ at' 14 ^^^ at' 16) 1))

/-- The mixing function and constant of a round. -/
def mix (round : Nat) (chain : Chain) : UInt32 × UInt32 :=
  let ⟨_, b, c, d, _⟩ := chain
  if round < 20 then ((b &&& c) ||| ((~~~ b) &&& d), 0x5a827999)
  else if round < 40 then (b ^^^ c ^^^ d, 0x6ed9eba1)
  else if round < 60 then ((b &&& c) ||| (b &&& d) ||| (c &&& d), 0x8f1bbcdc)
  else (b ^^^ c ^^^ d, 0xca62c1d6)

/-- One round with its word of the schedule. -/
def round (chain : Chain) (step : UInt32 × Nat) : Chain :=
  let (f, k) := mix step.2 chain
  ⟨rotate chain.a 5 + f + chain.e + k + step.1, chain.a, rotate chain.b 30, chain.c, chain.d⟩

/-- A block folded into the chain. -/
def block (chain : Chain) (content : List UInt32) : Chain :=
  let mixed := (spread 64 content.toArray).toList.zipIdx.foldl round chain
  ⟨chain.a + mixed.a, chain.b + mixed.b, chain.c + mixed.c, chain.d + mixed.d,
    chain.e + mixed.e⟩

/-- Blocks of sixteen words folded in order, at most `count` of them. -/
def blocks : (count : Nat) → Chain → List UInt32 → Chain
  | 0, chain, _ => chain
  | _ + 1, chain, [] => chain
  | count + 1, chain, content => blocks count (block chain (content.take 16)) (content.drop 16)

/-- Eight hexadecimal digits of a word. -/
def wordText (word : UInt32) : List Char :=
  (List.range 8).map fun place =>
    let digit := word.toNat / Nat.pow 16 (7 - place) % 16
    if digit < 10 then Char.ofNat (0x30 + digit) else Char.ofNat (0x57 + digit)

/-- The digest of a message, in hexadecimal. -/
def digest (message : List UInt8) : String :=
  let content := words (padded message)
  let ⟨a, b, c, d, e⟩ := blocks (content.length / 16) start content
  String.ofList ([a, b, c, d, e].flatMap wordText)

end Sha1

end CompletionServer.Digest
