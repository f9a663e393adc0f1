/-!
# Base64

Reading skips every character outside the alphabet. Padding ends the data once it completes a group;
data that ends inside a group is refused.
-/

namespace CompletionServer.Encoding.Base64

/-- The six bits that a character stands for. -/
def value? (c : Char) : Option Nat :=
  let code := c.toNat
  if 0x41 ≤ code && code ≤ 0x5a then some (code - 0x41)
  else if 0x61 ≤ code && code ≤ 0x7a then some (code - 0x61 + 26)
  else if 0x30 ≤ code && code ≤ 0x39 then some (code - 0x30 + 52)
  else if c = '+' then some 62
  else if c = '/' then some 63
  else none

/-- Reads on inside a group: `place` characters of it are behind, the last of them left `bits` over,
and `pads` padding marks came since. -/
def decodeFrom : (place bits pads : Nat) → List Char → Option (List UInt8)
  | place, _, _, [] => if place = 0 then some [] else none
  | place, bits, pads, c :: rest =>
    if c = '=' then
      if 2 ≤ place && 4 ≤ place + pads + 1 then some []
      else decodeFrom place bits (if 2 ≤ place then pads + 1 else pads) rest
    else
      match value? c with
      | none => decodeFrom place bits pads rest
      | some value =>
        match place with
        | 0 => decodeFrom 1 value 0 rest
        | 1 => (UInt8.ofNat (bits * 4 + value / 16) :: ·) <$> decodeFrom 2 (value % 16) 0 rest
        | 2 => (UInt8.ofNat (bits * 16 + value / 4) :: ·) <$> decodeFrom 3 (value % 4) 0 rest
        | _ => (UInt8.ofNat (bits * 64 + value) :: ·) <$> decodeFrom 0 0 0 rest

/-- The bytes that a text stands for. -/
def decode (text : String) : Option (List UInt8) :=
  decodeFrom 0 0 0 text.toList

end CompletionServer.Encoding.Base64
