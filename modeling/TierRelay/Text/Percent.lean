import TierRelay.Text.Hex
import TierRelay.Text.Utf8

namespace TierRelay.Text.Percent

def encodeByte (b : UInt8) : List Char :=
  ['%', upperHexDigit (b.toNat / 16), upperHexDigit (b.toNat % 16)]

def encode (keep : Char → Bool) (s : List Char) : List Char :=
  s.flatMap fun c => if keep c then [c] else (String.utf8EncodeChar c).flatMap encodeByte

def byte? (high low : UInt8) : Option UInt8 := do
  let high ← hexValue? (Char.ofNat high.toNat)
  let low ← hexValue? (Char.ofNat low.toNat)
  return UInt8.ofNat (high * 16 + low)

def decode : Bytes → Bytes
  | b :: high :: low :: rest =>
    match if b = 0x25 then byte? high low else none with
    | some decoded => decoded :: decode rest
    | none => b :: decode (high :: low :: rest)
  | short => short

end TierRelay.Text.Percent
