import TierRelay.Http.Header
import TierRelay.Text.Hex

namespace TierRelay.Http.RequestId

open TierRelay.Text

def digits (count n : Nat) : List Char :=
  (List.range count).reverse.map fun i => lowerHexDigit (n >>> (4 * i) % 16)

def text (random : Nat) : List Char :=
  digits 8 (random >>> 90) ++ '-' :: digits 4 (random >>> 74) ++ '-' ::
    '4' :: digits 3 (random >>> 62) ++ '-' ::
    lowerHexDigit (8 + random >>> 60 % 4) :: digits 3 (random >>> 48) ++ '-' :: digits 12 random

def ofRandom (random : Nat) : Bytes :=
  Utf8.encode (text random)

end TierRelay.Http.RequestId
