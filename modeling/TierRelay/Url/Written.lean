namespace TierRelay.Url.Written

def inName (c : Char) : Bool :=
  0x20 ≤ c.toNat && c.toNat < 0x7F

def inFragment (c : Char) : Bool :=
  inName c && c ∉ [' ', '"', '<', '>', '\x60']

def inPath (c : Char) : Bool :=
  inFragment c && c ∉ ['#', '?', '\x7b', '\x7d']

def inCredentials (c : Char) : Bool :=
  inPath c && c ∉ ['/', ':', ';', '=', '@', '[', '\\', ']', '^', '|']

def inQuery (c : Char) : Bool :=
  inName c && c ∉ [' ', '"', '#', '<', '>']

def inSpecialQuery (c : Char) : Bool :=
  inQuery c && c ≠ '\''

end TierRelay.Url.Written
