import TierRelay.Text.Utf8

namespace TierRelay.Http

abbrev Headers := List (String × Bytes)

namespace Header

def isNameChar (c : Char) : Bool :=
  c.isAlphanum || c ∈ ['!', '#', '$', '%', '&', '\'', '*', '+', '-', '.', '^', '_', '\x60', '|', '~']

def isToken (s : String) : Bool :=
  s ≠ "" && s.toList.all isNameChar

def isName (name : String) : Bool :=
  isToken name

def isValue (value : Bytes) : Bool :=
  value.all fun b => b = 9 || (32 ≤ b.toNat && b ≠ 127)

def text? (value : Bytes) : Option String :=
  if value.all fun b => b = 9 || (32 ≤ b.toNat && b.toNat < 127) then
    some (String.ofList (value.map fun b => Char.ofNat b.toNat))
  else none

def ofText (text : String) : Bytes :=
  Text.Utf8.encode text.toList

end Header

namespace Headers

def first? (name : String) (h : Headers) : Option Bytes :=
  h.lookup name

end Headers

end TierRelay.Http
