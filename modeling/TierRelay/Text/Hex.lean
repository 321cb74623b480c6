namespace TierRelay.Text

def lowerHexDigit (n : Nat) : Char :=
  Char.ofNat (if n < 10 then '0'.toNat + n else 'a'.toNat + (n - 10))

def upperHexDigit (n : Nat) : Char :=
  Char.ofNat (if n < 10 then '0'.toNat + n else 'A'.toNat + (n - 10))

def hexValue? (c : Char) : Option Nat :=
  if c.isDigit then some (c.toNat - '0'.toNat)
  else if 'a' ≤ c ∧ c ≤ 'f' then some (c.toNat - 'a'.toNat + 10)
  else if 'A' ≤ c ∧ c ≤ 'F' then some (c.toNat - 'A'.toNat + 10)
  else none

theorem hexValue?_upperHexDigit {n : Nat} (h : n < 16) : hexValue? (upperHexDigit n) = some n := by
  have all : ∀ m : Fin 16, hexValue? (upperHexDigit m) = some m.val := by decide
  exact all ⟨n, h⟩

theorem hexValue?_lowerHexDigit {n : Nat} (h : n < 16) : hexValue? (lowerHexDigit n) = some n := by
  have all : ∀ m : Fin 16, hexValue? (lowerHexDigit m) = some m.val := by decide
  exact all ⟨n, h⟩

end TierRelay.Text
