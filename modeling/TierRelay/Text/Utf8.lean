/-!
UTF-8. `scan` cuts a byte string into characters and broken sequences; a broken sequence is as long
as the bytes that could still have begun a character.
-/

namespace TierRelay

abbrev Bytes := List UInt8

end TierRelay

namespace TierRelay.Text.Utf8

def encode (s : List Char) : Bytes :=
  s.flatMap String.utf8EncodeChar

/-- What a first byte above `0x7F` announces: its payload, the range of the second byte, and the
number of bytes after the second. -/
structure Lead where
  payload : Nat
  low : Nat
  high : Nat
  more : Nat

def lead? (a : Nat) : Option Lead :=
  if 0xC2 ≤ a ∧ a ≤ 0xDF then some ⟨a - 0xC0, 0x80, 0xBF, 0⟩
  else if a = 0xE0 then some ⟨0, 0xA0, 0xBF, 1⟩
  else if a = 0xED then some ⟨0xD, 0x80, 0x9F, 1⟩
  else if 0xE1 ≤ a ∧ a ≤ 0xEF then some ⟨a - 0xE0, 0x80, 0xBF, 1⟩
  else if a = 0xF0 then some ⟨0, 0x90, 0xBF, 2⟩
  else if 0xF1 ≤ a ∧ a ≤ 0xF3 then some ⟨a - 0xF0, 0x80, 0xBF, 2⟩
  else if a = 0xF4 then some ⟨4, 0x80, 0x8F, 2⟩
  else none

def tails : Nat → Nat → Bytes → Option Char × Bytes
  | 0, value, rest => (some (Char.ofNat value), rest)
  | _ + 1, _, [] => (none, [])
  | n + 1, value, b :: rest =>
    if 0x80 ≤ b.toNat ∧ b.toNat ≤ 0xBF then tails n (value * 64 + (b.toNat - 0x80)) rest
    else (none, b :: rest)

def next (a : UInt8) (rest : Bytes) : Option Char × Bytes :=
  if a.toNat < 0x80 then (some (Char.ofNat a.toNat), rest)
  else match lead? a.toNat, rest with
    | none, _ => (none, rest)
    | some _, [] => (none, [])
    | some l, b :: after =>
      if l.low ≤ b.toNat ∧ b.toNat ≤ l.high then
        tails l.more (l.payload * 64 + (b.toNat - 0x80)) after
      else (none, rest)

theorem length_tails (n value : Nat) (rest : Bytes) :
    (tails n value rest).2.length ≤ rest.length := by
  induction n generalizing value rest with
  | zero => exact Nat.le_refl _
  | succ n ih =>
    cases rest with
    | nil => exact Nat.le_refl _
    | cons b rest =>
      rw [tails]
      split
      · exact Nat.le_succ_of_le (ih _ rest)
      · exact Nat.le_refl _

theorem length_next (a : UInt8) (rest : Bytes) : (next a rest).2.length ≤ rest.length := by
  unfold next
  split
  · exact Nat.le_refl _
  · split
    · exact Nat.le_refl _
    · exact Nat.zero_le _
    · split
      · exact Nat.le_succ_of_le (length_tails _ _ _)
      · exact Nat.le_refl _

def scan : Bytes → List (Option Char)
  | [] => []
  | a :: rest => (next a rest).1 :: scan (next a rest).2
termination_by s => s.length
decreasing_by have := length_next a rest; simp; omega

def decode? (s : Bytes) : Option (List Char) :=
  (scan s).mapM id

def decodeLossy (s : Bytes) : List Char :=
  (scan s).map fun c => c.getD '\ufffd'

end TierRelay.Text.Utf8
