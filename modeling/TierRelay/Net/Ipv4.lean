import TierRelay.Text.Numeral
import TierRelay.Text.Split

namespace TierRelay.Net

open TierRelay.Text

structure Ipv4 where
  value : UInt32
  deriving DecidableEq

namespace Ipv4

def ofBytes (a b c d : Nat) : Ipv4 :=
  ⟨UInt32.ofNat (((a * 256 + b) * 256 + c) * 256 + d)⟩

def byte (a : Ipv4) (i : Nat) : Nat :=
  a.value.toNat >>> (8 * i) % 256

def byte? (s : List Char) : Option Nat :=
  if s.length ≤ 3 ∧ (s.length = 1 ∨ s.head? ≠ some '0') then (natural? s).filter (· < 256)
  else none

def parse? (s : List Char) : Option Ipv4 :=
  match parts '.' s with
  | [a, b, c, d] => do return ofBytes (← byte? a) (← byte? b) (← byte? c) (← byte? d)
  | _ => none

def text (a : Ipv4) : List Char :=
  decimal (a.byte 3) ++ '.' :: decimal (a.byte 2) ++ '.' :: decimal (a.byte 1) ++ '.' ::
    decimal (a.byte 0)

end Ipv4

end TierRelay.Net
