import TierRelay.Net.Ipv6

namespace TierRelay.Net

open TierRelay.Text

inductive SocketAddress
  | v4 (address : Ipv4) (port : UInt16)
  | v6 (address : Ipv6) (scope : UInt32) (port : UInt16)
  deriving DecidableEq

namespace SocketAddress

def wordBelow? (bound : Nat) (s : List Char) : Option Nat :=
  (natural? s).filter (· < bound)

def port? (s : List Char) : Option UInt16 :=
  (wordBelow? UInt16.size s).map UInt16.ofNat

def v4? (s : List Char) : Option SocketAddress := do
  let port ← after? ':' s
  return .v4 (← Ipv4.parse? (before ':' s)) (← port? port)

def v6? : List Char → Option SocketAddress
  | '[' :: s => do
    let inside := before ']' s
    let address ← Ipv6.parse? (before '%' inside)
    let scope ← match after? '%' inside with
      | none => some 0
      | some scope => wordBelow? UInt32.size scope
    match ← after? ']' s with
    | ':' :: port => return .v6 address (UInt32.ofNat scope) (← port? port)
    | _ => none
  | _ => none

def parse? (s : String) : Option SocketAddress :=
  v4? s.toList <|> v6? s.toList

end SocketAddress

end TierRelay.Net
