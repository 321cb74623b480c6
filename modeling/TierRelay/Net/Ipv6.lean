import TierRelay.Net.Ipv4
import TierRelay.Text.Hex

namespace TierRelay.Net

open TierRelay.Text

structure Ipv6 where
  groups : List Nat
  eight : groups.length = 8
  deriving DecidableEq

namespace Ipv6

def group? (s : List Char) : Option Nat :=
  if s = [] ∨ 4 < s.length then none
  else (s.mapM hexValue?).map (List.foldl (fun n d => n * 16 + d) 0)

def groups? (s : List Char) : Option (List Nat) :=
  if s = [] then some [] else (parts ':' s).mapM group?

def lastGroups? (s : List Char) : Option (List Nat) :=
  if s = [] then some []
  else match (parts ':' s).reverse with
    | last :: earlier =>
      match Ipv4.parse? last with
      | some a => do
        let earlier ← earlier.reverse.mapM group?
        return earlier ++ [a.byte 3 * 256 + a.byte 2, a.byte 1 * 256 + a.byte 0]
      | none => groups? s
    | [] => none

def cutAtDouble? : List Char → Option (List Char × List Char)
  | ':' :: ':' :: rest => some ([], rest)
  | c :: rest => (cutAtDouble? rest).map fun (left, right) => (c :: left, right)
  | [] => none

def ofGroups? (groups : List Nat) : Option Ipv6 :=
  if h : groups.length = 8 then some ⟨groups, h⟩ else none

def parse? (s : List Char) : Option Ipv6 :=
  match cutAtDouble? s with
  | none => (lastGroups? s).bind ofGroups?
  | some (left, right) => do
    let left ← groups? left
    let right ← lastGroups? right
    if left.length + right.length < 8 then
      ofGroups? (left ++ List.replicate (8 - left.length - right.length) 0 ++ right)
    else none

def hexadecimal (n : Nat) : List Char :=
  Nat.toDigits 16 n

def joined : List Nat → List Char
  | [] => []
  | [g] => hexadecimal g
  | g :: rest => hexadecimal g ++ ':' :: joined rest

def zerosAt (groups : List Nat) : Nat :=
  (groups.takeWhile (· = 0)).length

def longestZeros : List Nat → Nat × Nat
  | [] => (0, 0)
  | g :: rest =>
    let (start, length) := longestZeros rest
    let here := zerosAt (g :: rest)
    if 0 < here ∧ length ≤ here then (0, here) else (start + 1, length)

def text (a : Ipv6) : List Char :=
  let (start, length) := longestZeros a.groups
  if length < 2 then joined a.groups
  else joined (a.groups.take start) ++ ':' :: ':' :: joined (a.groups.drop (start + length))

end Ipv6

end TierRelay.Net
