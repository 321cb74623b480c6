import TierRelay.Url.Basic
import TierRelay.Url.Domain
import TierRelay.Url.Written

namespace TierRelay.Url.Host

open TierRelay.Text TierRelay.Net

def valueIn (base : Nat) (digits : List Char) : Option Nat :=
  (digits.mapM fun c => (hexValue? c).filter (· < base)).map
    (List.foldl (fun n d => n * base + d) 0)

def number? : List Char → Option Nat
  | [] => none
  | '0' :: 'x' :: digits => valueIn 16 digits
  | '0' :: 'X' :: digits => valueIn 16 digits
  | '0' :: c :: digits => valueIn 8 (c :: digits)
  | digits => valueIn 10 digits

def labels (name : List Char) : List (List Char) :=
  match (parts '.' name).reverse with
  | [] :: label :: rest => (label :: rest).reverse
  | all => all.reverse

def endsInNumber (name : List Char) : Bool :=
  match (labels name).getLast? with
  | none => false
  | some last => (last ≠ [] ∧ last.all Char.isDigit) ∨ (number? last).isSome

def ipv4? (name : List Char) : Option Ipv4 := do
  let numbers ← (labels name).mapM number?
  match numbers.reverse with
  | last :: bytes =>
    if 4 < numbers.length ∨ bytes.any (255 < ·) ∨ 1 <<< (8 * (4 - bytes.length)) ≤ last then none
    else
      let high := bytes.reverse.foldl (fun n b => n * 256 + b) 0
      return ⟨UInt32.ofNat (high <<< (8 * (4 - bytes.length)) + last)⟩
  | [] => none

def bracketed (s : List Char) : Except Error Host :=
  match s.getLast?, Ipv6.parse? s.dropLast with
  | some ']', some address => .ok (.ipv6 address)
  | _, _ => .error .ipv6

def parse : List Char → Except Error Host
  | '[' :: s => bracketed s
  | s =>
    match (Utf8.decode? (Percent.decode (Utf8.encode s))).bind Domain.toAscii? with
    | none => .error .domain
    | some [] => .error .emptyHost
    | some domain =>
      if endsInNumber domain then
        match ipv4? domain with
        | none => .error .ipv4
        | some address => .ok (.ipv4 address)
      else .ok (.name domain)

def parseName : List Char → Except Error Host
  | '[' :: s => bracketed s
  | s =>
    if s.any (· ∈ ['\x00', '\t', '\n', '\r', ' ', '#', '/', ':', '<', '>', '?', '@', '[', '\\', ']',
        '^', '|']) then .error .hostCharacter
    else .ok (.name (Percent.encode Written.inName s))

end TierRelay.Url.Host
