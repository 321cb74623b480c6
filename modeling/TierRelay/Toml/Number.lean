import TierRelay.Calendar.Date
import TierRelay.Json.Number
import TierRelay.Toml.Text

namespace TierRelay.Toml

open TierRelay.Text

def digits? (isDigit : Char → Bool) : Reader (List Char)
  | [] => none
  | c :: rest =>
    if isDigit c then
      match rest with
      | '_' :: d :: rest' =>
        if isDigit d then (digits? isDigit (d :: rest')).map fun (ds, rest) => (c :: ds, rest)
        else none
      | ['_'] => none
      | d :: rest' =>
        if isDigit d then (digits? isDigit (d :: rest')).map fun (ds, rest) => (c :: ds, rest)
        else some ([c], rest)
      | [] => some ([c], [])
    else none

def sign : List Char → Bool × List Char
  | '-' :: rest => (true, rest)
  | '+' :: rest => (false, rest)
  | s => (false, s)

def whole? : Reader (List Char)
  | '0' :: rest => some (['0'], rest)
  | s => digits? Char.isDigit s

def valueIn (base : Nat) (digits : List Char) : Nat :=
  digits.foldl (fun n c => n * base + (hexValue? c).getD 0) 0

def isDigitIn (base : Nat) (c : Char) : Bool :=
  match hexValue? c with
  | some d => d < base
  | none => false

def base? : Char → Option Nat
  | 'x' => some 16
  | 'o' => some 8
  | 'b' => some 2
  | _ => none

def integer? : Reader Int := fun s =>
  let based? := match s with
    | '0' :: mark :: rest => (base? mark).map fun base => (base, rest)
    | _ => none
  match based? with
  | some (base, rest) => do
    let (ds, rest) ← digits? (isDigitIn base) rest
    let n := valueIn base ds
    if n < 1 <<< 63 then return (n, rest) else none
  | none => do
    let (negative, rest) := sign s
    let (ds, rest) ← whole? rest
    let n : Int := if negative then -(decimalValue ds) else decimalValue ds
    if -(1 <<< 63 : Nat) ≤ n ∧ n < (1 <<< 63 : Nat) then return (n, rest) else none

def exponent? : List Char → Option ((Bool × List Char) × List Char)
  | c :: rest =>
    if c = 'e' ∨ c = 'E' then
      let (negative, rest) := sign rest
      (digits? Char.isDigit rest).map fun (ds, rest) => ((negative, ds), rest)
    else none
  | [] => none

def fraction? : Reader (List Char)
  | '.' :: rest => digits? Char.isDigit rest
  | _ => none

def special? : Reader Float := fun s =>
  let (negative, rest) := sign s
  match rest with
  | 'i' :: 'n' :: 'f' :: rest => some (if negative then -1.0 / 0.0 else 1.0 / 0.0, rest)
  | 'n' :: 'a' :: 'n' :: rest => some (0.0 / 0.0, rest)
  | _ => none

def float? : Reader Float := fun s =>
  special? s <|> do
    let (negative, rest) := sign s
    let (ds, rest) ← whole? rest
    match fraction? rest with
    | some (fraction, rest) =>
      match exponent? rest with
      | some (exponent, rest) => return (← Json.Numeral.float? ⟨negative, ds, fraction, some exponent⟩, rest)
      | none => return (← Json.Numeral.float? ⟨negative, ds, fraction, none⟩, rest)
    | none =>
      let (exponent, rest) ← exponent? rest
      return (← Json.Numeral.float? ⟨negative, ds, [], some exponent⟩, rest)

def field? (count low high : Nat) : Reader Nat := fun s =>
  let ds := s.take count
  if ds.length = count ∧ ds.all Char.isDigit ∧ low ≤ decimalValue ds ∧ decimalValue ds ≤ high then
    some (decimalValue ds, s.drop count)
  else none

def char? (c : Char) : List Char → Option (List Char)
  | c' :: rest => if c = c' then some rest else none
  | [] => none

def date? (s : List Char) : Option (List Char) := do
  let (year, s) ← field? 4 0 9999 s
  let (month, s) ← field? 2 1 12 (← char? '-' s)
  let (_, s) ← field? 2 1 (Calendar.monthLength year month) (← char? '-' s)
  return s

def time? (s : List Char) : Option (List Char) := do
  let (_, s) ← field? 2 0 23 s
  let (_, s) ← field? 2 0 59 (← char? ':' s)
  let (_, s) ← field? 2 0 60 (← char? ':' s)
  match s with
  | '.' :: rest =>
    if (rest.takeWhile Char.isDigit) = [] then none else return rest.dropWhile Char.isDigit
  | s => return s

def skipOffset (s : List Char) : List Char :=
  match s with
  | 'Z' :: rest => rest
  | 'z' :: rest => rest
  | c :: rest =>
    if c = '+' ∨ c = '-' then
      let rest? := do
        let (_, rest) ← field? 2 0 23 rest
        let (_, rest) ← field? 2 0 59 (← char? ':' rest)
        return rest
      rest?.getD s
    else s
  | [] => []

def dateTime? (s : List Char) : Option (List Char) :=
  match date? s with
  | none => time? s
  | some rest =>
    match rest with
    | c :: after =>
      if c = 'T' ∨ c = 't' ∨ c = ' ' then
        match time? after with
        | some rest => some (skipOffset rest)
        | none => some rest
      else some rest
    | [] => some []

end TierRelay.Toml
