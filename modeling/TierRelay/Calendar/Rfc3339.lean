import TierRelay.Calendar.Pattern

namespace TierRelay.Calendar.Rfc3339

open TierRelay.Text

def digits? (count : Nat) (s : List Char) : Option (Nat × List Char) :=
  let ds := s.take count
  if ds.length = count ∧ ds.all Char.isDigit then some (decimalValue ds, s.drop count) else none

def char? (accepted : List Char) : List Char → Option (List Char)
  | c :: rest => if c ∈ accepted then some rest else none
  | [] => none

def offset? : List Char → Option (Int × List Char)
  | c :: rest => do
    if c = 'Z' ∨ c = 'z' then return (0, rest)
    let sign : Int ← if c = '+' then some 1 else if c = '-' ∨ c = '\u2212' then some (-1) else none
    let (hours, rest) ← digits? 2 rest
    let rest ← char? [':'] rest
    let (minutes, rest) ← digits? 2 rest
    if hours < 24 ∧ minutes < 60 then return (sign * (hours * 60 + minutes : Nat), rest)
    none
  | [] => none

def recognise (s : List Char) : Option DateTime := do
  let (year, s) ← digits? 4 s
  let s ← char? ['-'] s
  let (month, s) ← digits? 2 s
  let s ← char? ['-'] s
  let (day, s) ← digits? 2 s
  let s ← char? ['T', 't', ' '] s
  let (hour, s) ← digits? 2 s
  let s ← char? [':'] s
  let (minute, s) ← digits? 2 s
  let s ← char? [':'] s
  let (second, s) ← digits? 2 s
  let (nanos, s) ← fraction? s
  let (offset, s) ← offset? s
  if s ≠ [] then none
  let localTime ← Reading.toDateTime? ⟨year, month, day, hour, minute, second, nanos⟩
  localTime.minusMinutes? offset

end TierRelay.Calendar.Rfc3339
