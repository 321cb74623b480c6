/-!
Punycode: a label with any characters, written in ASCII. The ASCII characters come first, the others
follow in the order of their code points as differences in a numeral of variable base 36.
-/

namespace TierRelay.Url.Punycode

def digit (d : Nat) : Char :=
  Char.ofNat (if d < 26 then 'a'.toNat + d else '0'.toNat + (d - 26))

def digitValue? (c : Char) : Option Nat :=
  if 'a' ≤ c ∧ c ≤ 'z' then some (c.toNat - 'a'.toNat)
  else if 'A' ≤ c ∧ c ≤ 'Z' then some (c.toNat - 'A'.toNat)
  else if c.isDigit then some (c.toNat - '0'.toNat + 26)
  else none

def threshold (place bias : Nat) : Nat :=
  max 1 (min 26 (place - bias))

theorem one_le_threshold (place bias : Nat) : 1 ≤ threshold place bias :=
  Nat.le_max_left 1 _

def biasOf (delta : Nat) (places : Nat) : Nat :=
  if 455 < delta then biasOf (delta / 35) (places + 36)
  else places + 36 * delta / (delta + 38)
termination_by delta
decreasing_by exact Nat.div_lt_self (by omega) (by omega)

def adapt (delta length : Nat) (first : Bool) : Nat :=
  let delta := if first then delta / 700 else delta / 2
  biasOf (delta + delta / length) 0

def numeral (bias place n : Nat) : List Char :=
  let t := threshold place bias
  if n < t then [digit n]
  else digit (t + (n - t) % (36 - t)) :: numeral bias (place + 36) ((n - t) / (36 - t))
termination_by n
decreasing_by
  have h : 1 ≤ threshold place bias := one_le_threshold place bias
  calc (n - threshold place bias) / (36 - threshold place bias)
      ≤ n - threshold place bias := Nat.div_le_self _ _
    _ < n := by omega

/-- A label on its way into digits: the digits so far, the open difference, and how many characters
have been written. -/
structure Progress where
  digits : List Char := []
  delta : Nat := 0
  bias : Nat := 72
  written : Nat

def Progress.pass (basic codePoint : Nat) (p : Progress) (c : Char) : Progress :=
  if c.toNat < codePoint then { p with delta := p.delta + 1 }
  else if c.toNat = codePoint then
    ⟨p.digits ++ numeral p.bias 36 p.delta, 0, adapt p.delta (p.written + 1) (p.written = basic),
      p.written + 1⟩
  else p

/-- `next` is the smallest code point that can still come. -/
def Progress.through (label : List Char) (basic : Nat) : List Nat → Nat → Progress → Progress
  | [], _, p => p
  | codePoint :: rest, next, p =>
    let p := { p with delta := p.delta + (codePoint - next) * (p.written + 1) }
    let p := label.foldl (Progress.pass basic codePoint) p
    through label basic rest (codePoint + 1) { p with delta := p.delta + 1 }

def isBasic (c : Char) : Bool :=
  c.toNat < 0x80

def insertOnce (n : Nat) : List Nat → List Nat
  | [] => [n]
  | m :: rest =>
    if n < m then n :: m :: rest else if n = m then m :: rest else m :: insertOnce n rest

def encode (label : List Char) : List Char :=
  let basic := label.filter isBasic
  let codePoints := (label.filter (fun c => !isBasic c)).foldr (fun c => insertOnce c.toNat) []
  let digits := (Progress.through label basic.length codePoints 0x80 { written := basic.length }).digits
  (if basic = [] then [] else basic ++ ['-']) ++ digits

def value? (bias : Nat) (place weight : Nat) : List Char → Option (Nat × List Char)
  | [] => none
  | c :: rest => do
    let d ← digitValue? c
    let t := threshold place bias
    if d < t then return (d * weight, rest)
    let (n, rest) ← value? bias (place + 36) (weight * (36 - t)) rest
    return (d * weight + n, rest)

theorem length_value? {bias place weight n : Nat} {s rest : List Char}
    (h : value? bias place weight s = some (n, rest)) : rest.length < s.length := by
  induction s generalizing place weight n with
  | nil => simp [value?] at h
  | cons c s ih =>
    simp only [value?, Option.bind_eq_bind, Option.bind_eq_some_iff] at h
    obtain ⟨d, _, h⟩ := h
    split at h
    · cases h; simp
    · simp only [Option.bind_eq_some_iff] at h
      obtain ⟨⟨m, _⟩, hv, h⟩ := h
      cases h
      exact Nat.lt_succ_of_lt (ih hv)

/-- Reads the differences after the basic characters. `position` is where the last character went. -/
def decodeFrom? (digits : List Char) (label : List Char) (codePoint position bias : Nat)
    (first : Bool) : Option (List Char) :=
  match digits with
  | [] => some label
  | c :: rest =>
    match h : value? bias 36 1 (c :: rest) with
    | none => none
    | some (delta, rest') =>
      let length := label.length + 1
      let codePoint' := codePoint + (position + delta) / length
      let position' := (position + delta) % length
      if codePoint'.isValidChar then
        decodeFrom? rest' (label.take position' ++ Char.ofNat codePoint' :: label.drop position')
          codePoint' (position' + 1) (adapt delta length first) false
      else none
termination_by digits.length
decreasing_by exact length_value? h

def decode? (s : List Char) : Option (List Char) :=
  let tail := (s.reverse.takeWhile (· ≠ '-')).reverse
  let basic := s.take (s.length - tail.length - 1)
  if basic.all isBasic then decodeFrom? tail basic 0x80 0 72 true else none

end TierRelay.Url.Punycode
