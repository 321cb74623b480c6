/-!
The shortest decimal that reads back as a given binary64 number: of the decimals with the fewest
digits inside the interval of reals that round to the number, the one nearest to it.
-/

namespace TierRelay.Text.Shortest

/-- A positive number `significand * 2 ^ exponent`, with the ends of its rounding interval at
`lowGap` and `highGap` quarters of `2 ^ exponent`. -/
structure Binary where
  significand : Nat
  exponent : Int
  lowGap : Nat
  highGap : Nat

/-- The number `0.digits`, times ten to the power `point`. -/
structure Digits where
  digits : Nat
  point : Int

def ofBits (bits : Nat) : Binary :=
  let unit := 1 <<< 52
  let fraction := bits % unit
  let biased : Nat := bits / unit % 2048
  if biased = 0 then ⟨fraction, -1074, 2, 2⟩
  else ⟨fraction + unit, (biased : Int) - 1075, if fraction = 0 ∧ 1 < biased then 1 else 2, 2⟩

def natPow (base : Nat) (e : Int) : Nat :=
  Nat.pow base e.toNat

/-- `a * 2 ^ (b.exponent - 2)` compared with `d * 10 ^ k`, as two naturals on one scale. -/
def onScale (exponent : Int) (a : Nat) (d : Nat) (k : Int) : Nat × Nat :=
  (a * natPow 2 (exponent - 2) * natPow 10 (-k), d * natPow 10 k * natPow 2 (2 - exponent))

def Binary.contains (b : Binary) (d : Nat) (k : Int) : Bool :=
  let low := onScale b.exponent (4 * b.significand - b.lowGap) d k
  let high := onScale b.exponent (4 * b.significand + b.highGap) d k
  if b.significand % 2 = 0 then low.1 ≤ low.2 && high.2 ≤ high.1
  else low.1 < low.2 && high.2 < high.1

def Binary.floorAt (b : Binary) (k : Int) : Nat :=
  let one := onScale b.exponent (4 * b.significand) 1 k
  one.1 / one.2

def Binary.nearer (b : Binary) (d : Nat) (k : Int) : Nat :=
  let middle := onScale b.exponent (8 * b.significand) (2 * d + 1) k
  if middle.1 < middle.2 then d
  else if middle.2 < middle.1 then d + 1
  else if d % 2 = 0 then d else d + 1

def Binary.candidate? (b : Binary) (k : Int) : Option Nat :=
  let d := b.floorAt k
  match b.contains d k && 0 < d, b.contains (d + 1) k with
  | true, true => some (b.nearer d k)
  | true, false => some d
  | false, true => some (d + 1)
  | false, false => none

def Binary.leading (b : Binary) : Int :=
  let guess := (Nat.log2 b.significand + b.exponent) * 30103 / 100000
  if b.floorAt guess = 0 then guess - 1
  else if 10 ≤ b.floorAt guess then guess + 1
  else guess

def dropZeros (digits : Nat) : Nat → Nat
  | 0 => digits
  | fuel + 1 => if digits ≠ 0 ∧ digits % 10 = 0 then dropZeros (digits / 10) fuel else digits

def Binary.shortest (b : Binary) : Digits :=
  let leading := b.leading
  let tried := (List.range 17).findSome? fun (n : Nat) =>
    (b.candidate? (leading - n)).map fun d => (d, leading - n)
  let (d, k) := tried.getD (b.floorAt (leading - 16), leading - 16)
  let digits := dropZeros d 18
  ⟨digits, k + (Nat.toDigits 10 d).length⟩

end TierRelay.Text.Shortest
