import TierRelay.Json.Value
import TierRelay.Text.Numeral
import TierRelay.Text.Shortest

/-!
A float is read by one multiplication or division of the digits, as a 64 bit word, by a power of
ten.
-/

namespace TierRelay.Json

open TierRelay.Text

structure Numeral where
  negative : Bool := false
  whole : List Char
  fraction : List Char := []
  /-- Whether the exponent is negative, and its digits. -/
  exponent : Option (Bool × List Char) := none
  deriving DecidableEq

def largestWord : Nat := UInt64.size - 1

def absorb (word : Nat) : List Char → Nat × List Char
  | [] => (word, [])
  | c :: rest =>
    let next := 10 * word + (c.toNat - '0'.toNat)
    if largestWord < next then (word, c :: rest) else absorb next rest

def powerOfTen (e : Nat) : Float :=
  Float.ofScientific 1 false e

def scaledDown (x : Float) (e : Nat) : Float :=
  if e ≤ 308 then x / powerOfTen e
  else if x == 0.0 then x
  else scaledDown (x / powerOfTen 308) (e - 308)
termination_by e

/-- `word * 10 ^ e`; `none` if it is beyond the largest float. -/
def scaled? (word : Nat) (e : Int) : Option Float :=
  let x := word.toUInt64.toFloat
  if e < 0 then some (scaledDown x e.natAbs)
  else if e ≤ 308 then
    let y := x * powerOfTen e.toNat
    if y.isInf then none else some y
  else if x == 0.0 then some x
  else none

def Numeral.exponentValue (n : Numeral) : Int :=
  match n.exponent with
  | none => 0
  | some (true, digits) => -(decimalValue digits : Int)
  | some (false, digits) => decimalValue digits

def Numeral.float? (n : Numeral) : Option Float := do
  let (word, skipped) := absorb 0 n.whole
  let (word, left) := absorb word n.fraction
  let shift : Int := skipped.length - (n.fraction.length - left.length : Nat)
  let magnitude ←
    if n.exponentValue.natAbs < 1 <<< 31 then scaled? word (shift + n.exponentValue)
    else if word ≠ 0 ∧ 0 < n.exponentValue then none
    else some 0.0
  return if n.negative then -magnitude else magnitude

def Numeral.value? (n : Numeral) : Option Json :=
  let whole := decimalValue n.whole
  if n.fraction = [] ∧ n.exponent = none then
    if n.negative then
      if 0 < whole ∧ whole ≤ 1 <<< 63 then some (.int (-whole))
      else n.float?.map .float
    else if whole ≤ largestWord then some (.int whole)
    else n.float?.map .float
  else n.float?.map .float

/-- Positional from `10 ^ -5` up to `10 ^ 16`, with at least one digit after the point; scientific
elsewhere, with the sign of the exponent always written. -/
def positiveFloatText (bits : Nat) : List Char :=
  let shortest := (Shortest.ofBits bits).shortest
  let digits := decimal shortest.digits
  let point := shortest.point
  if 0 < point ∧ point ≤ 16 then
    let whole := digits.take point.toNat
    let fraction := digits.drop point.toNat
    whole ++ List.replicate (point.toNat - whole.length) '0' ++ '.' ::
      (if fraction = [] then ['0'] else fraction)
  else if -5 < point ∧ point ≤ 0 then
    '0' :: '.' :: List.replicate (-point).toNat '0' ++ digits
  else
    let mantissa := match digits with
      | first :: second :: rest => first :: '.' :: second :: rest
      | one => one
    let e := point - 1
    mantissa ++ 'e' :: (if e < 0 then '-' else '+') :: decimal e.natAbs

def floatText (x : Float) : List Char :=
  let bits := x.toBits.toNat
  let magnitude := bits % (1 <<< 63)
  let text := if magnitude = 0 then ['0', '.', '0'] else positiveFloatText magnitude
  if 1 <<< 63 ≤ bits then '-' :: text else text

end TierRelay.Json
