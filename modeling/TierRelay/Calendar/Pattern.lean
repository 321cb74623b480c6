import TierRelay.Calendar.DateTime
import TierRelay.Text.Blank
import TierRelay.Text.Numeral

namespace TierRelay.Calendar

open TierRelay.Text

inductive Field
  | year
  | month
  | day
  | hour
  | minute
  | second
  /-- An optional point with a fraction of a second; digits after the ninth are dropped. -/
  | fraction
  deriving DecidableEq

inductive Piece
  | char (c : Char)
  | blanks
  | field (f : Field)
  deriving DecidableEq

structure Reading where
  year : Int := 0
  month : Nat := 0
  day : Nat := 0
  hour : Nat := 0
  minute : Nat := 0
  second : Nat := 0
  nanos : Nat := 0
  deriving DecidableEq

namespace Reading

def toDateTime? (r : Reading) : Option DateTime := do
  return ⟨← Date.of? r.year r.month r.day, ← Time.ofWritten? r.hour r.minute r.second r.nanos⟩

end Reading

def number? (most : Option Nat) (s : List Char) : Option (Nat × List Char) :=
  match leadingDigits most s with
  | [] => none
  | digits => some (decimalValue digits, s.drop digits.length)

def year? : List Char → Option (Int × List Char)
  | '-' :: s => (number? none s).map fun (n, rest) => (-(n : Int), rest)
  | '+' :: s => (number? none s).map fun (n, rest) => ((n : Int), rest)
  | s => (number? (some 4) s).map fun (n, rest) => ((n : Int), rest)

def nanosOf (digits : List Char) : Nat :=
  decimalValue (digits.take 9 ++ List.replicate (9 - digits.length) '0')

def fraction? : List Char → Option (Nat × List Char)
  | '.' :: s =>
    match leadingDigits none s with
    | [] => none
    | digits => some (nanosOf digits, s.drop digits.length)
  | s => some (0, s)

def twoDigits? (s : List Char) : Option (Nat × List Char) :=
  number? (some 2) (skipBlanks s)

def Field.read? (f : Field) (s : List Char) (r : Reading) : Option (Reading × List Char) :=
  match f with
  | .year => (year? (skipBlanks s)).map fun (n, rest) => ({ r with year := n }, rest)
  | .month => (twoDigits? s).map fun (n, rest) => ({ r with month := n }, rest)
  | .day => (twoDigits? s).map fun (n, rest) => ({ r with day := n }, rest)
  | .hour => (twoDigits? s).map fun (n, rest) => ({ r with hour := n }, rest)
  | .minute => (twoDigits? s).map fun (n, rest) => ({ r with minute := n }, rest)
  | .second => (twoDigits? s).map fun (n, rest) => ({ r with second := n }, rest)
  | .fraction => (fraction? s).map fun (n, rest) => ({ r with nanos := n }, rest)

def Piece.read? (p : Piece) (s : List Char) (r : Reading) : Option (Reading × List Char) :=
  match p, s with
  | .char c, c' :: rest => if c = c' then some (r, rest) else none
  | .char _, [] => none
  | .blanks, s => some (r, skipBlanks s)
  | .field f, s => f.read? s r

abbrev Pattern := List Piece

def Pattern.read? : Pattern → List Char → Reading → Option Reading
  | [], [], r => some r
  | [], _ :: _, _ => none
  | p :: ps, s, r => do
    let (r, rest) ← p.read? s r
    Pattern.read? ps rest r

def Pattern.recognise (p : Pattern) (s : List Char) : Option DateTime :=
  (p.read? s {}).bind Reading.toDateTime?

end TierRelay.Calendar
