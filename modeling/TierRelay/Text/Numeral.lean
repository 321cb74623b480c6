namespace TierRelay.Text

def decimal (n : Nat) : List Char :=
  Nat.toDigits 10 n

def padded (width n : Nat) : List Char :=
  List.replicate (width - (decimal n).length) '0' ++ decimal n

def signed : Int → List Char
  | .ofNat n => decimal n
  | .negSucc n => '-' :: decimal (n + 1)

def decimalValue (digits : List Char) : Nat :=
  Nat.ofDigitChars 10 digits 0

def natural? (s : List Char) : Option Nat :=
  if s ≠ [] ∧ s.all Char.isDigit then some (decimalValue s) else none

def integer? : List Char → Option Int
  | '-' :: s => (natural? s).map fun n => -(n : Int)
  | '+' :: s => (natural? s).map fun n => (n : Int)
  | s => (natural? s).map fun n => (n : Int)

def integerWithin? (bits : Nat) (s : List Char) : Option Int :=
  (integer? s).filter fun n =>
    -(1 <<< (bits - 1) : Nat) ≤ n && n < (1 <<< (bits - 1) : Nat)

def leadingDigits (most : Option Nat) (s : List Char) : List Char :=
  let run := s.takeWhile Char.isDigit
  match most with
  | none => run
  | some width => run.take width

theorem decimalValue_decimal (n : Nat) : decimalValue (decimal n) = n :=
  Nat.ofDigitChars_ten_toDigits

theorem decimal_ne_nil (n : Nat) : decimal n ≠ [] :=
  Nat.toDigits_ne_nil

end TierRelay.Text
