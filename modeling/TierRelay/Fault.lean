/-! Arithmetic on words that stops where the exact result does not fit. -/

namespace TierRelay

inductive Fault
  | overflow
  | divisionByZero
  deriving DecidableEq, Repr

end TierRelay
