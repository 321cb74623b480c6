import TierRelay.Text.Blank

namespace TierRelay

inductive Role
  | business
  | management
  | data
  deriving DecidableEq, Repr

namespace Role

def name : Role → String
  | business => "business"
  | management => "management"
  | data => "data"

def ofName? : String → Option Role
  | "business" => some business
  | "management" => some management
  | "data" => some data
  | _ => none

def forwards : Role → Bool
  | data => false
  | _ => true

def folded (text : String) : String :=
  String.ofList ((Text.trim text.toList).map Char.toLower)

def refusal (name : String) : String :=
  "unknown tier '" ++ name ++ "' (expected business, management or data)"

def parse (text : String) : Except String Role :=
  match ofName? (folded text) with
  | some role => .ok role
  | none => .error (refusal (folded text))

theorem ofName?_name (r : Role) : ofName? r.name = some r := by
  cases r <;> rfl

end Role

end TierRelay
