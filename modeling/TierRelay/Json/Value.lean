/-!
JSON values. An integer is exact from `-2 ^ 63` up to `2 ^ 64 - 1`; every other number is a binary64
float. The members of an object stand in the order of their names, each name once.
-/

namespace TierRelay

inductive Json
  | null
  | bool (b : Bool)
  | int (n : Int)
  | float (x : Float)
  | string (s : String)
  | array (items : List Json)
  | object (members : List (String × Json))
  deriving Inhabited

namespace Json

def insert (name : String) (value : Json) : List (String × Json) → List (String × Json)
  | [] => [(name, value)]
  | (name', value') :: rest =>
    if name < name' then (name, value) :: (name', value') :: rest
    else if name = name' then (name, value) :: rest
    else (name', value') :: insert name value rest

def ofMembers (members : List (String × Json)) : Json :=
  .object (members.foldl (fun sorted m => insert m.1 m.2 sorted) [])

def member? (name : String) : Json → Option Json
  | .object members => members.lookup name
  | _ => none

def ofNat (n : Nat) : Json :=
  .int n

end Json

end TierRelay
