import TierRelay.Json.Value

/-!
A table may be opened once by a header and may be extended by dotted keys only if dotted keys made
it; the tables that a path passes through are made as needed.
-/

namespace TierRelay.Toml

inductive Origin
  | implied
  | dottedKey
  | header
  deriving DecidableEq

inductive Node
  | value (v : Json)
  | table (origin : Origin) (members : List (String × Node))
  /-- An array of tables, the last first. -/
  | tables (reversed : List (List (String × Node)))

abbrev Table := List (String × Node)

namespace Table

def replace (key : String) (node : Node) (t : Table) : Table :=
  t.map fun (key', node') => if key' = key then (key, node) else (key', node')

def change? (byKey : Bool) (change : Origin → Table → Option Table) :
    List String → Origin → Table → Option Table
  | [], origin, t => change origin t
  | key :: path, _, t =>
    match t.lookup key with
    | none => do
      let origin := if byKey then Origin.dottedKey else .implied
      return t ++ [(key, .table origin (← change? byKey change path origin []))]
    | some (.table origin members) =>
      if byKey ∧ origin = .header then none
      else do return t.replace key (.table origin (← change? byKey change path origin members))
    | some (.tables (last :: earlier)) => do
      return t.replace key (.tables ((← change? byKey change path .header last) :: earlier))
    | some _ => none

def add? (key : String) (node : Node) (t : Table) : Option Table :=
  match t.lookup key with
  | none => some (t ++ [(key, node)])
  | some _ => none

def put? (path : List String) (v : Json) (t : Table) : Option Table :=
  match path.getLast? with
  | none => none
  | some key =>
    change? true
      (fun origin t =>
        if path.length = 1 ∨ origin = .dottedKey then t.add? key (.value v) else none)
      path.dropLast .header t

def openTable? (path : List String) (t : Table) : Option Table := do
  let key ← path.getLast?
  change? false
    (fun _ t =>
      match t.lookup key with
      | none => some (t ++ [(key, .table .header [])])
      | some (.table .implied members) => some (t.replace key (.table .header members))
      | some _ => none)
    path.dropLast .header t

def openItem? (path : List String) (t : Table) : Option Table := do
  let key ← path.getLast?
  change? false
    (fun _ t =>
      match t.lookup key with
      | none => some (t ++ [(key, .tables [[]])])
      | some (.tables items) => some (t.replace key (.tables ([] :: items)))
      | some _ => none)
    path.dropLast .header t

def putIn? (header path : List String) (v : Json) (t : Table) : Option Table :=
  change? false (fun _ t => t.put? path v) header .header t

end Table

mutual

def Node.json : Node → Json
  | .value v => v
  | .table _ members => .ofMembers (membersJson members)
  | .tables reversed => .array (tablesJson reversed).reverse

def membersJson : List (String × Node) → List (String × Json)
  | [] => []
  | (key, node) :: rest => (key, node.json) :: membersJson rest

def tablesJson : List (List (String × Node)) → List Json
  | [] => []
  | members :: rest => .ofMembers (membersJson members) :: tablesJson rest

end

def Table.json (t : Table) : Json :=
  .ofMembers (membersJson t)

end TierRelay.Toml
