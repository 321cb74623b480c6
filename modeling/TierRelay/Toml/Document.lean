import TierRelay.Toml.Number
import TierRelay.Toml.Tree

namespace TierRelay.Toml

def dateValue : Json :=
  .object [("date-time", .null)]

def scalar? : Reader Json := fun s =>
  match s with
  | 't' :: 'r' :: 'u' :: 'e' :: rest => some (.bool true, rest)
  | 'f' :: 'a' :: 'l' :: 's' :: 'e' :: rest => some (.bool false, rest)
  | s =>
    (dateTime? s).map (fun rest => (dateValue, rest))
      <|> (float? s).map (fun (x, rest) => (.float x, rest))
      <|> (integer? s).map (fun (n, rest) => (.int n, rest))

def items? (value? : Reader Json) (s : List Char) : Option (List Json × List Char) :=
  match skipLines s with
  | ']' :: rest => some ([], rest)
  | s' => do
    let (v, rest) ← value? s'
    match skipLines rest with
    | ']' :: rest => return ([v], rest)
    | ',' :: rest =>
      if rest.length < s.length then
        let (vs, rest) ← items? value? rest
        return (v :: vs, rest)
      else none
    | _ => none
termination_by s.length

def pair? (value? : Reader Json) : Reader (List String × Json) := fun s => do
  let (key, s) ← key? s
  match skipSpaces s with
  | '=' :: s => do
    let (v, s) ← value? (skipSpaces s)
    return ((key, v), s)
  | _ => none

def comma? (s : List Char) : Option (List Char) :=
  match skipSpaces s with
  | ',' :: rest => some (skipSpaces rest)
  | _ => none

def pairs? (value? : Reader Json) : Reader Json := fun s =>
  match skipSpaces s with
  | '\x7d' :: rest => some (.object [], rest)
  | s => do
    let (pairs, rest) ← chain? (pair? value?) comma? s
    let table ← pairs.foldlM (fun (t : Table) (key, v) => t.put? key v) []
    match skipSpaces rest with
    | '\x7d' :: rest => return (table.json, rest)
    | _ => none

def value? (depth : Nat) : Reader Json := fun s =>
  match s with
  | '"' :: _ => (string? s).map fun (text, rest) => (.string text, rest)
  | '\'' :: _ => (string? s).map fun (text, rest) => (.string text, rest)
  | '[' :: rest =>
    match depth with
    | depth + 2 => (items? (value? (depth + 1)) rest).map fun (vs, rest) => (.array vs, rest)
    | _ => none
  | '\x7b' :: rest =>
    match depth with
    | depth + 2 => pairs? (value? (depth + 1)) rest
    | _ => none
  | s => scalar? s

inductive Line
  | blank
  | header (path : List String)
  | itemHeader (path : List String)
  | pair (path : List String) (v : Json)

def line? (s : List Char) : Option (Line × List Char) :=
  match skipSpaces s with
  | '[' :: '[' :: rest => do
    let (path, rest) ← key? (skipSpaces rest)
    match skipSpaces rest with
    | ']' :: ']' :: rest => return (.itemHeader path, rest)
    | _ => none
  | '[' :: rest => do
    let (path, rest) ← key? (skipSpaces rest)
    match skipSpaces rest with
    | ']' :: rest => return (.header path, rest)
    | _ => none
  | s =>
    match skipComment s with
    | [] => some (.blank, [])
    | s' =>
      if s'.length < s.length ∨ (newline? s').isSome then some (.blank, s')
      else (pair? (value? nestingLimit) s).map fun ((path, v), rest) => (.pair path v, rest)

def lines? (s : List Char) : Option (List Line) := do
  let (line, rest) ← line? s
  match skipComment (skipSpaces rest) with
  | [] => return [line]
  | rest => do
    let next ← newline? rest
    if next.length < s.length then return line :: (← lines? next) else none
termination_by s.length

structure Progress where
  root : Table := []
  header : List String := []

def Progress.add? (p : Progress) : Line → Option Progress
  | .blank => some p
  | .header path => (p.root.openTable? path).map fun root => ⟨root, path⟩
  | .itemHeader path => (p.root.openItem? path).map fun root => ⟨root, path⟩
  | .pair path v => (p.root.putIn? p.header path v).map fun root => { p with root }

def parse? (text : String) : Option Json := do
  let s := match text.toList with
    | '\ufeff' :: rest => rest
    | s => s
  let progress ← (← lines? s).foldlM Progress.add? {}
  return progress.root.json

end TierRelay.Toml
