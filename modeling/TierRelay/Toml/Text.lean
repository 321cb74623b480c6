import TierRelay.Text.Hex

namespace TierRelay.Toml

open TierRelay.Text

abbrev Reader (α : Type) := List Char → Option (α × List Char)

def isSpace (c : Char) : Bool :=
  c = ' ' || c = '\t'

def isPrintable (c : Char) : Bool :=
  c = '\t' || (0x20 ≤ c.toNat && c.toNat ≠ 0x7F)

def skipSpaces (s : List Char) : List Char :=
  s.dropWhile isSpace

def newline? : List Char → Option (List Char)
  | '\n' :: rest => some rest
  | '\r' :: '\n' :: rest => some rest
  | _ => none

def skipComment : List Char → List Char
  | '#' :: rest => rest.dropWhile isPrintable
  | s => s

theorem length_dropWhile_le (p : Char → Bool) (s : List Char) :
    (s.dropWhile p).length ≤ s.length :=
  (List.dropWhile_sublist p).length_le

def skipLines : List Char → List Char
  | [] => []
  | ' ' :: rest => skipLines rest
  | '\t' :: rest => skipLines rest
  | '\n' :: rest => skipLines rest
  | '\r' :: '\n' :: rest => skipLines rest
  | '#' :: rest => skipLines (rest.dropWhile isPrintable)
  | s => s
termination_by s => s.length
decreasing_by
  all_goals first
    | exact Nat.lt_succ_of_le (length_dropWhile_le _ _)
    | (simp only [List.length_cons]; omega)

def skipBlank : List Char → List Char
  | ' ' :: rest => skipBlank rest
  | '\t' :: rest => skipBlank rest
  | '\n' :: rest => skipBlank rest
  | '\r' :: '\n' :: rest => skipBlank rest
  | s => s

def coded? (width : Nat) (s : List Char) : Option Char := do
  let digits := s.take width
  if digits.length < width then none
  let code := (← digits.mapM hexValue?).foldl (fun n d => n * 16 + d) 0
  if code.isValidChar then some (Char.ofNat code) else none

def escape? : List Char → Option (Char × Nat)
  | 'b' :: _ => some ('\x08', 1)
  | 't' :: _ => some ('\t', 1)
  | 'n' :: _ => some ('\n', 1)
  | 'f' :: _ => some ('\x0c', 1)
  | 'r' :: _ => some ('\r', 1)
  | '"' :: _ => some ('"', 1)
  | '\\' :: _ => some ('\\', 1)
  | 'u' :: rest => (coded? 4 rest).map fun c => (c, 5)
  | 'U' :: rest => (coded? 8 rest).map fun c => (c, 9)
  | _ => none

def basic? : Reader (List Char)
  | [] => none
  | '"' :: rest => some ([], rest)
  | '\\' :: rest => do
    let (c, width) ← escape? rest
    let (text, rest) ← basic? (rest.drop width)
    return (c :: text, rest)
  | c :: rest =>
    if isPrintable c then (basic? rest).map fun (text, rest) => (c :: text, rest) else none
termination_by s => s.length
decreasing_by all_goals simp only [List.length_cons, List.length_drop]; omega

def literal? : Reader (List Char)
  | [] => none
  | '\'' :: rest => some ([], rest)
  | c :: rest =>
    if isPrintable c then (literal? rest).map fun (text, rest) => (c :: text, rest) else none

/-- A run of three to five quotes ends a string of several lines; all but three belong to it. -/
def closing? (quote : Char) (s : List Char) : Option Nat :=
  let run := (s.takeWhile (· = quote)).length
  if 3 ≤ run then some (min run 5) else none

def multiline? (quote : Char) (s : List Char) : Option (List Char × List Char) :=
  match closing? quote s with
  | some run => some (List.replicate (run - 3) quote, s.drop run)
  | none =>
    match s with
    | [] => none
    | '\r' :: '\n' :: rest => (multiline? quote rest).map fun (text, rest) => ('\n' :: text, rest)
    | c :: rest =>
      if c = '\\' ∧ quote = '"' then
        if (newline? (skipSpaces rest)).isSome then
          let next := rest.drop (rest.length - (skipBlank rest).length)
          multiline? quote next
        else do
          let (c, width) ← escape? rest
          let (text, rest) ← multiline? quote (rest.drop width)
          return (c :: text, rest)
      else if c = '\n' ∨ isPrintable c then
        (multiline? quote rest).map fun (text, rest) => (c :: text, rest)
      else none
termination_by s.length
decreasing_by all_goals simp only [List.length_cons, List.length_drop]; omega

def afterOpening (s : List Char) : List Char :=
  (newline? s).getD s

def string? : Reader String := fun s =>
  let text? := match s with
    | '"' :: '"' :: '"' :: rest => multiline? '"' (afterOpening rest)
    | '\'' :: '\'' :: '\'' :: rest => multiline? '\'' (afterOpening rest)
    | '"' :: rest => basic? rest
    | '\'' :: rest => literal? rest
    | _ => none
  text?.map fun (text, rest) => (String.ofList text, rest)

def isBareKeyChar (c : Char) : Bool :=
  c.isAlphanum || c = '_' || c = '-'

def simpleKey? : Reader String := fun s =>
  match s with
  | '"' :: rest => (basic? rest).map fun (text, rest) => (String.ofList text, rest)
  | '\'' :: rest => (literal? rest).map fun (text, rest) => (String.ofList text, rest)
  | s =>
    match s.takeWhile isBareKeyChar with
    | [] => none
    | key => some (String.ofList key, s.dropWhile isBareKeyChar)

def chain? {α : Type} (item? : Reader α) (next? : List Char → Option (List Char)) (s : List Char) :
    Option (List α × List Char) := do
  let (a, rest) ← item? s
  match next? rest with
  | none => return ([a], rest)
  | some rest' =>
    if rest'.length < s.length then
      let (others, rest) ← chain? item? next? rest'
      return (a :: others, rest)
    else none
termination_by s.length

def dot? (s : List Char) : Option (List Char) :=
  match skipSpaces s with
  | '.' :: rest => some (skipSpaces rest)
  | _ => none

/-- Keys joined by dots, and arrays and tables inside each other, end before this number. -/
def nestingLimit : Nat := 80

def key? : Reader (List String) := fun s =>
  (chain? simpleKey? dot? s).filter fun (key, _) => key.length < nestingLimit

end TierRelay.Toml
