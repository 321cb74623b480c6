import TierRelay.Record.Kind
import TierRelay.Text.Split

/-!
A path is matched literally except for parameters in braces, which stand for the rest of a segment,
and for a last parameter with a star, which stands for the rest of the path. Of two routes that
match, the one that is literal for longer wins.
-/

namespace TierRelay

open Text

inductive Endpoint
  | paged (kind : RecordKind)
  | health
  deriving DecidableEq, Repr

namespace Route

inductive Piece
  | literal (c : Char)
  | parameter
  | rest (name : List Char)
  deriving DecidableEq

def name? : List Char → Option (List Char × List Char)
  | [] => none
  | '\x7d' :: '\x7d' :: s => (name? s).map fun (name, rest) => ('\x7d' :: name, rest)
  | '\x7b' :: '\x7b' :: s => (name? s).map fun (name, rest) => ('\x7b' :: name, rest)
  | '\x7d' :: s => some ([], s)
  | c :: s => (name? s).map fun (name, rest) => (c :: name, rest)

theorem length_name? {s name rest : List Char} (h : name? s = some (name, rest)) :
    rest.length < s.length := by
  fun_induction name? s generalizing name rest with
  | case1 => simp at h
  | case4 => cases h; simp
  | case2 _ ih | case3 _ ih | case5 _ _ _ _ _ ih =>
    obtain ⟨⟨_, _⟩, h, e⟩ := Option.map_eq_some_iff.1 h
    have := ih h
    cases e
    simp; omega

def Piece.ofName? (name rest : List Char) : Option Piece :=
  match name with
  | [] | '\x7d' :: _ => none
  | '*' :: tail =>
    if tail = [] ∨ tail.any (fun c => c = '*' || c = '/') ∨ rest ≠ [] then none
    else some (.rest tail)
  | _ :: tail =>
    if tail.any (fun c => c = '*' || c = '/') ∨ (rest ≠ [] ∧ rest.head? ≠ some '/') then none
    else some .parameter

def pieces? (s : List Char) : Option (List Piece) :=
  match s with
  | [] => some []
  | '\x7b' :: '\x7b' :: s => (pieces? s).map (.literal '\x7b' :: ·)
  | '\x7d' :: '\x7d' :: s => (pieces? s).map (.literal '\x7d' :: ·)
  | '\x7d' :: _ => none
  | '\x7b' :: s =>
    match _ : name? s with
    | none => none
    | some (name, rest) =>
      (Piece.ofName? name rest).bind fun piece => (pieces? rest).map (piece :: ·)
  | c :: s => (pieces? s).map (.literal c :: ·)
termination_by s.length
decreasing_by
  all_goals first
    | exact Nat.lt_succ_of_lt (length_name? ‹_›)
    | exact Nat.lt_succ_self _
    | exact Nat.lt_succ_of_lt (Nat.lt_succ_self _)

/-- A segment may not begin with a mark that other notations give to parameters. -/
def isPlain (path : List Char) : Bool :=
  (parts '/' path).all fun segment => segment.head? ≠ some ':' && segment.head? ≠ some '*'

/-- Parameters that stand for segments are told apart by letters before `z`. -/
def parameterLimit : Nat := 25

def ofPath? (path : String) : Option (List Piece) :=
  if path.toList.head? = some '/' ∧ isPlain path.toList then
    (pieces? path.toList).filter fun route => route.count .parameter ≤ parameterLimit
  else none

/-- Two routes clash if they are the same, or if different parameters stand at the place where they
part. -/
def clashes : List Piece → List Piece → Bool
  | [], [] => true
  | .rest _ :: _, .rest _ :: _ => true
  | .rest _ :: _, .parameter :: _ => true
  | .parameter :: _, .rest _ :: _ => true
  | a :: r, b :: s => if a = b then clashes r s else false
  | _, _ => false

def isMatch : List Piece → List Char → Bool
  | [], s => s = []
  | .literal c :: r, s =>
    match s with
    | [] => false
    | c' :: s => c = c' && isMatch r s
  | .parameter :: r, s => s.head? ≠ none && s.head? ≠ some '/' && isMatch r (s.dropWhile (· ≠ '/'))
  | .rest _ :: _, s => s ≠ []

def precedes : List Piece → List Piece → Bool
  | .literal c :: r, .literal d :: s => c = d && precedes r s
  | .parameter :: r, .parameter :: s => precedes r s
  | .literal _ :: _, _ => true
  | .parameter :: _, .rest _ :: _ => true
  | _, _ => false

end Route

abbrev Routes := List (List Route.Piece × Endpoint)

namespace Routes

def add? (routes : Routes) (path : String) (endpoint : Endpoint) : Option Routes := do
  let route ← Route.ofPath? path
  if routes.any fun other => Route.clashes other.1 route then none
  else return routes ++ [(route, endpoint)]

def ofPaths? (paths : PerKind String) : Option Routes := do
  let routes ← add? [] paths.episodes (.paged .episodes)
  let routes ← routes.add? paths.profiles (.paged .profiles)
  routes.add? "/health" .health

def better (a b : List Route.Piece × Endpoint) : List Route.Piece × Endpoint :=
  if Route.precedes b.1 a.1 then b else a

def find? (routes : Routes) (path : List Char) : Option Endpoint :=
  match routes.filter fun route => Route.isMatch route.1 path with
  | [] => none
  | first :: others => some (others.foldl better first).2

end Routes

end TierRelay
