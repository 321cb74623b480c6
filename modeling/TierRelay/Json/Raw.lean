import TierRelay.Json.Token

/-!
The shape of a JSON text before its numbers and strings are given a value. Any nesting is accepted
here; limits apply where a value is taken from the shape.
-/

namespace TierRelay.Json

inductive Raw
  | null
  | bool (b : Bool)
  | number (n : Numeral)
  | string (pieces : List Piece)
  | array (items : List Raw)
  | object (members : List (List Piece × Raw))
  deriving Inhabited

namespace Raw

/-- An array or object that has begun, with what it holds so far, the last first. -/
inductive Frame
  | array (items : List Raw)
  | object (members : List (List Piece × Raw))
  | member (members : List (List Piece × Raw)) (name : List Piece)

inductive Expect
  | value
  | itemOrClose
  | nameOrClose
  | name
  | colon
  | after (v : Raw)

structure State where
  frames : List Frame
  expect : Expect

def State.start : State :=
  ⟨[], .value⟩

def State.value (frames : List Frame) : Token → Option State
  | .null => some ⟨frames, .after .null⟩
  | .bool b => some ⟨frames, .after (.bool b)⟩
  | .number n => some ⟨frames, .after (.number n)⟩
  | .string pieces => some ⟨frames, .after (.string pieces)⟩
  | .openArray => some ⟨.array [] :: frames, .itemOrClose⟩
  | .openObject => some ⟨.object [] :: frames, .nameOrClose⟩
  | _ => none

def State.name (frames : List Frame) (name : List Piece) : Option State :=
  match frames with
  | .object members :: frames => some ⟨.member members name :: frames, .colon⟩
  | _ => none

def State.after (frames : List Frame) (v : Raw) (t : Token) : Option State :=
  match frames, t with
  | .array items :: frames, .comma => some ⟨.array (v :: items) :: frames, .value⟩
  | .array items :: frames, .closeArray => some ⟨frames, .after (.array (v :: items).reverse)⟩
  | .member members name :: frames, .comma => some ⟨.object ((name, v) :: members) :: frames, .name⟩
  | .member members name :: frames, .closeObject =>
    some ⟨frames, .after (.object ((name, v) :: members).reverse)⟩
  | _, _ => none

def State.step (s : State) (t : Token) : Option State :=
  match s.expect, t with
  | .value, t => State.value s.frames t
  | .itemOrClose, .closeArray => some ⟨s.frames.tail, .after (.array [])⟩
  | .itemOrClose, t => State.value s.frames t
  | .nameOrClose, .closeObject => some ⟨s.frames.tail, .after (.object [])⟩
  | .nameOrClose, .string pieces => State.name s.frames pieces
  | .name, .string pieces => State.name s.frames pieces
  | .colon, .colon => some ⟨s.frames, .value⟩
  | .after v, t => State.after s.frames v t
  | _, _ => none

def State.run : State → List Token → Option State
  | s, [] => some s
  | s, t :: ts => (s.step t).bind fun s => s.run ts

def State.result? : State → Option Raw
  | ⟨[], .after v⟩ => some v
  | _ => none

def ofTokens? (ts : List Token) : Option Raw :=
  (State.start.run ts).bind State.result?

def parse? (s : List Char) : Option Raw :=
  (Token.all? s).bind ofTokens?

end Raw

def characters? : List Piece → Option (List Char)
  | [] => some []
  | .char c :: rest => (characters? rest).map (c :: ·)
  | .unit high :: rest =>
    if high < 0xD800 ∨ 0xDFFF < high then (characters? rest).map (Char.ofNat high :: ·)
    else match rest with
      | .unit low :: rest =>
        if high < 0xDC00 ∧ 0xDC00 ≤ low ∧ low ≤ 0xDFFF then
          (characters? rest).map
            (Char.ofNat (0x10000 + (high - 0xD800) * 0x400 + (low - 0xDC00)) :: ·)
        else none
      | _ => none

def string? (pieces : List Piece) : Option String :=
  (characters? pieces).map String.ofList

namespace Raw

mutual

def value? (depth : Nat) : Raw → Option Json
  | .null => some .null
  | .bool b => some (.bool b)
  | .number n => n.value?
  | .string pieces => (Json.string? pieces).map .string
  | .array items =>
    match depth with
    | 0 => none
    | depth + 1 => (items? depth items).map .array
  | .object members =>
    match depth with
    | 0 => none
    | depth + 1 => (members? depth members).map Json.ofMembers

def items? (depth : Nat) : List Raw → Option (List Json)
  | [] => some []
  | item :: rest => do
    let v ← value? depth item
    return v :: (← items? depth rest)

def members? (depth : Nat) : List (List Piece × Raw) → Option (List (String × Json))
  | [] => some []
  | (name, item) :: rest => do
    let name ← Json.string? name
    let v ← value? depth item
    return (name, v) :: (← members? depth rest)

end

end Raw

def depthLimit : Nat := 127

def parse? (s : String) : Option Json :=
  (Raw.parse? s.toList).bind (Raw.value? depthLimit)

end TierRelay.Json
