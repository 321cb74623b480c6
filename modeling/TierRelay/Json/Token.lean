import TierRelay.Json.Number
import TierRelay.Text.Hex

namespace TierRelay.Json

open TierRelay.Text

inductive Piece
  | char (c : Char)
  | unit (value : Nat)
  deriving DecidableEq

inductive Token
  | openArray
  | closeArray
  | openObject
  | closeObject
  | comma
  | colon
  | null
  | bool (b : Bool)
  | number (n : Numeral)
  | string (pieces : List Piece)
  deriving DecidableEq

namespace Token

def simpleEscape? : Char → Option Char
  | '"' => some '"'
  | '\\' => some '\\'
  | '/' => some '/'
  | 'b' => some '\x08'
  | 'f' => some '\x0c'
  | 'n' => some '\n'
  | 'r' => some '\r'
  | 't' => some '\t'
  | _ => none

def string? : List Char → Option (List Piece × List Char)
  | [] => none
  | '"' :: rest => some ([], rest)
  | '\\' :: 'u' :: a :: b :: c :: d :: rest => do
    let value := (← hexValue? a) * 4096 + (← hexValue? b) * 256 + (← hexValue? c) * 16 + (← hexValue? d)
    let (pieces, rest) ← string? rest
    return (.unit value :: pieces, rest)
  | '\\' :: e :: rest => do
    let c ← simpleEscape? e
    let (pieces, rest) ← string? rest
    return (.char c :: pieces, rest)
  | c :: rest =>
    if c = '\\' ∨ c.toNat < 0x20 then none
    else (string? rest).map fun (pieces, rest) => (.char c :: pieces, rest)

def digits? (s : List Char) : Option (List Char × List Char) :=
  match s.takeWhile Char.isDigit with
  | [] => none
  | digits => some (digits, s.dropWhile Char.isDigit)

def whole? : List Char → Option (List Char × List Char)
  | '0' :: rest => some (['0'], rest)
  | s => digits? s

def fraction? : List Char → Option (List Char × List Char)
  | '.' :: rest => digits? rest
  | s => some ([], s)

def signedDigits? : List Char → Option ((Bool × List Char) × List Char)
  | '-' :: rest => (digits? rest).map fun (digits, rest) => ((true, digits), rest)
  | '+' :: rest => (digits? rest).map fun (digits, rest) => ((false, digits), rest)
  | rest => (digits? rest).map fun (digits, rest) => ((false, digits), rest)

def exponent? : List Char → Option (Option (Bool × List Char) × List Char)
  | 'e' :: rest => (signedDigits? rest).map fun (e, rest) => (some e, rest)
  | 'E' :: rest => (signedDigits? rest).map fun (e, rest) => (some e, rest)
  | s => some (none, s)

def number? (negative : Bool) (s : List Char) : Option (Numeral × List Char) := do
  let (whole, s) ← whole? s
  let (fraction, s) ← fraction? s
  let (exponent, s) ← exponent? s
  return (⟨negative, whole, fraction, exponent⟩, s)

def isSpace (c : Char) : Bool :=
  c = ' ' || c = '\t' || c = '\n' || c = '\r'

def first? : List Char → Option (Token × List Char)
  | '[' :: rest => some (.openArray, rest)
  | ']' :: rest => some (.closeArray, rest)
  | '{' :: rest => some (.openObject, rest)
  | '}' :: rest => some (.closeObject, rest)
  | ',' :: rest => some (.comma, rest)
  | ':' :: rest => some (.colon, rest)
  | 'n' :: 'u' :: 'l' :: 'l' :: rest => some (.null, rest)
  | 't' :: 'r' :: 'u' :: 'e' :: rest => some (.bool true, rest)
  | 'f' :: 'a' :: 'l' :: 's' :: 'e' :: rest => some (.bool false, rest)
  | '"' :: rest => (string? rest).map fun (pieces, rest) => (.string pieces, rest)
  | '-' :: rest => (number? true rest).map fun (n, rest) => (.number n, rest)
  | s => (number? false s).map fun (n, rest) => (.number n, rest)

theorem length_string? {s rest : List Char} {pieces : List Piece}
    (h : string? s = some (pieces, rest)) : rest.length < s.length := by
  fun_induction string? s generalizing pieces rest with
  | case1 => simp at h
  | case2 => simp at h; simp [h]
  | case3 a b c d s ih =>
    simp only [Option.bind_eq_bind, Option.bind_eq_some_iff] at h
    obtain ⟨_, _, _, _, _, _, _, _, ⟨_, _⟩, h, e⟩ := h
    have := ih h
    cases e
    simp; omega
  | case4 e s _ ih =>
    simp only [Option.bind_eq_bind, Option.bind_eq_some_iff] at h
    obtain ⟨_, _, ⟨_, _⟩, h, e⟩ := h
    have := ih h
    cases e
    simp; omega
  | case5 => simp at h
  | case6 c s _ _ _ _ ih =>
    simp only [Option.map_eq_some_iff, Prod.exists] at h
    obtain ⟨_, _, h, e⟩ := h
    have := ih h
    cases e
    simp; omega

theorem length_digits? {s digits rest : List Char} (h : digits? s = some (digits, rest)) :
    rest.length < s.length := by
  unfold digits? at h
  split at h
  · cases h
  · rename_i hne
    cases h
    have := congrArg List.length (List.takeWhile_append_dropWhile (p := Char.isDigit) (l := s))
    have : 0 < (s.takeWhile Char.isDigit).length := List.length_pos_iff.2 hne
    rw [List.length_append] at *
    omega

theorem length_whole? {s digits rest : List Char} (h : whole? s = some (digits, rest)) :
    rest.length < s.length := by
  unfold whole? at h
  split at h
  · cases h; simp
  · exact length_digits? h

theorem length_fraction? {s digits rest : List Char} (h : fraction? s = some (digits, rest)) :
    rest.length ≤ s.length := by
  unfold fraction? at h
  split at h
  · have := length_digits? h
    simp; omega
  · cases h; simp

theorem length_signedDigits? {s rest : List Char} {e : Bool × List Char}
    (h : signedDigits? s = some (e, rest)) : rest.length < s.length := by
  unfold signedDigits? at h
  split at h
  · obtain ⟨⟨_, _⟩, h, e⟩ := Option.map_eq_some_iff.1 h
    have := length_digits? h
    cases e
    simp; omega
  · obtain ⟨⟨_, _⟩, h, e⟩ := Option.map_eq_some_iff.1 h
    have := length_digits? h
    cases e
    simp; omega
  · obtain ⟨⟨_, _⟩, h, e⟩ := Option.map_eq_some_iff.1 h
    cases e
    exact length_digits? h

theorem length_exponent? {s rest : List Char} {e : Option (Bool × List Char)}
    (h : exponent? s = some (e, rest)) : rest.length ≤ s.length := by
  unfold exponent? at h
  split at h
  · obtain ⟨⟨_, _⟩, h, e⟩ := Option.map_eq_some_iff.1 h
    have := length_signedDigits? h
    cases e
    simp; omega
  · obtain ⟨⟨_, _⟩, h, e⟩ := Option.map_eq_some_iff.1 h
    have := length_signedDigits? h
    cases e
    simp; omega
  · cases h; simp

theorem length_number? {negative : Bool} {s rest : List Char} {n : Numeral}
    (h : number? negative s = some (n, rest)) : rest.length < s.length := by
  simp only [number?, Option.bind_eq_bind, Option.bind_eq_some_iff, Prod.exists] at h
  obtain ⟨_, _, hw, _, _, hf, _, _, he, h⟩ := h
  have := length_whole? hw
  have := length_fraction? hf
  have := length_exponent? he
  cases h
  omega

theorem length_first? {s rest : List Char} {t : Token} (h : first? s = some (t, rest)) :
    rest.length < s.length := by
  unfold first? at h
  split at h
  case h_10 =>
    obtain ⟨⟨_, _⟩, h, e⟩ := Option.map_eq_some_iff.1 h
    have := length_string? h
    cases e
    simp; omega
  case h_11 =>
    obtain ⟨⟨_, _⟩, h, e⟩ := Option.map_eq_some_iff.1 h
    have := length_number? h
    cases e
    simp; omega
  case h_12 =>
    obtain ⟨⟨_, _⟩, h, e⟩ := Option.map_eq_some_iff.1 h
    cases e
    exact length_number? h
  all_goals (cases h; simp; try omega)

def all? (s : List Char) : Option (List Token) :=
  match s with
  | [] => some []
  | c :: rest =>
    if isSpace c then all? rest
    else match _ : first? (c :: rest) with
      | none => none
      | some (t, rest') => (all? rest').map (t :: ·)
termination_by s.length
decreasing_by
  · simp
  · exact length_first? ‹_›

end Token

end TierRelay.Json
