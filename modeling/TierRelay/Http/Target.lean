import TierRelay.Text.Split
import TierRelay.Text.Utf8

namespace TierRelay.Http

open TierRelay.Text

structure Target where
  scheme : Option (List Char) := none
  authority : List Char := []
  path : List Char
  query : Option (List Char) := none
  deriving DecidableEq

namespace Target

/-- In bytes. -/
def lengthLimit : Nat := 65534

def schemeLimit : Nat := 64

def colonLimit : Nat := 8

def isSchemeChar (c : Char) : Bool :=
  c.isAlphanum || c ∈ ['+', '-', '.', '~']

def inPath (c : Char) : Bool :=
  c ∈ ['!', '"', '=', '|', '~', '\x7b', '\x7d'] || (0x24 ≤ c.toNat && c.toNat ≤ 0x3B) ||
    (0x40 ≤ c.toNat && c.toNat ≤ 0x5F) || (0x61 ≤ c.toNat && c.toNat ≤ 0x7A) || 0x7F ≤ c.toNat

def inQuery (c : Char) : Bool :=
  c = '!' || c = '=' || (0x24 ≤ c.toNat && c.toNat ≤ 0x3B) || 0x3F ≤ c.toNat

def pathAndQuery? (s : List Char) : Option (List Char × Option (List Char)) :=
  let s := before '#' s
  let path := before '?' s
  let query := after? '?' s
  if path.all inPath ∧ (query.getD []).all inQuery then some (path, query) else none

def endsAuthority (c : Char) : Bool :=
  c = '/' || c = '?' || c = '#'

/-- Marks of the authority that has been read so far. Colons and percent signs in credentials and
inside brackets do not count. -/
structure Marks where
  colons : Nat := 0
  opened : Bool := false
  closed : Bool := false
  percent : Bool := false

def isAuthorityChar (c : Char) : Bool :=
  c.isAlphanum ||
    c ∈ ['-', '.', '_', '~', '!', '$', '&', '\'', '(', ')', '*', '+', ',', ';', '=']

def Marks.next? (m : Marks) (c : Char) : Option Marks :=
  if c = ':' then if colonLimit ≤ m.colons then none else some { m with colons := m.colons + 1 }
  else if c = '[' then if m.percent ∨ m.opened then none else some { m with opened := true }
  else if c = ']' then
    if !m.opened ∨ m.closed then none
    else some { m with closed := true, colons := 0, percent := false }
  else if c = '@' then some { m with colons := 0, percent := false }
  else if c = '%' then some { m with percent := true }
  else if isAuthorityChar c then some m
  else none

def isAuthority (s : List Char) : Bool :=
  match s.foldlM Marks.next? {} with
  | none => false
  | some m => m.opened = m.closed && m.colons ≤ 1 && !m.percent && s.getLast? ≠ some '@'

def scheme? (s : List Char) : Option (List Char × List Char) :=
  match s.dropWhile isSchemeChar with
  | ':' :: '/' :: '/' :: rest => some (s.takeWhile isSchemeChar, rest)
  | _ => none

def ofAddress? (scheme s : List Char) : Option Target := do
  let authority := s.takeWhile (!endsAuthority ·)
  if schemeLimit < scheme.length ∨ authority = [] ∨ !isAuthority authority then none
  let (path, query) ← pathAndQuery? (s.dropWhile (!endsAuthority ·))
  return ⟨some scheme, authority, if path = [] then ['/'] else path, query⟩

def ofChars? : List Char → Option Target
  | [] => none
  | ['*'] => some { path := ['*'] }
  | '/' :: rest => do
    let (path, query) ← pathAndQuery? ('/' :: rest)
    return { path, query }
  | s =>
    match scheme? s with
    | some (scheme, rest) => ofAddress? scheme rest
    | none =>
      if !s.any endsAuthority ∧ isAuthority s then some { authority := s, path := [] } else none

def isHttp (t : Target) : Bool :=
  match t.scheme with
  | none => false
  | some scheme => (String.ofList scheme).toLower = "http"

def parse? (s : String) : Option Target :=
  if lengthLimit < (Utf8.encode s.toList).length then none else ofChars? s.toList

end Target

end TierRelay.Http
