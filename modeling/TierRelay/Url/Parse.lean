import TierRelay.Url.Host

namespace TierRelay.Url

open TierRelay.Text

inductive SchemeKind
  | file
  | special (port : Nat)
  | other
  deriving DecidableEq

namespace SchemeKind

def ofScheme (scheme : List Char) : SchemeKind :=
  match String.ofList scheme with
  | "file" => .file
  | "http" | "ws" => .special 80
  | "https" | "wss" => .special 443
  | "ftp" => .special 21
  | _ => .other

def hasBackslash : SchemeKind → Bool
  | .other => false
  | _ => true

def isSlash (k : SchemeKind) (c : Char) : Bool :=
  c = '/' || (k.hasBackslash && c = '\\')

def endsAuthority (k : SchemeKind) (c : Char) : Bool :=
  k.isSlash c || c = '?' || c = '#'

end SchemeKind

def cleaned (s : List Char) : List Char :=
  let outer (c : Char) : Bool := c.toNat ≤ 0x20
  ((s.dropWhile outer).reverse.dropWhile outer).reverse.filter (· ∉ ['\t', '\n', '\r'])

def isSchemeChar (c : Char) : Bool :=
  c.isAlphanum || c = '+' || c = '-' || c = '.'

def scheme? : List Char → Option (List Char × List Char)
  | [] => none
  | c :: s =>
    if c.isAlpha then
      match s.dropWhile isSchemeChar with
      | ':' :: rest => some ((c :: s.takeWhile isSchemeChar).map Char.toLower, rest)
      | _ => none
    else none

def isDriveLetter : List Char → Bool
  | [c, mark] => c.isAlpha && (mark = ':' || mark = '|')
  | _ => false

def dotCount? (segment : List Char) : Option Nat :=
  match (String.ofList segment).toLower with
  | "." | "%2e" => some 1
  | ".." | ".%2e" | "%2e." | "%2e%2e" => some 2
  | _ => none

def parent (k : SchemeKind) (reversed : List (List Char)) : List (List Char) :=
  match k, reversed with
  | .file, [only] => if isDriveLetter only then [only] else []
  | _, _ => reversed.tail

def written (k : SchemeKind) (reversed : List (List Char)) (segment : List Char) : List Char :=
  match k, reversed, segment with
  | .file, [], [c, '|'] => if c.isAlpha then [c, ':'] else [c, '|']
  | _, _, _ => segment

/-- Segments of dots name the same place or the place above; `reversed` holds the segments before,
the last first. A path that ends in dots ends in a slash. -/
def resolve (k : SchemeKind) (reversed : List (List Char)) : List (List Char) → List (List Char)
  | [] => reversed.reverse
  | segment :: rest =>
    let segment := Percent.encode Written.inPath segment
    match dotCount? segment with
    | none => resolve k (written k reversed segment :: reversed) rest
    | some dots =>
      let reversed := if dots = 2 then parent k reversed else reversed
      resolve k (if rest = [] then [] :: reversed else reversed) rest

def segments (k : SchemeKind) (s : List Char) : List (List Char) :=
  let slashes := s.map fun c => if k.isSlash c then '/' else c
  let resolved := resolve k [] (parts '/' slashes)
  match k with
  | .file =>
    match resolved.dropWhile (· = []) with
    | [] => [[]]
    | filled => filled
  | _ => resolved

def beginsPath (c : Char) : Bool :=
  c ≠ '?' && c ≠ '#'

def queryAndFragment (k : SchemeKind) (s : List Char) : Option (List Char) × Option (List Char) :=
  let keep := if k.hasBackslash then Written.inSpecialQuery else Written.inQuery
  let query := match before '#' s with
    | '?' :: query => some (Percent.encode keep query)
    | _ => none
  (query, (after? '#' s).map (Percent.encode Written.inFragment))

def assemble (k : SchemeKind) (scheme : List Char) (authority : Option Authority) (path : Path)
    (s : List Char) : Url :=
  let (query, fragment) := queryAndFragment k s
  ⟨scheme, authority, path, query, fragment⟩

def cutAtLast? (separator : Char) (s : List Char) : Option (List Char × List Char) :=
  let after := (s.reverse.takeWhile (· ≠ separator)).reverse
  if after.length < s.length then some (s.take (s.length - after.length - 1), after) else none

def hostLength (inside : Bool) : List Char → Nat
  | [] => 0
  | c :: rest =>
    if c = ':' ∧ !inside then 0
    else 1 + hostLength (if c = '[' then true else if c = ']' then false else inside) rest

def portAndRest (k : SchemeKind) : List Char → Except Error (Option Nat × List Char)
  | ':' :: s =>
    let digits := s.takeWhile Char.isDigit
    let rest := s.dropWhile Char.isDigit
    if UInt16.size ≤ decimalValue digits ∨ (rest ≠ [] ∧ rest.head? ≠ some '\\') then .error .port
    else if digits = [] ∨ k = .special (decimalValue digits) then .ok (none, rest)
    else .ok (some (decimalValue digits), rest)
  | s => .ok (none, s)

def Authority.parse (k : SchemeKind) (s next : List Char) : Except Error (Authority × List Char) := do
  let (credentials, place) := (cutAtLast? '@' s).getD ([], s)
  if s = ['@'] ∧ next ≠ [] then throw .emptyHost
  let encode := Percent.encode Written.inCredentials
  let user := encode (before ':' credentials)
  let password := match after? ':' credentials with
    | none | some [] => none
    | some password => some (encode password)
  let hostText := place.take (hostLength false place)
  let portText := place.drop (hostLength false place)
  let host ←
    if k = .other then Host.parseName hostText
    else if hostText = [] then .error .emptyHost
    else Host.parse hostText
  if host.isEmpty ∧ portText ≠ [] then throw .emptyHost
  let (port, rest) ← portAndRest k portText
  let authority : Authority := ⟨user, password, host, port⟩
  if host.isEmpty ∧ authority.credentials ≠ [] then throw .emptyHost
  return (authority, rest)

def withAuthority (k : SchemeKind) (scheme s : List Char) : Except Error Url := do
  let next := s.dropWhile (!k.endsAuthority ·)
  let (authority, rest) ← Authority.parse k (s.takeWhile (!k.endsAuthority ·)) next
  let s := rest ++ next
  let pathText := s.takeWhile beginsPath
  let path := match pathText with
    | [] => if k = .other then [] else [[]]
    | c :: rest => segments k (if k.isSlash c then rest else c :: rest)
  return assemble k scheme (some authority) (.segments path) (s.dropWhile beginsPath)

def fileHost (s : List Char) : Except Error Host :=
  match s with
  | [] => .ok (.name [])
  | s => do
    let host ← Host.parse s
    return if host = .name "localhost".toList then .name [] else host

def ofFile (scheme s : List Char) : Except Error Url := do
  let k := SchemeKind.file
  let isSlash := k.isSlash
  let hostText := match s with
    | a :: b :: rest =>
      if isSlash a ∧ isSlash b then
        let host := rest.takeWhile (!k.endsAuthority ·)
        if isDriveLetter host then [] else host
      else []
    | _ => []
  let host ← fileHost hostText
  let s := if hostText = [] then s else s.drop (2 + hostText.length)
  let path := segments k ((s.takeWhile beginsPath).dropWhile isSlash)
  let host := match path with
    | first :: _ => if isDriveLetter first then .name [] else host
    | [] => host
  return assemble k scheme (some { host }) (.segments path) (s.dropWhile beginsPath)

def ofOther (scheme s : List Char) : Except Error Url :=
  match s with
  | '/' :: '/' :: rest => withAuthority .other scheme rest
  | s =>
    let pathText := s.takeWhile beginsPath
    let path := match pathText with
      | '/' :: rest => Path.segments (segments .other rest)
      | text => .rootless (Percent.encode Written.inName text)
    .ok (assemble .other scheme none path (s.dropWhile beginsPath))

def parse (s : String) : Except Error Url :=
  match scheme? (cleaned s.toList) with
  | none => .error .relative
  | some (scheme, rest) =>
    match SchemeKind.ofScheme scheme with
    | .file => ofFile scheme rest
    | .other => ofOther scheme rest
    | .special port =>
      withAuthority (.special port) scheme (rest.dropWhile (SchemeKind.special port).isSlash)

end TierRelay.Url
