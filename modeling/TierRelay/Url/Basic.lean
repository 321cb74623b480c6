import TierRelay.Net.Ipv6
import TierRelay.Query.Form

/-! All parts of a URL are kept as they are written, with their percent signs. -/

namespace TierRelay

open Text Net Query

namespace Url

inductive Host
  | name (text : List Char)
  | ipv4 (address : Ipv4)
  | ipv6 (address : Ipv6)
  deriving DecidableEq

def Host.text : Host → List Char
  | .name text => text
  | .ipv4 address => address.text
  | .ipv6 address => '[' :: address.text ++ [']']

def Host.isEmpty (h : Host) : Bool :=
  h = .name []

structure Authority where
  user : List Char := []
  password : Option (List Char) := none
  host : Host
  /-- `none` also for the port that the scheme implies. -/
  port : Option Nat := none
  deriving DecidableEq

def Authority.credentials (a : Authority) : List Char :=
  let password := match a.password with
    | none => []
    | some password => ':' :: password
  if a.user = [] ∧ password = [] then [] else a.user ++ password ++ ['@']

def Authority.text (a : Authority) : List Char :=
  a.credentials ++ a.host.text ++ match a.port with
    | none => []
    | some port => ':' :: decimal port

inductive Path
  | segments (s : List (List Char))
  | rootless (text : List Char)
  deriving DecidableEq

def Path.text : Path → List Char
  | .segments s => s.flatMap fun segment => '/' :: segment
  | .rootless text => text

def Path.beginsEmpty : Path → Bool
  | .segments ([] :: _ :: _) => true
  | _ => false

end Url

structure Url where
  scheme : List Char
  authority : Option Url.Authority
  path : Url.Path
  query : Option (List Char)
  fragment : Option (List Char)
  deriving DecidableEq

namespace Url

def marked (mark : Char) : Option (List Char) → List Char
  | none => []
  | some text => mark :: text

/-- A path that begins with an empty segment would be taken for an authority, so `/.` precedes it. -/
def authorityText (u : Url) : List Char :=
  match u.authority with
  | some a => '/' :: '/' :: a.text
  | none => if u.path.beginsEmpty then ['/', '.'] else []

def textChars (u : Url) : List Char :=
  u.scheme ++ ':' :: u.authorityText ++ u.path.text ++ marked '?' u.query ++ marked '#' u.fragment

def text (u : Url) : String :=
  String.ofList u.textChars

def hasHost (u : Url) : Bool :=
  match u.authority with
  | none => false
  | some a => !a.host.isEmpty

def pairs (u : Url) : Form.Pairs :=
  Form.pairs (u.query.getD [])

def appendPairs (u : Url) (pairs : Form.Pairs) : Url :=
  { u with query := some (Form.append (u.query.getD []) pairs) }

inductive Error
  | relative
  | emptyHost
  | port
  | ipv4
  | ipv6
  | domain
  | hostCharacter
  deriving DecidableEq, Repr

def Error.message : Error → String
  | .relative => "relative URL without a base"
  | .emptyHost => "empty host"
  | .port => "invalid port number"
  | .ipv4 => "invalid IPv4 address"
  | .ipv6 => "invalid IPv6 address"
  | .domain => "invalid international domain name"
  | .hostCharacter => "invalid domain character"

end Url

end TierRelay
