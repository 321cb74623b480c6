import TierRelay.Http.Header
import TierRelay.Text.Base64
import TierRelay.Url.Basic
import TierRelay.Text.Percent

/-!
A client does not ask for the credentials of a URL as a part of the address but shows them in a
header.
-/

namespace TierRelay.Url

open Text Http

def decoded? (s : List Char) : Option (List Char) :=
  Utf8.decode? (Percent.decode (Utf8.encode s))

/-- A user who is no text keeps the credentials where they are; a password that is none is lost. -/
def credentials? (u : Url) : Option (List Char × Option (List Char)) := do
  let authority ← u.authority
  let user ← decoded? authority.user
  let password := authority.password.bind decoded?
  if user = [] ∧ password = none then none else some (user, password)

def withoutCredentials (u : Url) : Url :=
  { u with authority := u.authority.map fun a => { a with user := [], password := none } }

def basic (user password : List Char) : String :=
  "Basic " ++ String.ofList (Base64.encode (Utf8.encode (user ++ ':' :: password)))

def addressed (u : Url) : Url × Headers :=
  match u.credentials? with
  | none => (u, [])
  | some (user, password) =>
    (u.withoutCredentials, [("authorization", Header.ofText (basic user (password.getD [])))])

def isWeb (u : Url) : Bool :=
  u.scheme = "http".toList || u.scheme = "https".toList

end TierRelay.Url
