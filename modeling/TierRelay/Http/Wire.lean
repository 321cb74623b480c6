import TierRelay.Http.Message
import TierRelay.Text.Blank

namespace TierRelay.Http

open TierRelay.Text

namespace Request

def headerOfLine? (line : List Char) : Option (String × Bytes) := do
  let value ← after? ':' line
  let name := String.ofList (before ':' line)
  let value := Utf8.encode (trim value)
  if Header.isName name ∧ Header.isValue value then return (name.toLower, value) else none

def ofHead? : List String → Option Request
  | [] => none
  | first :: lines =>
    match parts ' ' first.toList with
    | [method, target, version] => do
      let target ← Target.parse? (String.ofList target)
      let headers ← lines.mapM fun line => headerOfLine? line.toList
      let method := String.ofList method
      if Header.isToken method ∧ "HTTP/1.".toList.isPrefixOf version then
        return { method, target, headers }
      else none
    | _ => none

end Request

namespace Response

def lineEnd : List Char := ['\r', '\n']

def headerLine (header : String × Bytes) : Bytes :=
  Utf8.encode (header.1.toList ++ [':', ' ']) ++ header.2 ++ Utf8.encode lineEnd

def written (r : Response) : Bytes :=
  Utf8.encode ("HTTP/1.1 ".toList ++ (Status.text r.status).toList ++ lineEnd) ++
    (r.headers ++ [("connection", Header.ofText "close")]).flatMap headerLine ++
    Utf8.encode lineEnd ++ r.body

end Response

end TierRelay.Http
