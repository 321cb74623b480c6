import TierRelay.Command.Credentials
import TierRelay.Command.Query
import TierRelay.Http.Network
import TierRelay.Json.Printer
import TierRelay.Json.Raw

namespace TierRelay.Command

open Http Text

structure Report where
  exit : Nat
  out : String := ""
  err : String := ""
  deriving DecidableEq

namespace Report

def usage : String :=
  "Usage: pager-cli [--url URL] health\n" ++
    "       pager-cli [--url URL] episodes --start DATE --end DATE [--page N] [--page-size N] " ++
    "[--path PATH]\n" ++
    "       pager-cli [--url URL] profiles --start DATE --end DATE [--page N] [--page-size N] " ++
    "[--path PATH]\n"

def ofStop : Stop → Report
  | .help => ⟨0, usage, ""⟩
  | .badArguments => ⟨2, "", "error: invalid arguments\n" ++ usage⟩

def failure (detail : String) : Report :=
  ⟨1, "", "Error: " ++ detail ++ "\n"⟩

def idLine (r : Response) : String :=
  match (r.headers.first? "x-request-id").bind Header.text? with
  | none => ""
  | some id => "Request ID: " ++ id ++ "\n"

def bodyLine (body : Bytes) (complete : Bool) : String :=
  if complete ∧ body ≠ [] then "Response: " ++ String.ofList (Utf8.decodeLossy body) ++ "\n" else ""

def ofExchange : Exchange → Report
  | .failed detail => failure detail
  | .answered r complete =>
    if !Status.isSuccess r.status then
      ⟨0, "", idLine r ++ "Error: tier returned status " ++ Status.text r.status ++ "\n" ++
        bodyLine r.body complete⟩
    else
      let json? := if complete then
        (Utf8.decode? r.body).bind fun s => Json.parse? (String.ofList s) else none
      match json? with
      | none => ⟨1, "", idLine r ++ "Error: error decoding response body\n"⟩
      | some v => ⟨0, v.renderPretty ++ "\n", idLine r⟩

def call? (url : Url) : Option Call :=
  let (address, authorization) := url.addressed
  if url.hasHost ∧ url.isWeb then
    (Target.parse? address.text).map fun target =>
      ⟨"GET", target, authorization ++ [("accept", Header.ofText "*/*")]⟩
  else none

def ofUrl (network : Network) (url : Url) : Report :=
  match call? url with
  | none => failure "builder error"
  | some call => ofExchange (network call)

def ofArguments (network : Network) (arguments : List String) : Report :=
  match QueryArguments.parse arguments with
  | .error stop => ofStop stop
  | .ok a =>
    match a.url with
    | .error _ => failure "builder error"
    | .ok url => ofUrl network url

end Report

end TierRelay.Command
