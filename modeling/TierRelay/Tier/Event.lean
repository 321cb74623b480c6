import TierRelay.Http.Header
import TierRelay.Http.Status
import TierRelay.Json.Printer
import TierRelay.Record.Seed
import TierRelay.Role

namespace TierRelay

open Http Text

inductive Level
  | trace
  | debug
  | info
  | warn
  | error
  deriving DecidableEq, Repr

def Level.name : Level → String
  | trace => "TRACE"
  | debug => "DEBUG"
  | info => "INFO"
  | warn => "WARN"
  | error => "ERROR"

structure Entry where
  level : Level
  message : String
  fields : List (String × String)
  deriving DecidableEq

inductive Event
  | received
  | started (id : String) (role : Role) (kind : RecordKind)
  | rejected (id : String) (role : Role) (kind : RecordKind) (cause : Pagination.Rejection)
  | requesting (id url : String)
  | retrieved (id : String) (kind : RecordKind) (status : Nat) (contentType : Option Bytes)
      (bytes : Nat)
  | refused (id : String) (kind : RecordKind) (url : String) (status : Nat)
  | unreachable (id : String) (kind : RecordKind) (url detail : String)
  | storeFailed (id : String) (kind : RecordKind) (cause : Store.Error)
  | nothingFound (id : String) (kind : RecordKind)
  | found (id : String) (kind : RecordKind) (returned total : Nat)
  | unwritten (id : String) (kind : RecordKind) (cause : Json.WriteError)
  | responded (status : Nat)
  | responseFailed (status : Nat)
  deriving DecidableEq

namespace Event

def escapedByte (b : UInt8) : List Char :=
  if b = 0x22 then ['\\', '"']
  else if 32 ≤ b.toNat ∧ b.toNat < 127 then [Char.ofNat b.toNat]
  else '\\' :: 'x' :: Nat.toDigits 16 b.toNat

def optionalValue : Option Bytes → String
  | none => "None"
  | some value => "Some(\"" ++ String.ofList (value.flatMap escapedByte) ++ "\")"

def number (n : Nat) : String :=
  String.ofList (decimal n)

def level : Event → Level
  | received | responded _ => .debug
  | rejected .. => .warn
  | refused .. | unreachable .. | storeFailed .. | unwritten .. | responseFailed _ => .error
  | started .. | requesting .. | retrieved .. | nothingFound .. | found .. => .info

def handlerPart : String := "paging_relay::http::handler"

def part : Event → String
  | received => "tower_http::trace::on_request"
  | responded _ => "tower_http::trace::on_response"
  | responseFailed _ => "tower_http::trace::on_failure"
  | _ => handlerPart

/-- Not of the tracing around the routes. -/
def isOwn (e : Event) : Bool :=
  "paging_relay".toList.isPrefixOf e.part.toList

def message : Event → String
  | received => "started processing request"
  | started .. => "Paged request start"
  | rejected .. => "Rejected pagination query"
  | requesting .. => "Requesting URL"
  | retrieved .. => "Downstream page retrieved"
  | refused .. => "Failed to retrieve records"
  | unreachable .. => "Exception when calling downstream tier"
  | storeFailed .. => "Failed to fetch records from the store"
  | nothingFound .. => "No records found"
  | found .. => "Records found"
  | unwritten .. => "Failed to serialize page"
  | responded _ => "finished processing request"
  | responseFailed _ => "response failed"

/-- All fields but the time that an answer has taken. -/
def fields : Event → List (String × String)
  | received => []
  | started id role kind => [("request_id", id), ("tier", role.name), ("kind", kind.name)]
  | rejected id role kind cause =>
    [("request_id", id), ("tier", role.name), ("kind", kind.name), ("error", cause.message)]
  | requesting id url => [("request_id", id), ("url", url)]
  | retrieved id kind status contentType bytes =>
    [("request_id", id), ("kind", kind.name), ("status", Status.text status),
      ("content_type", optionalValue contentType), ("bytes", number bytes)]
  | refused id kind url status =>
    [("request_id", id), ("kind", kind.name), ("url", url), ("status", Status.text status)]
  | unreachable id kind url detail =>
    [("request_id", id), ("kind", kind.name), ("url", url), ("error", detail)]
  | storeFailed id kind cause =>
    [("request_id", id), ("kind", kind.name), ("error", cause.message)]
  | nothingFound id kind => [("request_id", id), ("kind", kind.name)]
  | found id kind returned total =>
    [("request_id", id), ("kind", kind.name), ("returned", number returned),
      ("total", number total)]
  | unwritten id kind cause =>
    [("request_id", id), ("kind", kind.name), ("error", cause.message)]
  | responded status => [("status", number status)]
  | responseFailed status => [("classification", "Status code: " ++ Status.text status)]

def entry (e : Event) : Entry :=
  ⟨e.level, e.message, e.fields⟩

end Event

end TierRelay
