import TierRelay.Record.Page
import TierRelay.Tier.Basic

namespace TierRelay

open Http

structure Answer where
  response : Response
  calls : List Call := []
  events : List Event := []
  observed : List Observation := []

namespace Answer

/-- The tracing around all routes tells of every request, and of every server error once more. -/
def traced (a : Answer) : Answer :=
  let status := a.response.status
  let failure := if Status.isServerError status then [Event.responseFailed status] else []
  { a with events := .received :: a.events ++ .responded status :: failure }

@[simp] theorem traced_response (a : Answer) : a.traced.response = a.response := rfl

@[simp] theorem traced_calls (a : Answer) : a.traced.calls = a.calls := rfl

@[simp] theorem traced_observed (a : Answer) : a.traced.observed = a.observed := rfl

end Answer

namespace Tier

def requestIdHeader : String := "x-request-id"

def requestIdText (h : Headers) : String :=
  ((h.first? requestIdHeader).bind Header.text?).getD "unknown"

def version : String := "0.1.0"

def health (role : Role) : Response :=
  let body := Json.object [("status", .string "ok"), ("tier", .string role.name),
    ("version", .string version)]
  Response.json 200 (Header.ofText body.render)

def forwarded (role : Role) (network : Network) (urls : PerKind Url) (kind : RecordKind)
    (id : String) (q : Pagination) : Answer :=
  let url := (urls.get kind).appendPairs q.pairs
  let (calls, outcome) := forward network url id
  let (event, failures) := match outcome with
    | .ok page => (Event.retrieved id kind page.status page.contentType page.body.length, [])
    | .error e =>
      (match e with
        | .refused status => Event.refused id kind url.text status
        | .transport detail => Event.unreachable id kind url.text detail
        | .unsendable detail => Event.unreachable id kind url.text detail,
      [Observation.failure role kind e.reason])
  ⟨relay outcome, calls, [.requesting id url.text, event], failures⟩

def fromRecords (source : Source) (notFoundOnEmpty : List RecordKind) (kind : RecordKind)
    (id : String) (q : Pagination) : Except Fault Answer := do
  let skip ← q.rowsToSkip
  match source kind q skip with
  | .error cause =>
    return { response := Response.internalError, events := [.storeFailed id kind cause] }
  | .ok slice =>
    let page := RecordPage.ofSlice kind q skip slice
    if page.isEmpty ∧ kind ∈ notFoundOnEmpty then
      return { response := Response.ofStatus 404, events := [.nothingFound id kind] }
    match ← page.body with
    | .error cause =>
      return { response := Response.internalError, events := [.unwritten id kind cause] }
    | .ok body =>
      return { response := Response.json 200 (Header.ofText body),
               events := [.found id kind page.items.length page.total] }

def validated (t : Tier) (network : Network) (kind : RecordKind) (id : String) (q : Pagination) :
    Except Fault Answer :=
  match t.backend with
  | .next urls => .ok (forwarded t.role network urls kind id q)
  | .records source notFoundOnEmpty => fromRecords source notFoundOnEmpty kind id q

def paged (t : Tier) (network : Network) (kind : RecordKind) (id query : String) :
    Except Fault Answer := do
  let started := Event.started id t.role kind
  let answer ← match Pagination.ofQuery query with
    | .error cause =>
      pure { response := Response.plain 400 cause.message,
             events := [.rejected id t.role kind cause] }
    | .ok q => t.validated network kind id q
  return { answer with
    events := started :: answer.events
    observed := answer.observed ++
      [.request t.role kind answer.response.status, .duration t.role kind] }

def atEndpoint (t : Tier) (network : Network) (headers : Headers) (r : Request) :
    Endpoint → Except Fault Answer
  | .health => .ok { response := health t.role }
  | .paged kind => t.paged network kind (requestIdText headers) r.query

def notFound (path : List Char) : Response :=
  if path.head? = some '/' then Response.ofStatus 404 else (Response.ofStatus 404).withLength

def methodNotAllowed : Response :=
  (Response.ofStatus 405).withHeader "allow" (Header.ofText "GET,HEAD")

def routed (t : Tier) (network : Network) (headers : Headers) (r : Request) :
    Except Fault Answer := do
  match t.routes.find? r.target.path with
  | none => return { response := notFound r.target.path }
  | some endpoint =>
    if r.method = "GET" ∨ r.method = "HEAD" then
      let answer ← t.atEndpoint network headers r endpoint
      let response := answer.response.withLength
      return { answer with
        response := if r.method = "HEAD" then response.withoutBody else response }
    else return { response := methodNotAllowed.withLength }

def answer (t : Tier) (network : Network) (fresh : Bytes) (r : Request) : Except Fault Answer := do
  let id := (r.headers.first? requestIdHeader).getD fresh
  let headers := match r.headers.first? requestIdHeader with
    | some _ => r.headers
    | none => r.headers ++ [(requestIdHeader, fresh)]
  let answer ← t.routed network headers r
  return { answer with response := answer.response.withHeader requestIdHeader id }.traced

end Tier

end TierRelay
