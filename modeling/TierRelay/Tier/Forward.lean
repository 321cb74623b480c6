import TierRelay.Http.Network
import TierRelay.Tier.Metrics
import TierRelay.Url.Parse

namespace TierRelay

open Http

structure Retrieved where
  status : Nat
  contentType : Option Bytes
  body : Bytes

inductive ForwardError
  | transport (detail : String)
  | refused (status : Nat)
  | unsendable (detail : String)
  deriving DecidableEq

namespace ForwardError

def reason : ForwardError → Reason
  | transport _ => .transport
  | refused _ => .refused
  | unsendable _ => .unsendable

def message : ForwardError → String
  | transport detail => "transport error: " ++ detail
  | refused status => "downstream returned " ++ Status.text status
  | unsendable detail => "local error: " ++ detail

end ForwardError

def Exchange.retrieved : Exchange → Except ForwardError Retrieved
  | .failed detail => .error (.transport detail)
  | .answered r complete =>
    if !Status.isSuccess r.status then .error (.refused r.status)
    else if complete then .ok ⟨r.status, r.headers.first? "content-type", r.body⟩
    else .error (.transport "error reading a body from connection")

namespace Forward

/-- An id that no header can hold is not sent. -/
def headers (requestId : String) : Headers :=
  let id := Header.ofText requestId
  ("accept", Header.ofText "application/json") ::
    if Header.isValue id then [("x-request-id", id)] else []

def call? (url : Url) (requestId : String) : Option Call :=
  (Target.parse? url.text).map fun target => ⟨"GET", target, headers requestId⟩

end Forward

/-- The calls made for a URL, and what comes of them. Only `http` addresses can be called. -/
def forward (network : Network) (url : Url) (requestId : String) :
    List Call × Except ForwardError Retrieved :=
  match Forward.call? url requestId with
  | none => ([], .error (.unsendable "invalid uri"))
  | some call =>
    if call.isHttp then ([call], (network call).retrieved)
    else ([], .error (.transport "client error (Connect)"))

def relay : Except ForwardError Retrieved → Response
  | .ok page => Response.json page.status page.body
  | .error (.refused status) => Response.ofStatus status
  | .error (.transport _) => Response.internalError
  | .error (.unsendable _) => Response.internalError

end TierRelay
