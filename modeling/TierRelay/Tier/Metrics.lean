import TierRelay.Record.Kind
import TierRelay.Role
import TierRelay.Text.Numeral

namespace TierRelay

open Text

inductive Reason
  | transport
  | refused
  | unsendable
  deriving DecidableEq, Repr

def Reason.name : Reason → String
  | transport => "transport"
  | refused => "status"
  | unsendable => "local"

inductive Observation
  | request (role : Role) (kind : RecordKind) (status : Nat)
  | duration (role : Role) (kind : RecordKind)
  | failure (role : Role) (kind : RecordKind) (reason : Reason)
  deriving DecidableEq

namespace Observation

def labelled (name : String) (labels : List (String × String)) : String :=
  name ++ "\x7b" ++
    String.intercalate "," (labels.map fun label => label.1 ++ "=\"" ++ label.2 ++ "\"") ++ "\x7d"

def series : Observation → String
  | request role kind status =>
    labelled "relay_requests_total" [("kind", kind.name),
      ("status", String.ofList (decimal status)), ("tier", role.name)]
  | duration role kind =>
    labelled "relay_request_duration_seconds_count" [("kind", kind.name), ("tier", role.name)]
  | failure role kind reason =>
    labelled "relay_downstream_failures_total" [("kind", kind.name), ("reason", reason.name),
      ("tier", role.name)]

end Observation

abbrev Metrics := List Observation

namespace Metrics

def value (m : Metrics) (o : Observation) : Nat :=
  m.count o

def lines (m : Metrics) : List String :=
  let line (o : Observation) := o.series ++ " " ++ String.ofList (decimal (m.value o))
  (m.eraseDups.map line).mergeSort fun a b => a ≤ b

end Metrics

end TierRelay
