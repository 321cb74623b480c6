import TierRelay.Net.SocketAddress
import TierRelay.Settings.Basic
import TierRelay.Url.Parse

namespace TierRelay.Settings

inductive Issue
  | bindAddress (text : String)
  | downstreamMissing (kind : RecordKind) (role : Role)
  | downstreamNotHttp (kind : RecordKind)
  | downstreamUnreadable (kind : RecordKind) (cause : Url.Error)
  | pathNotRooted (kind : RecordKind)
  | pathsEqual
  | metricsAddress (text : String)
  deriving DecidableEq

namespace Issue

def field : Issue → String
  | bindAddress _ => "listener.bind_address"
  | downstreamMissing kind _ => "downstream." ++ kind.name ++ "_url"
  | downstreamNotHttp kind => "downstream." ++ kind.name ++ "_url"
  | downstreamUnreadable kind _ => "downstream." ++ kind.name ++ "_url"
  | pathNotRooted kind => "routes." ++ kind.name ++ "_path"
  | pathsEqual => "routes.profiles_path"
  | metricsAddress _ => "observability.metrics_address"

def message : Issue → String
  | bindAddress text => "'" ++ text ++ "' is not a socket address"
  | downstreamMissing _ role => "required for the " ++ role.name ++ " tier"
  | downstreamNotHttp _ => "must be an http:// URL"
  | downstreamUnreadable _ cause => cause.message
  | pathNotRooted _ => "must start with '/'"
  | pathsEqual => "must differ from routes.episodes_path"
  | metricsAddress text => "'" ++ text ++ "' is not a socket address"

def text (i : Issue) : String :=
  i.field ++ ": " ++ i.message

end Issue

def isSocketAddress (text : String) : Bool :=
  (Net.SocketAddress.parse? text).isSome

def listenerIssues (s : Settings) : List Issue :=
  if isSocketAddress s.bindAddress then [] else [.bindAddress s.bindAddress]

def isHttp (u : Url) : Bool :=
  u.scheme = "http".toList && u.hasHost

def downstreamIssues (s : Settings) (kind : RecordKind) : List Issue :=
  let text := s.downstream.get kind
  if !s.role.forwards then []
  else if text = "" then [.downstreamMissing kind s.role]
  else match Url.parse text with
    | .error cause => [.downstreamUnreadable kind cause]
    | .ok url => if isHttp url then [] else [.downstreamNotHttp kind]

def pathIssues (s : Settings) (kind : RecordKind) : List Issue :=
  if (s.routes.get kind).toList.head? = some '/' then [] else [.pathNotRooted kind]

def equalPathIssues (s : Settings) : List Issue :=
  if s.routes.episodes = s.routes.profiles then [.pathsEqual] else []

def metricsIssues (s : Settings) : List Issue :=
  if !s.observability.metricsEnabled || isSocketAddress s.observability.metricsAddress then []
  else [.metricsAddress s.observability.metricsAddress]

def issues (s : Settings) : List Issue :=
  s.listenerIssues ++ s.downstreamIssues .episodes ++ s.downstreamIssues .profiles ++
    s.pathIssues .episodes ++ s.pathIssues .profiles ++ s.equalPathIssues ++ s.metricsIssues

end TierRelay.Settings
