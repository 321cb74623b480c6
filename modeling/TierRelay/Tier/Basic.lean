import TierRelay.Routes
import TierRelay.Settings.Basic
import TierRelay.Tier.Event
import TierRelay.Tier.Forward

namespace TierRelay

abbrev Source := RecordKind → Pagination → UInt64 → Except Store.Error Store.Slice

def Store.source (s : Store) : Source :=
  fun kind q skip => .ok (s.fetch kind q skip)

def Source.failing (text : String) : Source :=
  fun _ _ _ => .error (.unavailable text)

inductive Backend
  | next (urls : PerKind Url)
  | records (source : Source) (notFoundOnEmpty : List RecordKind)

structure Tier where
  role : Role
  routes : Routes
  backend : Backend

namespace Tier

inductive SetupError
  | downstream (kind : RecordKind) (cause : Url.Error)
  | store (cause : Store.Error)
  | routes
  deriving DecidableEq

def SetupError.message : SetupError → String
  | .downstream kind cause => "invalid downstream url for " ++ kind.name ++ ": " ++ cause.message
  | .store cause => "failed to initialize record store: " ++ cause.message
  | .routes => "invalid routes"

def withoutSeed : Entry :=
  ⟨.warn, "No seed file configured, data tier starts empty", []⟩

def seeded (path : String) (s : Store) : Entry :=
  ⟨.info, "Loaded seed records",
    [("path", path), ("episodes", Event.number (s.length .episodes)),
      ("profiles", Event.number (s.length .profiles))]⟩

def withBackend (s : Settings) (backend : Backend) : Except SetupError Tier :=
  match Routes.ofPaths? s.routes with
  | none => .error .routes
  | some routes => .ok ⟨s.role, routes, backend⟩

def withSource (s : Settings) (source : Source) : Except SetupError Tier :=
  withBackend s (.records source s.storage.notFoundOnEmpty)

def nextBackend (s : Settings) : Except SetupError Backend :=
  match Url.parse s.downstream.episodes, Url.parse s.downstream.profiles with
  | .error cause, _ => .error (.downstream .episodes cause)
  | .ok _, .error cause => .error (.downstream .profiles cause)
  | .ok episodes, .ok profiles => .ok (.next ⟨episodes, profiles⟩)

def initialStore (s : Settings) (files : String → File) : Except SetupError (Entry × Store) :=
  match s.storage.seedPath with
  | none => .ok (withoutSeed, Store.empty)
  | some path =>
    match Store.load (files path) with
    | .error cause => .error (.store cause)
    | .ok store => .ok (seeded path store, store)

def setup (s : Settings) (files : String → File) : List Entry × Except SetupError Tier :=
  if s.role.forwards then ([], (nextBackend s).bind (withBackend s))
  else match initialStore s files with
    | .error cause => ([], .error cause)
    | .ok (entry, store) => ([entry], withSource s store.source)

end Tier

end TierRelay
