import TierRelay.Record.Kind
import TierRelay.Role

namespace TierRelay

structure Settings.Listener where
  bindAddress : String := "0.0.0.0:8080"
  deriving DecidableEq

structure Settings.Position where
  role : Role := .business
  deriving DecidableEq

structure Settings.Storage where
  seedPath : Option String := none
  notFoundOnEmpty : List RecordKind := []
  deriving DecidableEq

structure Settings.Observability where
  logLevel : String := "info"
  metricsEnabled : Bool := false
  metricsAddress : String := "0.0.0.0:9090"
  deriving DecidableEq

structure Settings where
  listener : Settings.Listener := {}
  position : Settings.Position := {}
  downstream : PerKind String := ⟨"", ""⟩
  routes : PerKind String := ⟨"/api/episodes", "/api/profiles"⟩
  storage : Settings.Storage := {}
  observability : Settings.Observability := {}
  deriving DecidableEq

namespace Settings

def role (s : Settings) : Role :=
  s.position.role

def bindAddress (s : Settings) : String :=
  s.listener.bindAddress

def withRole (s : Settings) (role : Role) : Settings :=
  { s with position := ⟨role⟩ }

def withBindAddress (s : Settings) (address : String) : Settings :=
  { s with listener := ⟨address⟩ }

end Settings

end TierRelay
