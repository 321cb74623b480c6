import TierRelay.Json.Value
import TierRelay.Settings.Basic

/-!
A section of a document, or the whole, is an object or the list of its members in order. What is
left out takes its default, and members of other names do not matter.
-/

namespace TierRelay.Settings

structure Format where
  /-- Whether a section given as a list may have more items than the section has members. -/
  extraItems : Bool
  /-- What may stand beside a name that is given as the one member of an object. -/
  isUnit : Json → Bool

def Format.json : Format :=
  ⟨false, fun v => match v with
    | .null => true
    | _ => false⟩

def Format.tables : Format :=
  ⟨true, fun v => match v with
    | .object [] => true
    | .array [] => true
    | _ => false⟩

abbrev Members := List (String × Json)

def members? (f : Format) (names : List String) : Json → Option Members
  | .object members => some members
  | .array items =>
    if f.extraItems ∨ items.length ≤ names.length then some (names.zip items) else none
  | _ => none

def member {α : Type} (members : Members) (name : String) (default : α) (read? : Json → Option α) :
    Option α :=
  match members.lookup name with
  | none => some default
  | some v => read? v

def text? : Json → Option String
  | .string s => some s
  | _ => none

def bool? : Json → Option Bool
  | .bool b => some b
  | _ => none

def optionalText? : Json → Option (Option String)
  | .null => some none
  | v => (text? v).map some

def nameIn? (f : Format) : Json → Option String
  | .string name => some name
  | .object [(name, v)] => if f.isUnit v then some name else none
  | _ => none

def role? (f : Format) (v : Json) : Option Role :=
  (nameIn? f v).bind Role.ofName?

def kind? (f : Format) (v : Json) : Option RecordKind :=
  (nameIn? f v).bind RecordKind.ofName?

def kinds? (f : Format) : Json → Option (List RecordKind)
  | .array items => items.mapM (kind? f)
  | _ => none

def Listener.ofDocument? (f : Format) (v : Json) : Option Listener := do
  let default : Listener := {}
  let m ← members? f ["bind_address"] v
  return ⟨← member m "bind_address" default.bindAddress text?⟩

def Position.ofDocument? (f : Format) (v : Json) : Option Position := do
  let default : Position := {}
  let m ← members? f ["role"] v
  return ⟨← member m "role" default.role (role? f)⟩

def downstreamOf? (f : Format) (default : PerKind String) (v : Json) :
    Option (PerKind String) := do
  let m ← members? f ["episodes_url", "profiles_url"] v
  return ⟨← member m "episodes_url" default.episodes text?,
    ← member m "profiles_url" default.profiles text?⟩

def routesOf? (f : Format) (default : PerKind String) (v : Json) : Option (PerKind String) := do
  let m ← members? f ["episodes_path", "profiles_path"] v
  return ⟨← member m "episodes_path" default.episodes text?,
    ← member m "profiles_path" default.profiles text?⟩

def Storage.ofDocument? (f : Format) (v : Json) : Option Storage := do
  let default : Storage := {}
  let m ← members? f ["seed_path", "not_found_on_empty"] v
  return ⟨← member m "seed_path" default.seedPath optionalText?,
    ← member m "not_found_on_empty" default.notFoundOnEmpty (kinds? f)⟩

def Observability.ofDocument? (f : Format) (v : Json) : Option Observability := do
  let default : Observability := {}
  let m ← members? f ["log_level", "metrics_enabled", "metrics_address"] v
  return ⟨← member m "log_level" default.logLevel text?,
    ← member m "metrics_enabled" default.metricsEnabled bool?,
    ← member m "metrics_address" default.metricsAddress text?⟩

def sections : List String :=
  ["listener", "tier", "downstream", "routes", "store", "observability"]

def ofDocument? (f : Format) (v : Json) : Option Settings := do
  let default : Settings := {}
  let m ← members? f sections v
  return ⟨← member m "listener" default.listener (Listener.ofDocument? f),
    ← member m "tier" default.position (Position.ofDocument? f),
    ← member m "downstream" default.downstream (downstreamOf? f default.downstream),
    ← member m "routes" default.routes (routesOf? f default.routes),
    ← member m "store" default.storage (Storage.ofDocument? f),
    ← member m "observability" default.observability (Observability.ofDocument? f)⟩

def textOrNull : Option String → Json
  | none => .null
  | some s => .string s

def toDocument (s : Settings) : Json :=
  .ofMembers [
    ("listener", .ofMembers [("bind_address", .string s.listener.bindAddress)]),
    ("tier", .ofMembers [("role", .string s.position.role.name)]),
    ("downstream", .ofMembers [("episodes_url", .string s.downstream.episodes),
      ("profiles_url", .string s.downstream.profiles)]),
    ("routes", .ofMembers [("episodes_path", .string s.routes.episodes),
      ("profiles_path", .string s.routes.profiles)]),
    ("store", .ofMembers [("seed_path", textOrNull s.storage.seedPath),
      ("not_found_on_empty",
        .array (s.storage.notFoundOnEmpty.map fun kind => .string kind.name))]),
    ("observability", .ofMembers [("log_level", .string s.observability.logLevel),
      ("metrics_enabled", .bool s.observability.metricsEnabled),
      ("metrics_address", .string s.observability.metricsAddress)])]

end TierRelay.Settings
