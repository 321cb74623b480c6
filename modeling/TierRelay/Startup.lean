import TierRelay.Command.Relay
import TierRelay.Log.Filter
import TierRelay.Settings.Load
import TierRelay.Tier.Answer

namespace TierRelay

open Command Net

namespace Net

def Ipv6.hostText (a : Ipv6) : List Char :=
  match a.groups with
  | [0, 0, 0, 0, 0, 0xFFFF, high, low] =>
    "::ffff:".toList ++ (Ipv4.ofBytes (high / 256) (high % 256) (low / 256) (low % 256)).text
  | _ => a.text

def SocketAddress.text : SocketAddress → List Char
  | .v4 address port => address.text ++ ':' :: Text.decimal port.toNat
  | .v6 address scope port =>
    let scope := if scope = 0 then [] else '%' :: Text.decimal scope.toNat
    '[' :: address.hostText ++ scope ++ ']' :: ':' :: Text.decimal port.toNat

end Net

namespace Startup

structure Surroundings where
  files : String → File
  isFree : String → Bool
  logFilter : Option String := none

inductive Failure
  | arguments (stop : Stop)
  | settings (cause : Settings.LoadError)
  | address
  | setup (cause : Tier.SetupError)
  deriving DecidableEq

def Failure.exitCode : Failure → Nat
  | .arguments .help => 0
  | .arguments .badArguments => 2
  | .setup .routes => 101
  | _ => 1

def Failure.message : Failure → String
  | .arguments .help => "Usage: paging-relay [--config FILE] [--role ROLE] [--bind ADDRESS]"
  | .arguments .badArguments => "error: invalid arguments"
  | .settings cause => "Error: " ++ cause.message
  | .address => "Error: address not available"
  | .setup cause => "Error: " ++ cause.message

def loaded (a : RelayArguments) (files : String → File) : Except Settings.LoadError Settings :=
  match a.config with
  | none => .ok {}
  | some path => Settings.load (files path)

def overridden (a : RelayArguments) (s : Settings) : Settings :=
  let s := match a.role with
    | none => s
    | some role => s.withRole role
  match a.bind with
  | none => s
  | some address => s.withBindAddress address

def effective (a : RelayArguments) (files : String → File) : Except Settings.LoadError Settings := do
  let s ← loaded a files
  (overridden a s).validate

structure Line where
  part : String
  entry : Entry

def mainPart : String := "paging_relay"

def metricsPart : String := "paging_relay::observability::metrics"

def storePart : String := "paging_relay::store::memory"

def serverPart : String := "paging_relay::http::server"

def greeting (s : Settings) : List Line :=
  [⟨mainPart, ⟨.info, "paging-relay v" ++ Tier.version ++ " starting", []⟩⟩,
    ⟨mainPart, ⟨.info, "Configuration loaded",
      [("tier", s.role.name), ("bind_address", s.bindAddress),
        ("episodes_url", s.downstream.episodes), ("profiles_url", s.downstream.profiles)]⟩⟩]

def metricsLines (s : Settings) (isFree : String → Bool) : List Line :=
  if !s.observability.metricsEnabled then []
  else match SocketAddress.parse? s.observability.metricsAddress with
    | none =>
      [⟨mainPart, ⟨.error, "Failed to parse metrics address",
        [("metrics_address", s.observability.metricsAddress)]⟩⟩]
    | some address =>
      let text := String.ofList address.text
      if isFree text then
        [⟨metricsPart, ⟨.info, "Metrics exporter listening", [("address", text)]⟩⟩]
      else
        [⟨metricsPart, ⟨.error, "Failed to install metrics exporter",
          [("address", text), ("error", "Address already in use")]⟩⟩]

def setupPart (e : Entry) : String :=
  if e = Tier.withoutSeed then serverPart else storePart

structure Outcome where
  lines : List Line := []
  result : Except Failure (Settings × Tier)

def begun (s : Settings) (around : Surroundings) : Outcome :=
  if !around.isFree s.bindAddress then ⟨greeting s, .error .address⟩
  else
    let (entries, tier) := Tier.setup s around.files
    let lines := greeting s ++ metricsLines s around.isFree ++
      entries.map fun e => ⟨setupPart e, e⟩
    match tier with
    | .error cause => ⟨lines, .error (.setup cause)⟩
    | .ok tier => ⟨lines, .ok (s, tier)⟩

def start (arguments : List String) (around : Surroundings) : Outcome :=
  match RelayArguments.parse arguments with
  | .error stop => { result := .error (.arguments stop) }
  | .ok a =>
    match effective a around.files with
    | .error cause => { result := .error (.settings cause) }
    | .ok s =>
      let outcome := begun s around
      let filter := Log.Filter.choose around.logFilter s.observability.logLevel
      { outcome with
        lines := outcome.lines.filter fun line => filter.keeps line.part line.entry.level }

end Startup

def Entry.text (e : Entry) : String :=
  e.level.name ++ " " ++ e.message ++
    String.join (e.fields.map fun (name, value) => " " ++ name ++ "=" ++ value)

end TierRelay
