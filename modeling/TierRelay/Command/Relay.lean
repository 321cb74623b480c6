import TierRelay.Command.Arguments
import TierRelay.Role

namespace TierRelay.Command

structure RelayArguments where
  config : Option String := none
  role : Option Role := none
  bind : Option String := none
  deriving DecidableEq

namespace RelayArguments

def flags : List Flag :=
  [{ long := "config", short := some 'c', accepts := (· ≠ "") },
    { long := "role", short := some 'r', accepts := fun text => (Role.parse text).isOk },
    { long := "bind", short := some 'b' }]

def parse (arguments : List String) : Except Stop RelayArguments := do
  let parsed ← Command.parse flags [] arguments
  if parsed.rest ≠ [] then throw .badArguments
  let role := (parsed.values.lookup "role").bind fun text => (Role.parse text).toOption
  return ⟨parsed.values.lookup "config", role, parsed.values.lookup "bind"⟩

end RelayArguments

end TierRelay.Command
