import TierRelay.Command.Report
import TierRelay.Http.RequestId
import TierRelay.Http.Wire
import TierRelay.Startup

/-!
The two programs. A tier reads requests from standard input and writes the responses to standard
output; neither program opens connections of its own.
-/

namespace TierRelay.Main

def readFile (path : String) : IO File := do
  try
    let bytes ← IO.FS.readBinFile path
    return .content bytes.toList
  catch
    | .noFileOrDirectory .. => return .missing
    | _ => return .directory

def readFiles (arguments : List String) : IO (String → File) := do
  match Command.RelayArguments.parse arguments with
  | .error _ => return fun _ => .missing
  | .ok a =>
    let config ← match a.config with
      | none => pure File.missing
      | some path => readFile path
    match Startup.effective a fun _ => config with
    | .error _ => return fun _ => config
    | .ok s =>
      let seed ← match s.storage.seedPath with
        | none => pure File.missing
        | some path => readFile path
      return fun path => if s.storage.seedPath = some path then seed else config

partial def readHead (input : IO.FS.Stream) : IO (List String) := do
  let line ← input.getLine
  let text := line.trimAsciiEnd.toString
  if text.isEmpty then return []
  return text :: (← readHead input)

def respond (t : Tier) (filter : Log.Filter) (head : List String) : IO Http.Response := do
  let random ← IO.rand 0 (1 <<< 122 - 1)
  match Http.Request.ofHead? head with
  | none => return Http.Response.ofStatus 400
  | some r =>
    match t.answer Network.unreachable (Http.RequestId.ofRandom random) r with
    | .error _ => return Http.Response.internalError
    | .ok answer =>
      for e in answer.events do
        if filter.keeps e.part e.level then IO.eprintln e.entry.text
      return answer.response

partial def serve (t : Tier) (filter : Log.Filter) (input output : IO.FS.Stream) : IO Unit := do
  match ← readHead input with
  | [] => return
  | head =>
    let response ← respond t filter head
    output.write ⟨response.written.toArray⟩
    output.flush
    serve t filter input output

def runTier (arguments : List String) : IO UInt32 := do
  let files ← readFiles arguments
  let logFilter ← IO.getEnv "RUST_LOG"
  let outcome := Startup.start arguments { files, isFree := fun _ => true, logFilter }
  for line in outcome.lines do
    IO.eprintln line.entry.text
  match outcome.result with
  | .error failure =>
    IO.eprintln failure.message
    return UInt32.ofNat failure.exitCode
  | .ok (settings, tier) =>
    let filter := Log.Filter.choose logFilter settings.observability.logLevel
    serve tier filter (← IO.getStdin) (← IO.getStdout)
    return 0

def runQuery (arguments : List String) : IO UInt32 := do
  let report := Command.Report.ofArguments Network.unreachable arguments
  IO.print report.out
  IO.eprint report.err
  return UInt32.ofNat report.exit

end TierRelay.Main

def main (arguments : List String) : IO UInt32 := do
  if (← IO.appPath).fileStem = some "pager-cli" then TierRelay.Main.runQuery arguments
  else TierRelay.Main.runTier arguments
