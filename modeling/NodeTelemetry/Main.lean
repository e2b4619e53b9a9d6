import NodeTelemetry.Event.Log
import NodeTelemetry.Payload
import NodeTelemetry.Settings
import Std.Time.DateTime.Timestamp

/-!
# The command line

One run of the program is one pass. The settings come from the environment, the endpoints of the last pass from
the files of the cache. The document goes to the standard output and the log to the error output; the
program fails when the pass does.

The program has no way to the cluster of its own: it runs in surroundings in which nothing answers.
-/

namespace NodeTelemetry.CommandLine

/-- The version of the program. -/
def version : String := "0.1.0"

/-- The surroundings of the program. -/
def surroundings : Surroundings := .unreachable

/-- The present time. -/
def now : IO Time.Instant := do
  let t ← Std.Time.Timestamp.now
  return ⟨t.val.second.val, t.val.nano.val.toNat⟩

/-- The variables of the environment that concern the program. -/
def environment : IO (List (String × String)) := do
  let names := Settings.nodeVariable :: Settings.names.map Settings.variableName
  names.filterMapM fun name => do
    return (← IO.getEnv name).map fun value => (name, value)

/-- The place of a file. -/
def filePath (directory name : String) : String :=
  directory ++ "/" ++ name

/-- What stands at the place of the file of a source. -/
def readSlot (directory : String) (source : Source) : IO CacheSlot := do
  try
    return .file (← IO.FS.readFile (filePath directory (EndpointCache.fileName source)))
  catch _ =>
    return .absent

/-- The cache in a directory. -/
def readCache (directory : String) : IO EndpointCache :=
  return .directory true (← readSlot directory .kubelet) (← readSlot directory .stateMetrics)

/-- Performs a step of writing a file. -/
def perform (directory : String) : FileStep → IO Unit
  | .create name content => IO.FS.writeFile (filePath directory name) content
  | .rename name target => IO.FS.rename (filePath directory name) (filePath directory target)

/-- Writes the file of a source. A file that can not be written is left out. -/
def writeSlot (directory : String) (cache : EndpointCache) (source : Source) : IO Unit := do
  match cache.content? source with
  | none => return
  | some content =>
    try
      IO.FS.createDirAll directory
      (EndpointCache.writeSteps source (← now).nanos content).forM (perform directory)
    catch _ =>
      return

/-- Logs an event. -/
def log (node : String) (e : Event) : IO Unit := do
  IO.eprintln (e.line node (← now))

/-- Runs a pass with the given settings. -/
def collect (settings : Settings) : IO UInt32 := do
  let config := settings.passConfig
  log config.nodeName (.agentStarted version config.clusterName)
  let before ← readCache config.cacheDirectory
  let run := (Pass.run Catalog.standard config surroundings (← now) before).value
  run.events.forM (log config.nodeName)
  if run.cache ≠ before then
    writeSlot config.cacheDirectory run.cache .kubelet
    writeSlot config.cacheDirectory run.cache .stateMetrics
  match run.result with
  | .error e =>
    IO.eprintln ("Error: " ++ e.message)
    return 1
  | .ok report =>
    IO.print (Payload.line version report.store)
    log config.nodeName (.agentShutdown "pass completed")
    return 0

end NodeTelemetry.CommandLine

/-- Runs one pass with the settings of the environment. -/
def main : IO UInt32 := do
  match NodeTelemetry.Settings.load (← NodeTelemetry.CommandLine.environment) with
  | .error e =>
    IO.eprintln ("Error: " ++ e.message)
    return 1
  | .ok settings => NodeTelemetry.CommandLine.collect settings
