import NodeTelemetry.Endpoint
import NodeTelemetry.Json.Parser
import NodeTelemetry.Json.Printer
import NodeTelemetry.Sha256
import NodeTelemetry.TextMap
import NodeTelemetry.Time.Rfc3339
import NodeTelemetry.Time.Span

/-!
# The cache of endpoints

Located endpoints are kept in a directory, one file for each source, with the time at which they were written.
An entry counts for a limited time; a file that can not be read is no entry. An entry is written under another name
first and takes its place when it is complete.

## Main definitions

* `CacheEntry.text`, `CacheEntry.read?`: the written form of an entry.
* `EndpointCache`: the directory.
* `EndpointCache.live?`: the endpoint that still counts.
* `EndpointCache.write`: the directory with a new entry.
* `EndpointCache.writeSteps`: how the file of an entry is written.
-/

namespace NodeTelemetry

/-- An endpoint with the time at which it was written. -/
structure CacheEntry where
  endpoint : Endpoint
  writtenAt : Time.Instant
  deriving DecidableEq, Repr

namespace CacheEntry

/-- The document of an entry. -/
def json (e : CacheEntry) : Json :=
  .obj [("endpoint", e.endpoint.json), ("written_at", .str (e.writtenAt.text "Z"))]

/-- The written form of an entry. -/
def text (e : CacheEntry) : String := e.json.text

/-- Reads the document of an entry. -/
def ofJson? (j : Json) : Option CacheEntry :=
  match j.strictRecord ["endpoint", "written_at"] 2 with
  | some [endpoint, time] => do
    some ⟨← Json.required Endpoint.read? endpoint,
      ← Json.required (fun j => j.asText?.bind Time.Instant.read?) time⟩
  | _ => none

/-- Reads the written form of an entry. -/
def read? (s : String) : Option CacheEntry :=
  (Json.read? s.toList).bind ofJson?

/-- Whether an entry still counts at a time, to the nanosecond. An entry from the future counts. -/
def isLive (e : CacheEntry) (ttl : Time.Lifetime) (now : Time.Instant) : Bool :=
  now.since e.writtenAt ≤ ttl.nanos

end CacheEntry

/-- What stands at the place of a file. -/
inductive CacheSlot where
  | absent
  | file (content : String)
  /-- Something that can be neither read nor replaced. -/
  | obstructed
  deriving DecidableEq, Repr

/-- The directory of entries. -/
inductive EndpointCache where
  /-- There is no directory yet. -/
  | missing
  /-- Something else stands at the place of the directory. -/
  | obstructed
  | directory (writable : Bool) (kubelet stateMetrics : CacheSlot)
  deriving DecidableEq, Repr

/-- Why an entry can not be written. -/
inductive CacheError where
  /-- The directory can not be made. -/
  | createDirectory
  /-- The file can not be written. -/
  | write
  deriving DecidableEq, Repr

/-- One step of writing a file. -/
inductive FileStep where
  /-- A file with a content is made, or made anew. -/
  | create (name content : String)
  /-- A file gets another name, and replaces the file that had it. -/
  | rename (name target : String)
  deriving DecidableEq, Repr

namespace EndpointCache

/-- The name of the file of a source. -/
def fileName (source : Source) : String :=
  Sha256.hexText source.name.toUTF8.toList

/-- What stands at the place of the file of a source. -/
def slot : EndpointCache → Source → CacheSlot
  | directory _ kubelet _, .kubelet => kubelet
  | directory _ _ stateMetrics, .stateMetrics => stateMetrics
  | _, _ => .absent

/-- The directory with something else at the place of the file of a source. It is made if it is missing. -/
def setSlot : EndpointCache → Source → CacheSlot → EndpointCache
  | directory w _ stateMetrics, .kubelet, slot => directory w slot stateMetrics
  | directory w kubelet _, .stateMetrics, slot => directory w kubelet slot
  | missing, .kubelet, slot => directory true slot .absent
  | missing, .stateMetrics, slot => directory true .absent slot
  | obstructed, _, _ => obstructed

/-- The names of all files, in ascending order. -/
def files (c : EndpointCache) : List String :=
  let present := [Source.kubelet, .stateMetrics].filter fun source => c.slot source ≠ .absent
  TextMap.distinct (present.map fileName)

/-- The content of the file of a source. -/
def content? (c : EndpointCache) (source : Source) : Option String :=
  match c.slot source with
  | .file content => some content
  | _ => none

/-- The entry of a source, of any age. -/
def entry? (c : EndpointCache) (source : Source) : Option CacheEntry :=
  (c.content? source).bind CacheEntry.read?

/-- The endpoint of a source that still counts. -/
def live? (c : EndpointCache) (ttl : Time.Lifetime) (now : Time.Instant) (source : Source) : Option Endpoint :=
  ((c.entry? source).filter fun e => e.isLive ttl now).map CacheEntry.endpoint

/-- The directory with a new entry for a source. -/
def write (c : EndpointCache) (source : Source) (e : CacheEntry) :
    Except CacheError EndpointCache :=
  match c with
  | obstructed => .error .createDirectory
  | directory false _ _ => .error .write
  | _ =>
    match c.slot source with
    | .obstructed => .error .write
    | _ => .ok (c.setSlot source (.file e.text))

/-- The directory after a new entry for a source, if it can be written. -/
def keep (c : EndpointCache) (source : Source) (e : CacheEntry) : EndpointCache :=
  match c.write source e with
  | .ok after => after
  | .error _ => c

/-- The directory whose files are given by their names. -/
def ofFiles (files : String → CacheSlot) : EndpointCache :=
  directory true (files (fileName .kubelet)) (files (fileName .stateMetrics))

/-- The name under which a process writes the file of a source until it is complete. -/
def temporaryName (source : Source) (process : Nat) : String :=
  fileName source ++ "." ++ toString process ++ ".tmp"

/-- How a process writes the file of a source. -/
def writeSteps (source : Source) (process : Nat) (content : String) : List FileStep :=
  [.create (temporaryName source process) content,
    .rename (temporaryName source process) (fileName source)]

end EndpointCache

end NodeTelemetry
