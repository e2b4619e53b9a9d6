import NodeTelemetry.Catalog
import NodeTelemetry.Connection
import NodeTelemetry.Event
import NodeTelemetry.Kubelet.Groups
import NodeTelemetry.Kubelet.Location
import NodeTelemetry.StateMetrics.Groups
import NodeTelemetry.StateMetrics.Location

/-!
# One collection pass

A pass connects to both sources, decides the role of the node, and collects: the kubelet on every node,
kube-state-metrics only on the leader. Kube-state-metrics can fail in every way without harm to the kubelet;
without the kubelet there is no pass.

The two sources do not depend on each other. Their calls are listed one source after the other.

## Main definitions

* `PassConfig`: what a pass is told.
* `SourceReport`, `PassReport`: what became of a source and of a pass.
* `Pass.run`: a pass from the surroundings, the time and the cache.
-/

namespace NodeTelemetry

/-- What a pass is told. -/
structure PassConfig where
  /-- The name of the node on which the collector runs. -/
  nodeName : String
  clusterName : String
  /-- How long a question may stay open. -/
  timeout : Time.Span
  /-- The directory of the cache. -/
  cacheDirectory : String
  /-- For how many seconds an endpoint counts. -/
  cacheSeconds : Nat
  /-- For how many nanoseconds more it counts. -/
  cacheNanos : Nat := 0
  /-- The endpoint of the kubelet, if it is given. -/
  kubeletUrl : Option String
  /-- The endpoint of kube-state-metrics, if it is given. -/
  stateMetricsUrl : Option String
  deriving DecidableEq, Repr

/-- What a pass is told when nothing is said. -/
def PassConfig.default : PassConfig where
  nodeName := "unknown"
  clusterName := "default"
  timeout := .ofSeconds 5
  cacheDirectory := "/var/cache/kube-telemetry"
  cacheSeconds := 3600
  kubeletUrl := none
  stateMetricsUrl := none

/-- How long an endpoint counts. -/
def PassConfig.cacheTtl (c : PassConfig) : Time.Lifetime :=
  ⟨(c.cacheSeconds : Time.Lifetime).nanos + c.cacheNanos⟩

/-- Why a pass gives nothing. -/
inductive PassError where
  | kubeletDiscovery (source : DiscoveryError)
  | nothingPopulated
  deriving DecidableEq, Repr

/-- The wording of a failed pass. -/
def PassError.message : PassError → String
  | kubeletDiscovery source => "failed to locate the kubelet: " ++ source.message
  | nothingPopulated => "no data was populated from any source"

/-- What became of a source. -/
structure SourceReport where
  source : Source
  /-- Whether some metric set was added. -/
  populated : Bool
  /-- How many failures cost part of the data. -/
  errors : Nat
  /-- Why there is no data at all, if there is none. -/
  failure : Option String
  deriving DecidableEq, Repr

/-- The report of a source that failed. -/
def SourceReport.failed (source : Source) (failure : String) : SourceReport :=
  ⟨source, false, 0, some failure⟩

/-- What became of a pass. -/
structure PassReport where
  role : Role
  store : EntityStore
  sources : List SourceReport

/-- The result of a pass, the cache afterwards, and the events on the way. -/
structure PassRun where
  result : Except PassError PassReport
  cache : EndpointCache
  events : List Event

/-- What the collection of one source gives: a report, an event and the store afterwards. -/
structure Collected where
  report : SourceReport
  event : Event
  store : EntityStore

namespace Pass

/-- Populates a store from what a source gives. -/
def populateSource (source : Source) (populator : Populator) (specs : SpecGroups)
    (result : Except GroupError SourceGroups) (store : EntityStore) : Collected :=
  match result with
  | .error e => ⟨.failed source e.message, .sourceFailed source e.message, store⟩
  | .ok data =>
    let (outcome, store) := populator.populate data.groups specs store
    let errors := data.errors.length + outcome.errors.length
    ⟨⟨source, outcome.populated, errors, none⟩,
      .ofPopulation source outcome.populated errors, store⟩

/-- The event of a connection. -/
def connectionEvent (source : Source) : Except DiscoveryError SourceClient → Event
  | .ok client => .sourceDiscovered source client.endpoint.url.text client.endpoint.nodeIp
  | .error e => .sourceDiscoveryFailed source e.message

/-- The role of a node: without kube-state-metrics it is a follower. -/
def role (kubelet : SourceClient) (stateMetrics : Except DiscoveryError SourceClient) : Role :=
  match stateMetrics with
  | .ok client => .resolve kubelet.endpoint.nodeIp client.endpoint.nodeIp
  | .error _ => .follower

/-- The event of a role. -/
def roleEvent (kubelet : SourceClient) (stateMetrics : Except DiscoveryError SourceClient) : Event :=
  .roleResolved (role kubelet stateMetrics) kubelet.endpoint.nodeIp
    (stateMetrics.toOption.map fun client => client.endpoint.nodeIp)

/-- Collects kube-state-metrics into a store, if the node is the leader. -/
def collectStateMetrics (catalog : Catalog) (populator : Populator) (w : Surroundings)
    (kubelet : SourceClient) (stateMetrics : Except DiscoveryError SourceClient)
    (store : EntityStore) : Traced (Option Collected) :=
  match stateMetrics with
  | .error _ => return none
  | .ok client =>
    if (role kubelet stateMetrics).isLeader then do
      let result ← (StateMetrics.collect client w catalog.stateMetrics.queries
        catalog.stateMetrics.specs.keys).run
      return some (populateSource .stateMetrics populator catalog.stateMetrics.specs result store)
    else return none

/-- Collects the kubelet into a store. -/
def collectKubelet (catalog : Catalog) (populator : Populator) (w : Surroundings)
    (timeout : Time.Span) (kubelet : SourceClient) (store : EntityStore) : Traced Collected := do
  let result ← (Kubelet.collect kubelet w catalog.kubelet.queries timeout).run
  return populateSource .kubelet populator catalog.kubelet.specs result store

/-- The reports of the sources: the failure to find kube-state-metrics, or its collection if there
was one, and then the kubelet. -/
def reports (stateMetrics : Except DiscoveryError SourceClient) (leading : Option Collected)
    (kubelet : Collected) : List SourceReport :=
  (match stateMetrics with
    | .error e => [.failed .stateMetrics e.message]
    | .ok _ => []) ++
    (leading.map Collected.report).toList ++ [kubelet.report]

/-- The verdict on a pass: without any metric set it failed. -/
def verdict (role : Role) (sources : List SourceReport) (store : EntityStore) :
    Except PassError PassReport :=
  if sources.any SourceReport.populated then .ok ⟨role, store, sources⟩
  else .error .nothingPopulated

/-- The event at the end of a pass that did not fail. -/
def completionEvents : Except PassError PassReport → List Event
  | .ok report => [.passCompleted report.role report.store.size]
  | .error _ => []

/-- Collects both sources into an empty store: the result and the events. -/
def collect (catalog : Catalog) (config : PassConfig) (w : Surroundings) (kubelet : SourceClient)
    (stateMetrics : Except DiscoveryError SourceClient) :
    Traced (Except PassError PassReport × List Event) := do
  let populator := Catalog.populator config.clusterName
  let leading ← collectStateMetrics catalog populator w kubelet stateMetrics .empty
  let store := (leading.map Collected.store).getD .empty
  let own ← collectKubelet catalog populator w config.timeout kubelet store
  let result := verdict (role kubelet stateMetrics) (reports stateMetrics leading own) own.store
  let events := (leading.map Collected.event).toList ++ [own.event] ++ completionEvents result
  return (result, events)

/-- How the kubelet is found in a pass. -/
def kubeletLocator (config : PassConfig) : Locator :=
  Kubelet.locator config.nodeName config.kubeletUrl

/-- How kube-state-metrics is found in a pass. -/
def stateMetricsLocator (config : PassConfig) : Locator :=
  StateMetrics.locator config.stateMetricsUrl

/-- A pass at a time, with a cache. Both sources are connected to in any case. -/
def run (catalog : Catalog) (config : PassConfig) (w : Surroundings) (now : Time.Instant)
    (cache : EndpointCache) : Traced PassRun := do
  let timing : Timing := ⟨config.timeout, config.cacheTtl, now⟩
  let kubelet ← (kubeletLocator config).connect w timing cache
  let stateMetrics ← (stateMetricsLocator config).connect w timing kubelet.cache
  let found := connectionEvent .kubelet kubelet.client
  match kubelet.client with
  | .error e => return ⟨.error (.kubeletDiscovery e), stateMetrics.cache, [found]⟩
  | .ok client =>
    let (result, events) ← collect catalog config w client stateMetrics.client
    let connected := [found, connectionEvent .stateMetrics stateMetrics.client,
      roleEvent client stateMetrics.client]
    return ⟨result, stateMetrics.cache, connected ++ events⟩

/-- Why a pass can not be started. -/
inductive StartError where
  /-- There is nobody to ask about the cluster. -/
  | noClient
  deriving DecidableEq, Repr

/-- The wording of a pass that can not be started. -/
def StartError.message : StartError → String
  | noClient => "Kubernetes client is required"

/-- A pass in surroundings that have to be given. -/
def start (catalog : Catalog) (config : PassConfig) (w : Option Surroundings)
    (now : Time.Instant) (cache : EndpointCache) : Except StartError (Traced PassRun) :=
  match w with
  | some w => .ok (run catalog config w now cache)
  | none => .error .noClient

end Pass

end NodeTelemetry
