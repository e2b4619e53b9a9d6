import NodeTelemetry.Locator

/-!
# Where kube-state-metrics is

The service is found through the name service, and where that fails through the services with its label.
It only serves plain HTTP, so a given endpoint is brought to that scheme. The node on which it runs is
the one with the smallest address among those of its pods, so that all nodes agree on one.

## Main definitions

* `StateMetrics.servicePort?`: the port of a service that is asked for metrics.
* `StateMetrics.serviceUrl`: the URL that a list of services implies.
* `StateMetrics.smallestHostIp?`: the address of the node.
* `StateMetrics.locator`: how kube-state-metrics is found.
-/

namespace NodeTelemetry.StateMetrics

open Cluster (Selector Pod Service ServicePort)

/-- The label of the pods and services of kube-state-metrics. -/
def selector : Selector := ⟨"k8s-app", "kube-state-metrics"⟩

/-- The name of the port for metrics. -/
def portName : String := "http-metrics"

/-- The name of the service in the cluster. -/
def qualifiedName : String := "kube-state-metrics.kube-system.svc.cluster.local"

/-- The name under which the name service knows the port. -/
def srvName : String :=
  "_http-metrics._tcp.kube-state-metrics.kube-system.svc.cluster.local"

/-! ### The name service -/

/-- The URL that the records of the service imply: the first record has the port. -/
def recordUrl (records : List SrvRecord) : Except LocateError Url :=
  match records with
  | [] => .error (.noSrvRecord qualifiedName)
  | record :: _ => Locator.urlOf "http" qualifiedName record.port.toNat

/-- The URL that the name service knows. -/
def dnsUrl (w : Surroundings) (timeout : Time.Span) : Lookup LocateError Url := do
  let records ← Locator.bounded (LocateError.dns srvName) "SRV lookup" timeout (w.findSrv srvName)
  Lookup.ofExcept (recordUrl records)

/-! ### Services -/

/-- The port of a service for metrics: the one of that name, or else the first for TCP. -/
def servicePort? (ports : List ServicePort) : Option ServicePort :=
  (ports.find? fun p => p.name = some portName) <|>
    ports.find? fun p => p.protocol = some "TCP"

/-- The address and the port of a service, if it has an address and a port for metrics. -/
def serviceTarget? (service : Service) : Option (String × Int32) := do
  let spec ← service.spec
  let ip := spec.clusterIp.getD ""
  if ip = "" then none
  else (servicePort? spec.ports).map fun p => (ip, p.port)

/-- The URL that a list of services implies: the first service with an address and a port decides. -/
def serviceUrl (services : List Service) : Except LocateError Url :=
  if services.isEmpty then .error (.noService selector)
  else
    match services.findSome? serviceTarget? with
    | none => .error (.noPort selector)
    | some (ip, port) =>
      if 0 ≤ port.toInt ∧ port.toInt ≤ 65535 then Locator.urlOf "http" ip port.toInt.toNat
      else .error (.noPort selector)

/-- The URL that the services of the cluster imply. -/
def apiUrl (w : Surroundings) (timeout : Time.Span) : Lookup LocateError Url := do
  let services ←
    Locator.bounded LocateError.api "service lookup" timeout (w.findServices selector)
  Lookup.ofExcept (serviceUrl services)

/-! ### The node -/

/-- The addresses of the nodes on which pods run. -/
def hostIps (pods : List Pod) : List String :=
  pods.filterMap fun pod => (pod.status.bind fun s => s.hostIp).filter fun ip => ip ≠ ""

/-- The smallest text of a list. -/
def smallest? : List String → Option String
  | [] => none
  | s :: rest => some (rest.foldl (fun a b => if b < a then b else a) s)

/-- The smallest address of a node on which a pod runs. -/
def smallestHostIp? (pods : List Pod) : Option String :=
  smallest? (hostIps pods)

/-- The address of the node that a list of pods implies. -/
def podNode (pods : List Pod) : Except LocateError String :=
  if pods.isEmpty then .error (.noPod selector)
  else
    match smallestHostIp? pods with
    | some ip => .ok ip
    | none => .error (.noHostIp selector)

/-- The address of the node on which kube-state-metrics runs. -/
def nodeIp (w : Surroundings) (timeout : Time.Span) : Lookup LocateError String := do
  let pods ← Locator.bounded LocateError.api "pod lookup" timeout (w.findPods selector)
  Lookup.ofExcept (podNode pods)

/-! ### The search -/

/-- The strategies to find kube-state-metrics. -/
def strategies (override : Option String) : List Strategy :=
  if override.isSome then [.given] else [.dns, .services]

/-- The URL that the name service knows, or else the one that the services imply. -/
def searchUrl (w : Surroundings) (timeout : Time.Span) : Lookup DiscoveryError Url :=
  ExceptT.mk do
    match ← (dnsUrl w timeout).run with
    | .ok url => return .ok url
    | .error e =>
      match ← (apiUrl w timeout).run with
      | .ok url => return .ok url
      | .error e' => return .error (.exhausted [(.dns, e), (.services, e')])

/-- The URL for plain HTTP. -/
def overPlainHttp (url : Url) : Except LocateError Url :=
  if url.scheme = "http" then .ok url
  else
    match url.withScheme "http" with
    | some url => .ok url
    | none => .error (.unusableScheme url.text)

/-- How kube-state-metrics is found. An empty text gives no endpoint. -/
def locator (url : Option String) : Locator where
  source := .stateMetrics
  hasOverride := (Locator.given? url).isSome
  strategies := strategies (Locator.given? url)
  locate w timeout := do
    let url ←
      match Locator.given? url with
      | some url => Lookup.ofExcept ((Locator.ofText url).mapError DiscoveryError.step)
      | none => searchUrl w timeout
    let url ← Lookup.ofExcept ((overPlainHttp url).mapError DiscoveryError.step)
    let ip ← (nodeIp w timeout).mapError DiscoveryError.step
    return ⟨url, ip, .none⟩

end NodeTelemetry.StateMetrics
