import NodeTelemetry.Locator

/-!
# Where the kubelet is

The kubelet of a node is found through the object of the node: its internal address, and the port on
which it says that its kubelet listens. A given endpoint replaces the port only: the internal address
is needed in any case, as it says which node this is.

## Main definitions

* `Kubelet.internalIp`: the internal address of a node.
* `Kubelet.nodeEndpoint`: the endpoint that the object of a node implies.
* `Kubelet.locator`: how the kubelet of a node is found.
-/

namespace NodeTelemetry.Kubelet

/-- The port on which kubelets want encryption and a token. -/
def securePort : Int32 := 10250

/-- The first address of a node that is internal and not empty. -/
def internalIp (name : String) (node : Cluster.Node) : Except LocateError String :=
  match node.addresses.find? fun a => a.type == "InternalIP" && a.address ≠ "" with
  | some a => .ok a.address
  | none => .error (.noInternalIp name)

/-- The URL that the object of a node implies for an address, and how its requests authenticate. -/
def nodeEndpoint (name ip : String) (node : Cluster.Node) :
    Except LocateError (Url × EndpointAuth) :=
  match node.kubeletPort.filter fun p => 0 < p with
  | none => .error (.noKubeletPort name)
  | some port =>
    let secure := port == securePort
    let auth := if secure then EndpointAuth.serviceAccount else .none
    (Locator.urlOf (if secure then "https" else "http") ip port.toInt.toNat).map fun url =>
      (url, auth)

/-- The URL that is given, and how its requests authenticate: encrypted ones with the token. -/
def givenEndpoint (url : String) : Except LocateError (Url × EndpointAuth) :=
  (Locator.ofText url).map fun url =>
    (url, if url.scheme = "https" then .serviceAccount else .none)

/-- The strategies to find the kubelet. -/
def strategies (override : Option String) : List Strategy :=
  if override.isSome then [.given] else [.node]

/-- The URL of the kubelet and how its requests authenticate. -/
def located (name ip : String) (override : Option String) (node : Cluster.Node) :
    Except DiscoveryError (Url × EndpointAuth) :=
  match override with
  | some url => (givenEndpoint url).mapError .step
  | none => (nodeEndpoint name ip node).mapError fun e => .exhausted [(.node, e)]

/-- How the kubelet of a node is found. An empty text gives no endpoint. -/
def locator (name : String) (url : Option String) : Locator where
  source := .kubelet
  hasOverride := (Locator.given? url).isSome
  strategies := strategies (Locator.given? url)
  locate w timeout := do
    let node ← (Locator.bounded LocateError.api "node lookup" timeout (w.findNode name)).mapError
      DiscoveryError.step
    let ip ← Lookup.ofExcept ((internalIp name node).mapError .step)
    let (url, auth) ← Lookup.ofExcept (located name ip (Locator.given? url) node)
    return ⟨url, ip, auth⟩

end NodeTelemetry.Kubelet
