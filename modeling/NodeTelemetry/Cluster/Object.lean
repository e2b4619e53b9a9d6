import NodeTelemetry.Json.Record
import NodeTelemetry.TextMap
import NodeTelemetry.Time.Rfc3339

/-!
# Objects of the cluster

Nodes, pods and services as the API of the cluster describes them, with the parts that the collector looks
at. Each object is read from JSON as an open record: every part may be missing, and what is there has
to be of its kind.

Two things are not looked at, and so may be of any kind: members of an object that the collector has no use for, such as
annotations, and all but the last of several members of one name. Decoders that know all members of an object
refuse it for these too. What is said of documents here is meant for those in which they are of their kinds.
-/

namespace NodeTelemetry.Cluster

open Json (asText? asBool? asInt32? asFields? asListOf? asPairsOf? field? fieldD)

/-- Who created an object. -/
structure Owner where
  kind : String
  name : String
  deriving Repr

/-- What every object says about itself. -/
structure Metadata where
  name : Option String
  space : Option String
  labels : TextMap String
  owners : List Owner
  created : Option Time.Instant
  deriving Repr

/-- The amounts of resources by name, as they are written. -/
abbrev Resources := TextMap String

/-- A container as a pod asks for it. -/
structure Container where
  name : String
  image : Option String
  requests : Resources
  limits : Resources
  deriving Repr

/-- What a pod asks for. -/
structure PodSpec where
  nodeName : Option String
  containers : List Container
  deriving Repr

/-- A condition of a pod. -/
structure Condition where
  type : String
  status : String
  deriving Repr

/-- What a container does. More than one may be given; the first of them counts. -/
structure ContainerState where
  /-- Since when the container runs, if it does. -/
  running : Option (Option Time.Instant)
  /-- Why the container waits, if it does. -/
  waiting : Option (Option String)
  /-- Why the container ended, if it did. -/
  terminated : Option (Option String)
  deriving Repr

/-- How a container is. -/
structure ContainerStatus where
  name : String
  containerId : Option String
  imageId : String
  restartCount : Int32
  ready : Bool
  state : Option ContainerState

/-- How a pod is. -/
structure PodStatus where
  hostIp : Option String
  startTime : Option Time.Instant
  phase : Option String
  reason : Option String
  message : Option String
  conditions : List Condition
  containers : List ContainerStatus

/-- A pod. -/
structure Pod where
  metadata : Metadata
  spec : Option PodSpec
  status : Option PodStatus

/-- An address of a node. -/
structure Address where
  type : String
  address : String
  deriving Repr

/-- A node. -/
structure Node where
  metadata : Metadata
  addresses : List Address
  /-- The port on which the node says that its kubelet listens. -/
  kubeletPort : Option Int32

/-- A port of a service. -/
structure ServicePort where
  name : Option String
  protocol : Option String
  port : Int32

/-- What a service offers. -/
structure ServiceSpec where
  clusterIp : Option String
  ports : List ServicePort

/-- A service. -/
structure Service where
  metadata : Metadata
  spec : Option ServiceSpec

/-! ### Reading -/

/-- A text that gives an instant. -/
def readInstant? (j : Json) : Option Time.Instant :=
  j.asText?.bind Time.Instant.read?

/-- An object of texts. -/
def readTexts? (j : Json) : Option (TextMap String) :=
  (asPairsOf? asText? j).map .ofList

/-- The metadata of an object without any. -/
def Metadata.empty : Metadata := ⟨none, none, .empty, [], none⟩

/-- Reads an owner. -/
def Owner.read? (j : Json) : Option Owner := do
  let fs ← j.asFields?
  some ⟨← fieldD "kind" "" asText? fs, ← fieldD "name" "" asText? fs⟩

/-- Reads metadata. -/
def Metadata.read? (j : Json) : Option Metadata := do
  let fs ← j.asFields?
  some ⟨← field? "name" asText? fs, ← field? "namespace" asText? fs,
    ← fieldD "labels" .empty readTexts? fs,
    ← fieldD "ownerReferences" [] (asListOf? Owner.read?) fs,
    ← field? "creationTimestamp" readInstant? fs⟩

/-- Reads a container. -/
def Container.read? (j : Json) : Option Container := do
  let fs ← j.asFields?
  let resources ← fieldD "resources" [] asFields? fs
  some ⟨← fieldD "name" "" asText? fs, ← field? "image" asText? fs,
    ← fieldD "requests" .empty readTexts? resources, ← fieldD "limits" .empty readTexts? resources⟩

/-- Reads what a pod asks for. -/
def PodSpec.read? (j : Json) : Option PodSpec := do
  let fs ← j.asFields?
  some ⟨← field? "nodeName" asText? fs, ← fieldD "containers" [] (asListOf? Container.read?) fs⟩

/-- Reads a condition. -/
def Condition.read? (j : Json) : Option Condition := do
  let fs ← j.asFields?
  some ⟨← fieldD "type" "" asText? fs, ← fieldD "status" "" asText? fs⟩

/-- Reads a part of an object that may be missing. -/
def readPart? {α : Type} (name : String) (read : Json → Option α) (j : Json) :
    Option (Option α) := do
  field? name read (← j.asFields?)

/-- Reads what a container does. -/
def ContainerState.read? (j : Json) : Option ContainerState := do
  let fs ← j.asFields?
  some ⟨← field? "running" (readPart? "startedAt" readInstant?) fs,
    ← field? "waiting" (readPart? "reason" asText?) fs,
    ← field? "terminated" (readPart? "reason" asText?) fs⟩

/-- Reads how a container is. -/
def ContainerStatus.read? (j : Json) : Option ContainerStatus := do
  let fs ← j.asFields?
  some ⟨← fieldD "name" "" asText? fs, ← field? "containerID" asText? fs,
    ← fieldD "imageID" "" asText? fs, ← fieldD "restartCount" 0 asInt32? fs,
    ← fieldD "ready" false asBool? fs, ← field? "state" ContainerState.read? fs⟩

/-- Reads how a pod is. -/
def PodStatus.read? (j : Json) : Option PodStatus := do
  let fs ← j.asFields?
  some ⟨← field? "hostIP" asText? fs, ← field? "startTime" readInstant? fs,
    ← field? "phase" asText? fs, ← field? "reason" asText? fs, ← field? "message" asText? fs,
    ← fieldD "conditions" [] (asListOf? Condition.read?) fs,
    ← fieldD "containerStatuses" [] (asListOf? ContainerStatus.read?) fs⟩

/-- Whether an object that names its kind and its version names these. -/
def isOfKind (kind : String) (fs : List (String × Json)) : Bool :=
  fs.all fun (name, j) =>
    if name = "kind" then j.asText? = some kind
    else if name = "apiVersion" then j.asText? = some "v1"
    else true

/-- Reads a pod. -/
def Pod.read? (j : Json) : Option Pod := do
  let fs ← j.asFields?
  if isOfKind "Pod" fs then
    some ⟨← fieldD "metadata" .empty Metadata.read? fs, ← field? "spec" PodSpec.read? fs,
      ← field? "status" PodStatus.read? fs⟩
  else none

/-- Reads an address. -/
def Address.read? (j : Json) : Option Address := do
  let fs ← j.asFields?
  some ⟨← fieldD "type" "" asText? fs, ← fieldD "address" "" asText? fs⟩

/-- Reads the port of the kubelet out of the daemons of a node. -/
def readKubeletPort? (j : Json) : Option (Option Int32) := do
  let endpoint ← field? "kubeletEndpoint" asFields? (← j.asFields?)
  match endpoint with
  | some fs => (fieldD "Port" 0 asInt32? fs).map some
  | none => some none

/-- Reads a node. -/
def Node.read? (j : Json) : Option Node := do
  let fs ← j.asFields?
  if isOfKind "Node" fs then
    let metadata ← fieldD "metadata" .empty Metadata.read? fs
    let status ← fieldD "status" [] asFields? fs
    some ⟨metadata, ← fieldD "addresses" [] (asListOf? Address.read?) status,
      ← fieldD "daemonEndpoints" none readKubeletPort? status⟩
  else none

/-- Reads a port of a service. -/
def ServicePort.read? (j : Json) : Option ServicePort := do
  let fs ← j.asFields?
  some ⟨← field? "name" asText? fs, ← field? "protocol" asText? fs,
    ← fieldD "port" 0 asInt32? fs⟩

/-- Reads what a service offers. -/
def ServiceSpec.read? (j : Json) : Option ServiceSpec := do
  let fs ← j.asFields?
  some ⟨← field? "clusterIP" asText? fs, ← fieldD "ports" [] (asListOf? ServicePort.read?) fs⟩

/-- Reads a service. -/
def Service.read? (j : Json) : Option Service := do
  let fs ← j.asFields?
  if isOfKind "Service" fs then
    some ⟨← fieldD "metadata" .empty Metadata.read? fs, ← field? "spec" ServiceSpec.read? fs⟩
  else none

end NodeTelemetry.Cluster
