import NodeTelemetry.Catalog.Identity
import NodeTelemetry.Fetch.Transform
import NodeTelemetry.Query

/-!
# What is published from the kubelet

The identities and specifications of pods, containers, nodes and volumes, and the queries for the
series of container memory.
-/

namespace NodeTelemetry.Catalog

open Fetch Transform

/-- The ID of a pod: its raw ID without the namespace and the underscore before it. -/
def podId : IdGenerator := fun group id groups =>
  match groups.text group id "namespace" with
  | .error e => .error e
  | .ok ns =>
    match (ns ++ "_").toList.isPrefixOf? id.toList with
    | some rest => .ok (String.ofList rest)
    | none =>
      .error (.transform ("entity " ++ id ++ " does not belong to namespace " ++ ns))

/-- The ID of a container: its name. -/
def containerId : IdGenerator := fun group id groups =>
  groups.text group id "containerName"

/-- The type of an entity: nodes stand in the cluster, containers and volumes in a pod of a namespace,
and all else in a namespace. -/
def kubeletType : TypeGenerator := fun group id groups cluster =>
  let inPod : Except FetchError String := do
    let ns ← groups.text group id "namespace"
    let pod ← groups.text group id "podName"
    .ok ("k8s:" ++ cluster ++ ":" ++ ns ++ ":" ++ pod ++ ":" ++ group)
  match group with
  | "node" => .ok ("k8s:" ++ cluster ++ ":" ++ group)
  | "container" => inPod
  | "volume" => inPod
  | _ => do
    let ns ← groups.text group id "namespace"
    .ok ("k8s:" ++ cluster ++ ":" ++ ns ++ ":" ++ group)

/-- A gauge that is a raw metric. -/
def rawGauge (name key : String) : Spec := ⟨name, raw key, .gauge⟩

/-- A rate that is a raw metric. -/
def rawRate (name key : String) : Spec := ⟨name, raw key, .rate⟩

/-- An attribute that is a raw metric of the same name. -/
def rawAttribute (name : String) : Spec := ⟨name, raw name, .attr⟩

/-- A gauge that is a raw metric after a transform. -/
def gaugeThrough (name key : String) (f : Fetched → Except FetchError Fetched) : Spec :=
  ⟨name, thenApply (raw key) f, .gauge⟩

/-- The gauges of a file system, whose raw metrics have the same names. -/
def fileSystemSpecs (which : String) : List Spec :=
  ["AvailableBytes", "CapacityBytes", "UsedBytes", "InodesFree", "Inodes", "InodesUsed"].map
    fun name => rawGauge (which ++ name) (which ++ name)

/-- The share of a file system that is in use. -/
def fileSystemUse : Spec :=
  ⟨"fsUsedPercent", complementPercentage "fsUsedBytes" "fsAvailableBytes", .gauge⟩

/-- The rates of a network interface. -/
def networkSpecs : List Spec := [
  rawRate "net.rxBytesPerSecond" "rxBytes",
  rawRate "net.txBytesPerSecond" "txBytes",
  rawRate "net.errorsPerSecond" "errors"]

/-- Attributes for the labels of the entity. -/
def ownLabels : Spec := ⟨"label.*", thenApply (raw "labels") onePerLabel, .attr⟩

/-- The specifications of pods. -/
def podSpecs : SpecGroup where
  idGenerator := some podId
  typeGenerator := some kubeletType
  specs := networkSpecs ++ [
    gaugeThrough "createdAt" "createdAt" toSeconds,
    gaugeThrough "startTime" "startTime" toSeconds,
    rawAttribute "createdKind",
    rawAttribute "createdBy",
    rawAttribute "nodeIP",
    rawAttribute "namespace",
    rawAttribute "nodeName",
    rawAttribute "podName",
    gaugeThrough "isReady" "isReady" toNumericBoolean,
    rawAttribute "status",
    gaugeThrough "isScheduled" "isScheduled" toNumericBoolean,
    rawAttribute "deploymentName",
    ownLabels]

/-- The specifications of containers. -/
def containerSpecs : SpecGroup where
  idGenerator := some containerId
  typeGenerator := some kubeletType
  specs := [
    rawGauge "memoryUsedBytes" "usageBytes",
    rawGauge "memoryWorkingSetBytes" "workingSetBytes",
    gaugeThrough "cpuUsedCores" "usageNanoCores" toCoresFromNano] ++
    fileSystemSpecs "fs" ++ [
    fileSystemUse,
    rawAttribute "containerID",
    rawAttribute "containerImageID",
    rawAttribute "containerName",
    rawAttribute "containerImage",
    rawAttribute "deploymentName",
    rawAttribute "namespace",
    rawAttribute "podName",
    rawAttribute "nodeName",
    rawAttribute "nodeIP",
    rawGauge "restartCount" "restartCount",
    gaugeThrough "cpuRequestedCores" "cpuRequestedCores" toCores,
    gaugeThrough "cpuLimitCores" "cpuLimitCores" toCores,
    rawGauge "memoryRequestedBytes" "memoryRequestedBytes",
    rawGauge "memoryLimitBytes" "memoryLimitBytes",
    rawAttribute "status",
    gaugeThrough "isReady" "isReady" toNumericBoolean,
    rawAttribute "reason",
    gaugeThrough "startedAt" "startedAt" toSeconds,
    ownLabels]

/-- The specifications of nodes. -/
def nodeSpecs : SpecGroup where
  idGenerator := none
  typeGenerator := some kubeletType
  specs := [
    rawAttribute "nodeName",
    gaugeThrough "cpuUsedCores" "usageNanoCores" toCoresFromNano,
    gaugeThrough "cpuUsedCoreMilliseconds" "usageCoreNanoSeconds" toMilliFromNano,
    rawGauge "memoryUsedBytes" "memoryUsageBytes",
    rawGauge "memoryAvailableBytes" "memoryAvailableBytes",
    rawGauge "memoryWorkingSetBytes" "memoryWorkingSetBytes",
    rawGauge "memoryRssBytes" "memoryRssBytes",
    rawGauge "memoryPageFaults" "memoryPageFaults",
    rawRate "memoryMajorPageFaultsPerSecond" "memoryMajorPageFaults"] ++
    networkSpecs ++ fileSystemSpecs "fs" ++ fileSystemSpecs "runtime" ++ [ownLabels]

/-- The specifications of volumes. -/
def volumeSpecs : SpecGroup where
  idGenerator := none
  typeGenerator := some kubeletType
  specs := [
    rawAttribute "volumeName",
    rawAttribute "podName",
    rawAttribute "namespace",
    ⟨"persistent", persistentVolume, .attr⟩,
    rawAttribute "pvcName",
    rawAttribute "pvcNamespace"] ++
    fileSystemSpecs "fs" ++ [fileSystemUse]

/-- The specifications for the kubelet. -/
def kubeletSpecs : SpecGroups :=
  .ofList [("pod", podSpecs), ("container", containerSpecs), ("node", nodeSpecs),
    ("volume", volumeSpecs)]

/-- The queries for container memory. A series that has neither of the two labels for the name of a container
describes the whole pod and is left out. -/
def containerQueries : List Query :=
  ["container_name", "container"].map fun label =>
    (Query.ofSeries "container_memory_usage_bytes").withLabels .nor [(label, "")]

end NodeTelemetry.Catalog
