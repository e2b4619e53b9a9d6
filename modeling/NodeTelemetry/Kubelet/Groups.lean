import NodeTelemetry.Cluster.Object
import NodeTelemetry.Fetch.Sample
import NodeTelemetry.Kubelet.Summary
import NodeTelemetry.Quantity
import NodeTelemetry.SourceGroups

/-!
# The raw groups of the kubelet

The list of pods gives the entities of pods and containers. The summary of usage adds amounts to them, and
gives the entities of volumes and of the node. The series about containers add the IDs that are
still missing.

## Main definitions

* `Kubelet.ofPods`: the raw groups of a list of pods.
* `Kubelet.addSummary`: raw groups with the amounts of a summary.
* `Kubelet.addSeries`: raw groups with the IDs that series carry.
* `Kubelet.collect`: the raw groups of the source.
-/

namespace NodeTelemetry.Kubelet

open Cluster (Pod Container ContainerStatus ContainerState)

/-- Raw metrics with their names, to be put into an entity in order. -/
abbrev Facts := List (String × RawValue)

namespace Facts

/-- A text. -/
def text (key value : String) : Facts := [(key, .scalar (.str value))]

/-- A text, if it is there and not empty. -/
def nonempty (key : String) (value : Option String) : Facts :=
  match value with
  | some s => if s = "" then [] else text key s
  | none => []

/-- An instant, if it is there. -/
def instant (key : String) (value : Option Time.Instant) : Facts :=
  value.toList.map fun t => (key, .scalar (.timestamp t))

/-- A whole number with sign, if it is there. -/
def whole (key : String) (value : Option Int64) : Facts :=
  value.toList.map fun n => (key, .scalar (.int n))

/-- An amount, if it is there. -/
def amount (key : String) (value : Option UInt64) : Facts :=
  value.toList.map fun n => (key, .scalar (.uint n))

/-- Labels, if there are any. -/
def labels (key : String) (value : TextMap String) : Facts :=
  if value.isEmpty then [] else [(key, .labels value)]

end Facts

/-! ### Pods -/

/-- The raw ID of a pod. -/
def podId (ns name : String) : String := ns ++ "_" ++ name

/-- The raw ID of a container or a volume of a pod. -/
def partId (ns pod name : String) : String := podId ns pod ++ "_" ++ name

/-- What a pod and its containers have in common. -/
structure PodIdentity where
  space : String
  name : String
  nodeName : Option String
  nodeIp : Option String
  /-- The deployment that the pod belongs to, empty if there is none. -/
  deployment : String
  labels : TextMap String

namespace PodIdentity

/-- The identity of a pod, if it has a namespace and a name. -/
def ofPod? (pod : Pod) : Option PodIdentity := do
  let space ← pod.metadata.space
  let name ← pod.metadata.name
  some {
    space := space
    name := name
    nodeName := pod.spec.bind fun s => s.nodeName
    nodeIp := pod.status.bind fun s => s.hostIp
    deployment :=
      match pod.metadata.owners with
      | owner :: _ => deploymentOfCreator owner.kind owner.name
      | [] => ""
    labels := pod.metadata.labels }

/-- The raw metrics that the identity gives. -/
def facts (p : PodIdentity) : Facts :=
  Facts.text "namespace" p.space ++ Facts.text "podName" p.name ++
    Facts.nonempty "nodeName" p.nodeName ++ Facts.nonempty "nodeIP" p.nodeIp ++
    Facts.nonempty "deploymentName" (some p.deployment) ++ Facts.labels "labels" p.labels

end PodIdentity

/-- The raw metrics that say who created a pod: the first of its owners. -/
def creatorFacts (owners : List Cluster.Owner) : Facts :=
  match owners with
  | owner :: _ => Facts.text "createdKind" owner.kind ++ Facts.text "createdBy" owner.name
  | [] => []

/-- The raw metrics of a condition of a pod. -/
def conditionFacts (c : Cluster.Condition) : Facts :=
  match c.type with
  | "Ready" => Facts.nonempty "isReady" (some c.status)
  | "PodScheduled" => Facts.nonempty "isScheduled" (some c.status)
  | _ => []

/-- The raw metrics of the state of a pod. -/
def podStatusFacts (s : Cluster.PodStatus) : Facts :=
  Facts.instant "startTime" s.startTime ++ Facts.nonempty "status" s.phase ++
    Facts.nonempty "reason" s.reason ++ Facts.nonempty "message" s.message ++
    s.conditions.flatMap conditionFacts

/-- The raw metrics of a pod. -/
def podFacts (identity : PodIdentity) (pod : Pod) : Facts :=
  identity.facts ++ creatorFacts pod.metadata.owners ++
    Facts.instant "createdAt" pod.metadata.created ++
    (match pod.status with
      | some status => podStatusFacts status
      | none => [])

/-! ### Containers -/

/-- The raw metrics of what a container asks for: processors in thousandths, memory in bytes. -/
def resourceFacts (c : Container) : Facts :=
  Facts.whole "cpuRequestedCores" ((c.requests.get? "cpu").bind Quantity.milli?) ++
    Facts.whole "cpuLimitCores" ((c.limits.get? "cpu").bind Quantity.milli?) ++
    Facts.whole "memoryRequestedBytes" ((c.requests.get? "memory").bind Quantity.whole?) ++
    Facts.whole "memoryLimitBytes" ((c.limits.get? "memory").bind Quantity.whole?)

/-- An ID without the name of the runtime before it. -/
def withoutRuntime (id : String) : String :=
  match Text.afterMark "://".toList id.toList with
  | some rest => String.ofList rest
  | none => id

/-- The raw metrics of what a container does. -/
def stateFacts (s : ContainerState) : Facts :=
  match s.running, s.waiting, s.terminated with
  | some started, _, _ => Facts.text "status" "Running" ++ Facts.instant "startedAt" started
  | none, some reason, _ => Facts.text "status" "Waiting" ++ Facts.nonempty "reason" reason
  | none, none, some reason => Facts.text "status" "Terminated" ++ Facts.nonempty "reason" reason
  | none, none, none => []

/-- The raw metrics of how a container is. -/
def containerStatusFacts (s : ContainerStatus) : Facts :=
  (match s.containerId with
    | some id => Facts.text "containerID" (withoutRuntime id)
    | none => []) ++
  (if s.imageId = "" then [] else Facts.text "containerImageID" (withoutRuntime s.imageId)) ++
  [("restartCount", .scalar (.int s.restartCount.toInt64)), ("isReady", .scalar (.bool s.ready))] ++
  (match s.state with
    | some state => stateFacts state
    | none => [])

/-- The raw metrics of a container of a pod. -/
def containerFacts (identity : PodIdentity) (c : Container) (status : Option ContainerStatus) :
    Facts :=
  identity.facts ++ Facts.text "containerName" c.name ++ Facts.nonempty "containerImage" c.image ++
    resourceFacts c ++
    (match status with
      | some status => containerStatusFacts status
      | none => [])

/-- Puts facts into an entity, which is created if it is missing. -/
def put (groups : RawGroups) (group id : String) (facts : Facts) : RawGroups :=
  groups.update group id fun metrics => metrics.insertAll facts

/-- Puts facts into an entity, if it exists. -/
def putExisting (groups : RawGroups) (group id : String) (facts : Facts) : RawGroups :=
  groups.updateExisting group id fun metrics => metrics.insertAll facts

/-- Puts a container of a pod into raw groups, with the first status of its name. -/
def addContainer (identity : PodIdentity) (statuses : List ContainerStatus) (groups : RawGroups)
    (c : Container) : RawGroups :=
  put groups "container" (partId identity.space identity.name c.name)
    (containerFacts identity c (statuses.find? fun s => s.name == c.name))

/-- Puts a pod and its containers into raw groups. A pod without a namespace or a name is left out. -/
def addPod (groups : RawGroups) (pod : Pod) : RawGroups :=
  match PodIdentity.ofPod? pod with
  | none => groups
  | some identity =>
    let statuses :=
      match pod.status with
      | some status => status.containers
      | none => []
    let containers :=
      match pod.spec with
      | some spec => spec.containers
      | none => []
    containers.foldl (addContainer identity statuses)
      (put groups "pod" (podId identity.space identity.name) (podFacts identity pod))

/-- The raw groups of a list of pods. -/
def ofPods (pods : List Pod) : RawGroups :=
  pods.foldl addPod .empty

/-! ### The summary -/

/-- The raw metrics of the use of a file system. -/
def fsFacts (which : String) (fs : FsStats) : Facts :=
  Facts.amount (which ++ "AvailableBytes") fs.availableBytes ++
    Facts.amount (which ++ "CapacityBytes") fs.capacityBytes ++
    Facts.amount (which ++ "UsedBytes") fs.usedBytes ++
    Facts.amount (which ++ "InodesFree") fs.inodesFree ++
    Facts.amount (which ++ "Inodes") fs.inodes ++
    Facts.amount (which ++ "InodesUsed") fs.inodesUsed

/-- The raw metrics of the use of the network. -/
def networkFacts (n : NetworkStats) : Facts :=
  Facts.amount "rxBytes" n.rxBytes ++ Facts.amount "txBytes" n.txBytes ++
    Facts.amount "errors" n.errors

/-- The facts of a part of a report that may be missing. -/
def factsOf {α : Type} (facts : α → Facts) : Option α → Facts
  | some x => facts x
  | none => []

/-- The raw metrics of the use of the processor by the node. -/
def nodeCpuFacts (cpu : CpuStats) : Facts :=
  Facts.amount "usageNanoCores" cpu.usageNanoCores ++
    Facts.amount "usageCoreNanoSeconds" cpu.usageCoreNanoSeconds

/-- The raw metrics of the use of memory by the node. -/
def nodeMemoryFacts (m : MemoryStats) : Facts :=
  Facts.amount "memoryAvailableBytes" m.availableBytes ++
    Facts.amount "memoryUsageBytes" m.usageBytes ++
    Facts.amount "memoryWorkingSetBytes" m.workingSetBytes ++
    Facts.amount "memoryRssBytes" m.rssBytes ++
    Facts.amount "memoryPageFaults" m.pageFaults ++
    Facts.amount "memoryMajorPageFaults" m.majorPageFaults

/-- The raw metrics of the use by the node. -/
def nodeFacts (n : NodeStats) : Facts :=
  Facts.text "nodeName" n.nodeName ++ factsOf nodeCpuFacts n.cpu ++
    factsOf nodeMemoryFacts n.memory ++ factsOf networkFacts n.network ++
    factsOf (fsFacts "fs") n.fs ++ factsOf (fsFacts "runtime") n.imageFs

/-- The raw metrics of the use of memory by a container. -/
def containerMemoryFacts (m : MemoryStats) : Facts :=
  Facts.amount "usageBytes" m.usageBytes ++ Facts.amount "workingSetBytes" m.workingSetBytes

/-- The raw metrics of the use by a container. -/
def containerUsageFacts (c : ContainerStats) : Facts :=
  factsOf containerMemoryFacts c.memory ++
    factsOf (fun cpu => Facts.amount "usageNanoCores" cpu.usageNanoCores) c.cpu ++
    factsOf (fsFacts "fs") c.rootFs

/-- The raw metrics of a volume of a pod. -/
def volumeFacts (pod : Reference) (v : VolumeStats) : Facts :=
  Facts.text "volumeName" v.name ++ Facts.text "namespace" pod.space ++
    Facts.text "podName" pod.name ++ fsFacts "fs" v.fs ++
    factsOf (fun claim => Facts.text "pvcName" claim.name ++ Facts.text "pvcNamespace" claim.space)
      v.claim

/-- Adds the node of a summary, if it has a name. -/
def addNode (groups : RawGroups) (n : NodeStats) : RawGroups :=
  if n.nodeName = "" then groups else put groups "node" n.nodeName (nodeFacts n)

/-- Adds the use by a container, if the container is known. -/
def addContainerUsage (pod : Reference) (groups : RawGroups) (c : ContainerStats) : RawGroups :=
  putExisting groups "container" (partId pod.space pod.name c.name) (containerUsageFacts c)

/-- Adds a volume of a pod. -/
def addVolume (pod : Reference) (groups : RawGroups) (v : VolumeStats) : RawGroups :=
  put groups "volume" (partId pod.space pod.name v.name) (volumeFacts pod v)

/-- Adds the use by a pod and its containers, if they are known, and its volumes. -/
def addPodUsage (groups : RawGroups) (p : PodStats) : RawGroups :=
  let groups :=
    putExisting groups "pod" (podId p.pod.space p.pod.name) (factsOf networkFacts p.network)
  let groups := p.containers.foldl (addContainerUsage p.pod) groups
  p.volumes.foldl (addVolume p.pod) groups

/-- Raw groups with the amounts of a summary. -/
def addSummary (groups : RawGroups) (s : Summary) : RawGroups :=
  s.pods.foldl addPodUsage (addNode groups s.node)

/-! ### Series about containers -/

/-- The value of the first label that is not empty. -/
def firstLabel (s : Sample) (names : List String) : String :=
  ((names.map s.label).find? fun v => v ≠ "").getD ""

/-- The raw ID of the container that a sample names, if it names one. -/
def containerOf? (s : Sample) : Option String :=
  let ns := s.label "namespace"
  let pod := firstLabel s ["pod", "pod_name"]
  let container := firstLabel s ["container", "container_name"]
  if ns = "" ∨ pod = "" ∨ container = "" then none else some (partId ns pod container)

/-- Puts a text under a key that is missing. An empty text is none. -/
def fillMissing (key value : String) (metrics : RawMetrics) : RawMetrics :=
  if value = "" ∨ metrics.contains key then metrics
  else metrics.insert key (.scalar (.str value))

/-- The raw metrics of a container with the IDs that a sample carries, where they are missing. -/
def fillIds (s : Sample) (metrics : RawMetrics) : RawMetrics :=
  let id := String.ofList (Text.afterLast '/' (s.label "id").toList)
  fillMissing "containerImageID" (s.label "image") (fillMissing "containerID" id metrics)

/-- Adds the IDs that a sample carries to the container that it names, if it is known. -/
def addSample (groups : RawGroups) (s : Sample) : RawGroups :=
  match containerOf? s with
  | some id => groups.updateExisting "container" id (fillIds s)
  | none => groups

/-- Raw groups with the IDs that series carry. -/
def addSeries (groups : RawGroups) (families : List Family) : RawGroups :=
  (families.flatMap Family.samples).foldl addSample groups

/-! ### The source -/

/-- Raw groups with the labels of the node of a name. -/
def addNodeLabels (name : String) (labels : TextMap String) (groups : RawGroups) : RawGroups :=
  groups.updateExisting "node" name fun metrics => metrics.insert "labels" (.labels labels)

/-- The path of the list of pods. -/
def podsPath : String := "/pods"

/-- The path of the summary of usage. -/
def summaryPath : String := "/stats/summary"

/-- The path of the series about containers. -/
def seriesPath : String := "/metrics/cadvisor"

/-- Reads the list of pods. -/
def readPods? (j : Json) : Option (List Pod) :=
  match j.strictRecord ["items"] 0 with
  | some [items] => Json.defaulted [] (Json.asListOf? Pod.read?) items
  | _ => none

/-- Raw groups of pods, a summary and series, with the failure to get the series. -/
def ofDocuments (pods : List Pod) (summary : Summary)
    (series : Except GroupError (List Family)) : SourceGroups :=
  let groups := addSummary (ofPods pods) summary
  match series with
  | .ok families => ⟨addSeries groups families, []⟩
  | .error e => ⟨groups, [e]⟩

/-- Asks the API for the labels of a node. -/
def nodeLabels (w : Surroundings) (timeout : Time.Span) (name : String) :
    Traced (Except Cluster.ApiError (TextMap String)) := do
  let node := (← w.findNode name).bounded id (.timeout timeout)
  return node.map fun n => n.metadata.labels

/-- Adds the labels that the API knows for the node of a name, unless the name is empty. -/
def completeNode (w : Surroundings) (timeout : Time.Span) (name : String) (data : SourceGroups) :
    Traced SourceGroups := do
  if name = "" then return data
  match ← nodeLabels w timeout name with
  | .ok labels => return { data with groups := addNodeLabels name labels data.groups }
  | .error e => return { data with errors := data.errors ++ [.nodeLabels name e] }

/-- The raw groups of the kubelet. All three documents are asked for; without the pods or the summary there
are no groups. -/
def collect (c : SourceClient) (w : Surroundings) (queries : List Query) (timeout : Time.Span) :
    Lookup GroupError SourceGroups :=
  ExceptT.mk do
    let pods ← (Lookup.mapError (GroupError.fetch podsPath) (c.json readPods? w podsPath)).run
    let summary ←
      (Lookup.mapError (GroupError.fetch summaryPath) (c.json Summary.read? w summaryPath)).run
    let series ← (fetchFamilies c w queries seriesPath).run
    match pods, summary with
    | .error e, _ => return .error e
    | .ok _, .error e => return .error e
    | .ok pods, .ok summary =>
      return .ok (← completeNode w timeout summary.node.nodeName
        (ofDocuments pods summary series))

end NodeTelemetry.Kubelet
