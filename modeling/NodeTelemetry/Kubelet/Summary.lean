import NodeTelemetry.Json.Record

/-!
# The kubelet's summary of usage

What the kubelet reports about the use of processor, memory, network and file systems by its node, by pods,
by their containers and by volumes. Records are strict; amounts are whole numbers of 64 bits and may
be missing.
-/

namespace NodeTelemetry.Kubelet

open Json (asText? asUInt64? asListOf? strictRecord required defaulted optional)

/-- Use of the processor. -/
structure CpuStats where
  usageNanoCores : Option UInt64
  usageCoreNanoSeconds : Option UInt64

/-- Use of memory. -/
structure MemoryStats where
  availableBytes : Option UInt64
  usageBytes : Option UInt64
  workingSetBytes : Option UInt64
  rssBytes : Option UInt64
  pageFaults : Option UInt64
  majorPageFaults : Option UInt64

/-- Use of the default network interface. -/
structure NetworkStats where
  rxBytes : Option UInt64
  rxErrors : Option UInt64
  txBytes : Option UInt64
  txErrors : Option UInt64

/-- Errors of both directions, when both are reported; the sum stops at the largest number. -/
def NetworkStats.errors (n : NetworkStats) : Option UInt64 := do
  let rx ← n.rxErrors
  let tx ← n.txErrors
  some (UInt64.ofNat (min (rx.toNat + tx.toNat) (UInt64.size - 1)))

/-- Use of a file system. -/
structure FsStats where
  availableBytes : Option UInt64
  capacityBytes : Option UInt64
  usedBytes : Option UInt64
  inodesFree : Option UInt64
  inodes : Option UInt64
  inodesUsed : Option UInt64

/-- Use by the node. -/
structure NodeStats where
  nodeName : String
  cpu : Option CpuStats
  memory : Option MemoryStats
  network : Option NetworkStats
  fs : Option FsStats
  /-- The file system of images, where the runtime reports one. -/
  imageFs : Option FsStats

/-- Use by a container. -/
structure ContainerStats where
  name : String
  cpu : Option CpuStats
  memory : Option MemoryStats
  rootFs : Option FsStats

/-- A name in a namespace. -/
structure Reference where
  name : String
  space : String

/-- Use of a volume, with the claim that it belongs to. -/
structure VolumeStats where
  name : String
  fs : FsStats
  claim : Option Reference

/-- Use by a pod. -/
structure PodStats where
  pod : Reference
  containers : List ContainerStats
  network : Option NetworkStats
  volumes : List VolumeStats

/-- The whole report. -/
structure Summary where
  node : NodeStats
  pods : List PodStats

/-! ### Reading -/

/-- An amount that may be missing. -/
def amount (field : Option Json) : Option (Option UInt64) := optional asUInt64? field

/-- Reads the use of the processor. -/
def CpuStats.read? (j : Json) : Option CpuStats :=
  match strictRecord ["usageNanoCores", "usageCoreNanoSeconds"] 2 j with
  | some [a, b] => do some ⟨← amount a, ← amount b⟩
  | _ => none

/-- Reads the use of memory. -/
def MemoryStats.read? (j : Json) : Option MemoryStats :=
  match strictRecord ["availableBytes", "usageBytes", "workingSetBytes", "rssBytes",
    "pageFaults", "majorPageFaults"] 6 j with
  | some [a, b, c, d, e, f] => do
    some ⟨← amount a, ← amount b, ← amount c, ← amount d, ← amount e, ← amount f⟩
  | _ => none

/-- Reads the use of the network. -/
def NetworkStats.read? (j : Json) : Option NetworkStats :=
  match strictRecord ["rxBytes", "rxErrors", "txBytes", "txErrors"] 4 j with
  | some [a, b, c, d] => do some ⟨← amount a, ← amount b, ← amount c, ← amount d⟩
  | _ => none

/-- Reads the use of a file system. -/
def FsStats.read? (j : Json) : Option FsStats :=
  match strictRecord ["availableBytes", "capacityBytes", "usedBytes", "inodesFree", "inodes",
    "inodesUsed"] 6 j with
  | some [a, b, c, d, e, f] => do
    some ⟨← amount a, ← amount b, ← amount c, ← amount d, ← amount e, ← amount f⟩
  | _ => none

/-- Reads the file system of images out of the report on the runtime. -/
def readImageFs? (j : Json) : Option (Option FsStats) :=
  match strictRecord ["imageFs"] 1 j with
  | some [fs] => optional FsStats.read? fs
  | _ => none

/-- Reads the use by the node. -/
def NodeStats.read? (j : Json) : Option NodeStats :=
  match strictRecord ["nodeName", "cpu", "memory", "network", "fs", "runtime"] 6 j with
  | some [name, cpu, memory, network, fs, runtime] => do
    some ⟨← required asText? name, ← optional CpuStats.read? cpu,
      ← optional MemoryStats.read? memory, ← optional NetworkStats.read? network,
      ← optional FsStats.read? fs, (← optional readImageFs? runtime).join⟩
  | _ => none

/-- Reads the use by a container. -/
def ContainerStats.read? (j : Json) : Option ContainerStats :=
  match strictRecord ["name", "cpu", "memory", "rootfs"] 4 j with
  | some [name, cpu, memory, fs] => do
    some ⟨← required asText? name, ← optional CpuStats.read? cpu,
      ← optional MemoryStats.read? memory, ← optional FsStats.read? fs⟩
  | _ => none

/-- Reads a name in a namespace. -/
def Reference.read? (j : Json) : Option Reference :=
  match strictRecord ["name", "namespace"] 2 j with
  | some [name, ns] => do some ⟨← required asText? name, ← required asText? ns⟩
  | _ => none

/-- Reads the use of a volume: an object in which the amounts stand beside the name, and in which every
value can be read. -/
def VolumeStats.read? (j : Json) : Option VolumeStats := do
  let fields ← j.asFields?
  if Json.fieldsReadable fields then
    let fs ← FsStats.read? j
    match strictRecord ["name", "pvcRef"] 2 j with
    | some [name, claim] =>
      some ⟨← required asText? name, fs, ← optional Reference.read? claim⟩
    | _ => none
  else none

/-- Reads the use by a pod. -/
def PodStats.read? (j : Json) : Option PodStats :=
  match strictRecord ["podRef", "containers", "network", "volume"] 3 j with
  | some [pod, containers, network, volumes] => do
    some ⟨← required Reference.read? pod,
      ← defaulted [] (asListOf? ContainerStats.read?) containers,
      ← optional NetworkStats.read? network,
      ← defaulted [] (asListOf? VolumeStats.read?) volumes⟩
  | _ => none

/-- Reads the report. -/
def Summary.read? (j : Json) : Option Summary :=
  match strictRecord ["node", "pods"] 1 j with
  | some [node, pods] => do
    some ⟨← required NodeStats.read? node, ← defaulted [] (asListOf? PodStats.read?) pods⟩
  | _ => none

end NodeTelemetry.Kubelet
