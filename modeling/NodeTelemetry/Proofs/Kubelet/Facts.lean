import NodeTelemetry.Kubelet.Groups
import NodeTelemetry.Proofs.RawGroups

/-!
# Facts about entities of the kubelet

Facts are put into an entity in order, so of two facts with one name the later one counts:
`Facts.find?` is that one. `Facts.Fit` says which names facts may have and of which kind the value under each
name is. From the names follows that no amount ever touches the raw metrics by which entities are told
apart, and what the facts of pods, containers, volumes and the node say under those names.

## Main statements

* `Facts.get?_insertAll`: what a raw metric is after facts are put into an entity.
* `Facts.find?_append_of_fit`: facts of another schema say nothing about a name.
* `podFacts_eq` and the like: facts are the texts by which an entity is recognised and facts of a schema.
-/

namespace NodeTelemetry.Kubelet

/-- Names of raw metrics with the kinds of their values. -/
abbrev Schema := List (String × String)

namespace Facts

/-- The fact of a name that counts: the last one. -/
def find? (key : String) (facts : Facts) : Option RawValue :=
  facts.reverse.lookup key

/-- After facts are put into an entity, a raw metric is the fact of its name, or what it was before. -/
theorem get?_insertAll (m : RawMetrics) (facts : Facts) (key : String) :
    (m.insertAll facts).get? key = (facts.find? key).or (m.get? key) :=
  m.get?_insertAll facts key

@[simp] theorem find?_nil (key : String) : find? key [] = none := rfl

@[simp] theorem find?_append (key : String) (a b : Facts) :
    find? key (a ++ b) = (find? key b).or (find? key a) := by
  rw [find?, List.reverse_append, List.lookup_append]
  rfl

@[simp] theorem find?_cons (key k : String) (v : RawValue) (rest : Facts) :
    find? key ((k, v) :: rest) = (find? key rest).or (if key = k then some v else none) := by
  rw [← List.singleton_append, find?_append]
  congr 1
  rw [find?, List.reverse_singleton, TextMap.lookup_cons_ite]
  rfl

@[simp] theorem find?_text (key k s : String) :
    find? key (text k s) = if key = k then some (.scalar (.str s)) else none := by
  rw [text, find?_cons]
  rfl

/-! ### Names and kinds -/

/-- Every fact has one of the names of a schema, and the kind that stands beside it. -/
def Fit (schema : Schema) (facts : Facts) : Prop :=
  ∀ f ∈ facts, (f.1, f.2.kind) ∈ schema

section Fit

variable {schema : Schema} {key k : String}

theorem fit_nil : Fit schema [] := by
  intro f hf
  simp at hf

theorem Fit.mono {schema' : Schema} {facts : Facts} (h : facts.Fit schema)
    (hsub : schema ⊆ schema') : facts.Fit schema' :=
  fun f hf => hsub (h f hf)

theorem Fit.append {a b : Facts} (ha : a.Fit schema) (hb : b.Fit schema) : Fit schema (a ++ b) := by
  intro f hf
  rcases List.mem_append.1 hf with hf | hf
  · exact ha f hf
  · exact hb f hf

theorem fit_text (s : String) (h : (k, "string") ∈ schema) : (text k s).Fit schema := by
  intro f hf
  obtain rfl := List.mem_singleton.1 hf
  exact h

theorem fit_nonempty (value : Option String) (h : (k, "string") ∈ schema) :
    (nonempty k value).Fit schema := by
  cases value with
  | none => exact fit_nil
  | some s =>
    rw [nonempty]
    split
    · exact fit_nil
    · exact fit_text s h

theorem fit_toList_map {α : Type} {f : α → RawValue} {kind : String} (value : Option α)
    (hf : ∀ x, (f x).kind = kind) (h : (k, kind) ∈ schema) :
    Fit schema (value.toList.map fun x => (k, f x)) := by
  intro fact hfact
  obtain ⟨x, _, rfl⟩ := List.mem_map.1 hfact
  rw [hf]
  exact h

theorem fit_instant (value : Option Time.Instant) (h : (k, "timestamp") ∈ schema) :
    (instant k value).Fit schema :=
  fit_toList_map value (fun _ => rfl) h

theorem fit_whole (value : Option Int64) (h : (k, "int") ∈ schema) : (whole k value).Fit schema :=
  fit_toList_map value (fun _ => rfl) h

theorem fit_amount (value : Option UInt64) (h : (k, "uint") ∈ schema) :
    (amount k value).Fit schema :=
  fit_toList_map value (fun _ => rfl) h

theorem fit_labels (value : TextMap String) (h : (k, "labels") ∈ schema) :
    (labels k value).Fit schema := by
  rw [labels]
  split
  · exact fit_nil
  · intro f hf
    obtain rfl := List.mem_singleton.1 hf
    exact h

theorem fit_factsOf {α : Type} {f : α → Facts} (value : Option α) (h : ∀ x, (f x).Fit schema) :
    (factsOf f value).Fit schema := by
  cases value with
  | none => exact fit_nil
  | some x => exact h x

theorem fit_flatMap {α : Type} {f : α → Facts} {l : List α} (h : ∀ x ∈ l, (f x).Fit schema) :
    Fit schema (l.flatMap f) := by
  intro fact hfact
  obtain ⟨x, hx, hf⟩ := List.mem_flatMap.1 hfact
  exact h x hx fact hf

/-- Facts say nothing about a name that is not in their schema. -/
theorem Fit.find?_eq_none {facts : Facts} (h : facts.Fit schema)
    (hkey : ∀ kind, (key, kind) ∉ schema) : facts.find? key = none := by
  rw [find?, List.lookup_eq_none_iff]
  intro f hf
  rw [bne_iff_ne]
  rintro rfl
  exact hkey _ (h f (List.mem_reverse.1 hf))

/-- Behind facts about a name, facts of a schema without the name change nothing. -/
theorem find?_append_of_fit {front rest : Facts} (h : rest.Fit schema)
    (hkey : ∀ kind, (key, kind) ∉ schema) : find? key (front ++ rest) = front.find? key := by
  rw [find?_append, h.find?_eq_none hkey, Option.none_or]

end Fit

end Facts

/-! ### Amounts -/

/-- The raw metrics of a network interface. -/
def networkSchema : Schema := [("rxBytes", "uint"), ("txBytes", "uint"), ("errors", "uint")]

/-- The raw metrics of a file system. -/
def fsSchema (which : String) : Schema :=
  ["AvailableBytes", "CapacityBytes", "UsedBytes", "InodesFree", "Inodes", "InodesUsed"].map
    fun name => (which ++ name, "uint")

open Facts

theorem fit_networkFacts (n : NetworkStats) : (networkFacts n).Fit networkSchema := by
  refine ((fit_amount _ ?_).append (fit_amount _ ?_)).append (fit_amount _ ?_) <;> simp [networkSchema]

theorem fit_fsFacts (which : String) (fs : FsStats) : (fsFacts which fs).Fit (fsSchema which) := by
  refine (((((fit_amount _ ?_).append (fit_amount _ ?_)).append (fit_amount _ ?_)).append
    (fit_amount _ ?_)).append (fit_amount _ ?_)).append (fit_amount _ ?_) <;> simp [fsSchema]

/-- What is added to a container that is known. -/
def containerUsageSchema : Schema :=
  [("usageBytes", "uint"), ("workingSetBytes", "uint"), ("usageNanoCores", "uint")] ++ fsSchema "fs"

theorem fit_containerUsageFacts (c : ContainerStats) :
    (containerUsageFacts c).Fit containerUsageSchema := by
  have memory : ∀ m, (containerMemoryFacts m).Fit containerUsageSchema := fun m =>
    (fit_amount _ (by simp [containerUsageSchema])).append
      (fit_amount _ (by simp [containerUsageSchema]))
  have processor : ∀ cpu : CpuStats,
      (Facts.amount "usageNanoCores" cpu.usageNanoCores).Fit containerUsageSchema := fun cpu =>
    fit_amount _ (by simp [containerUsageSchema])
  have fs : ∀ f, (fsFacts "fs" f).Fit containerUsageSchema := fun f =>
    (fit_fsFacts "fs" f).mono (List.subset_append_right _ _)
  exact ((fit_factsOf _ memory).append (fit_factsOf _ processor)).append (fit_factsOf _ fs)

/-! ### Pods and containers -/

/-- What the identity of a pod says besides its namespace and its name. -/
def identitySchema : Schema :=
  [("nodeName", "string"), ("nodeIP", "string"), ("deploymentName", "string"), ("labels", "labels")]

theorem identity_facts_eq (p : PodIdentity) :
    ∃ rest, p.facts = text "namespace" p.space ++ text "podName" p.name ++ rest ∧
      Fit identitySchema rest := by
  refine ⟨nonempty "nodeName" p.nodeName ++ nonempty "nodeIP" p.nodeIp ++
    nonempty "deploymentName" (some p.deployment) ++ labels "labels" p.labels, ?_, ?_⟩
  · simp only [PodIdentity.facts, List.append_assoc]
  · refine (((fit_nonempty _ ?_).append (fit_nonempty _ ?_)).append (fit_nonempty _ ?_)).append
      (fit_labels _ ?_) <;> simp [identitySchema]

/-- What a pod says besides its identity. -/
def podStateSchema : Schema :=
  [("createdKind", "string"), ("createdBy", "string"), ("createdAt", "timestamp"),
    ("startTime", "timestamp"), ("status", "string"), ("reason", "string"), ("message", "string"),
    ("isReady", "string"), ("isScheduled", "string")]

theorem fit_creatorFacts (owners : List Cluster.Owner) : (creatorFacts owners).Fit podStateSchema := by
  cases owners with
  | nil => exact fit_nil
  | cons owner rest =>
    refine (fit_text _ ?_).append (fit_text _ ?_) <;> simp [podStateSchema]

theorem fit_conditionFacts (c : Cluster.Condition) : (conditionFacts c).Fit podStateSchema := by
  rw [conditionFacts]
  split
  · exact fit_nonempty _ (by simp [podStateSchema])
  · exact fit_nonempty _ (by simp [podStateSchema])
  · exact fit_nil

theorem fit_podStatusFacts (s : Cluster.PodStatus) : (podStatusFacts s).Fit podStateSchema := by
  refine ((((fit_instant _ ?_).append (fit_nonempty _ ?_)).append (fit_nonempty _ ?_)).append
    (fit_nonempty _ ?_)).append (fit_flatMap fun c _ => fit_conditionFacts c) <;>
    simp [podStateSchema]

theorem podFacts_eq (identity : PodIdentity) (pod : Cluster.Pod) :
    ∃ rest, podFacts identity pod = identity.facts ++ rest ∧ Fit podStateSchema rest := by
  refine ⟨creatorFacts pod.metadata.owners ++ instant "createdAt" pod.metadata.created ++
    pod.status.elim [] podStatusFacts, ?_, ?_⟩
  · cases h : pod.status <;>
      simp only [podFacts, h, List.append_assoc, Option.elim_none, Option.elim_some]
  · refine ((fit_creatorFacts _).append (fit_instant _ (by simp [podStateSchema]))).append ?_
    cases pod.status with
    | none => exact fit_nil
    | some status => exact fit_podStatusFacts status

/-- What a container says besides the identity of its pod and its name. -/
def containerStateSchema : Schema :=
  [("containerImage", "string"), ("cpuRequestedCores", "int"), ("cpuLimitCores", "int"),
    ("memoryRequestedBytes", "int"), ("memoryLimitBytes", "int"), ("containerID", "string"),
    ("containerImageID", "string"), ("restartCount", "int"), ("isReady", "bool"),
    ("status", "string"), ("startedAt", "timestamp"), ("reason", "string")]

theorem fit_resourceFacts (c : Cluster.Container) : (resourceFacts c).Fit containerStateSchema := by
  refine (((fit_whole _ ?_).append (fit_whole _ ?_)).append (fit_whole _ ?_)).append
    (fit_whole _ ?_) <;> simp [containerStateSchema]

theorem fit_stateFacts (s : Cluster.ContainerState) : (stateFacts s).Fit containerStateSchema := by
  rw [stateFacts]
  split
  · refine (fit_text _ ?_).append (fit_instant _ ?_) <;> simp [containerStateSchema]
  · refine (fit_text _ ?_).append (fit_nonempty _ ?_) <;> simp [containerStateSchema]
  · refine (fit_text _ ?_).append (fit_nonempty _ ?_) <;> simp [containerStateSchema]
  · exact fit_nil

theorem fit_containerStatusFacts (s : Cluster.ContainerStatus) :
    (containerStatusFacts s).Fit containerStateSchema := by
  refine Fit.append (Fit.append (Fit.append ?_ ?_) ?_) ?_
  · split
    · exact fit_text _ (by simp [containerStateSchema])
    · exact fit_nil
  · split
    · exact fit_nil
    · exact fit_text _ (by simp [containerStateSchema])
  · intro f hf
    simp only [List.mem_cons, List.not_mem_nil, or_false] at hf
    rcases hf with rfl | rfl <;> simp [containerStateSchema, RawValue.kind, Scalar.kind]
  · split
    · exact fit_stateFacts _
    · exact fit_nil

theorem containerFacts_eq (identity : PodIdentity) (c : Cluster.Container)
    (status : Option Cluster.ContainerStatus) :
    ∃ rest, containerFacts identity c status =
        identity.facts ++ text "containerName" c.name ++ rest ∧ Fit containerStateSchema rest := by
  refine ⟨nonempty "containerImage" c.image ++ resourceFacts c ++
    status.elim [] containerStatusFacts, ?_, ?_⟩
  · cases status <;>
      simp only [containerFacts, List.append_assoc, Option.elim_none, Option.elim_some]
  · refine ((fit_nonempty _ (by simp [containerStateSchema])).append (fit_resourceFacts c)).append ?_
    cases status with
    | none => exact fit_nil
    | some status => exact fit_containerStatusFacts status

/-! ### The node and volumes -/

/-- What the node says besides its name. -/
def nodeUsageSchema : Schema :=
  [("usageNanoCores", "uint"), ("usageCoreNanoSeconds", "uint"), ("memoryAvailableBytes", "uint"),
    ("memoryUsageBytes", "uint"), ("memoryWorkingSetBytes", "uint"), ("memoryRssBytes", "uint"),
    ("memoryPageFaults", "uint"), ("memoryMajorPageFaults", "uint")] ++
    networkSchema ++ fsSchema "fs" ++ fsSchema "runtime"

theorem nodeFacts_eq (n : NodeStats) :
    ∃ rest, nodeFacts n = text "nodeName" n.nodeName ++ rest ∧ Fit nodeUsageSchema rest := by
  refine ⟨factsOf nodeCpuFacts n.cpu ++ factsOf nodeMemoryFacts n.memory ++
    factsOf networkFacts n.network ++ factsOf (fsFacts "fs") n.fs ++
    factsOf (fsFacts "runtime") n.imageFs, ?_, ?_⟩
  · simp only [nodeFacts, List.append_assoc]
  · refine ((((fit_factsOf _ fun cpu => ?_).append (fit_factsOf _ fun m => ?_)).append
      (fit_factsOf _ fun net => ?_)).append (fit_factsOf _ fun fs => ?_)).append
      (fit_factsOf _ fun fs => ?_)
    · refine (fit_amount _ ?_).append (fit_amount _ ?_) <;> simp [nodeUsageSchema]
    · refine (((((fit_amount _ ?_).append (fit_amount _ ?_)).append (fit_amount _ ?_)).append
        (fit_amount _ ?_)).append (fit_amount _ ?_)).append (fit_amount _ ?_) <;>
        simp [nodeUsageSchema]
    · exact (fit_networkFacts net).mono fun x hx => by simp [nodeUsageSchema, hx]
    · exact (fit_fsFacts "fs" fs).mono fun x hx => by simp [nodeUsageSchema, hx]
    · exact (fit_fsFacts "runtime" fs).mono fun x hx => by simp [nodeUsageSchema, hx]

/-- What a volume says besides its pod and its name. -/
def volumeUsageSchema : Schema :=
  fsSchema "fs" ++ [("pvcName", "string"), ("pvcNamespace", "string")]

theorem volumeFacts_eq (pod : Reference) (v : VolumeStats) :
    ∃ rest, volumeFacts pod v = text "volumeName" v.name ++ text "namespace" pod.space ++
        text "podName" pod.name ++ rest ∧ Fit volumeUsageSchema rest := by
  refine ⟨fsFacts "fs" v.fs ++
    factsOf (fun claim => text "pvcName" claim.name ++ text "pvcNamespace" claim.space) v.claim,
    ?_, ?_⟩
  · simp only [volumeFacts, List.append_assoc]
  · refine ((fit_fsFacts "fs" v.fs).mono (by simp [volumeUsageSchema])).append
      (fit_factsOf _ fun claim => ?_)
    refine (fit_text _ ?_).append (fit_text _ ?_) <;> simp [volumeUsageSchema]

end NodeTelemetry.Kubelet
