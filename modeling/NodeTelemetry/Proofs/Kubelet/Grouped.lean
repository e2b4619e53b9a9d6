import NodeTelemetry.Proofs.Kubelet.Facts
import NodeTelemetry.Proofs.Kubelet.Subjects

/-!
# The steps of grouping

Documents become raw groups in two kinds of steps: facts about a subject are put at its place, or more facts are
added to an entity that exists. `Grouped groups l` says that raw groups come about by such steps and that `l` are
the subjects that were put, in order. What every step keeps, all raw groups of the kubelet have.

## Main definitions

* `ownSchema`, `lateSchema`: the names and kinds of what subjects are put with, and of what may be added later.
* `Grouped`: raw groups that come about by the steps of grouping.

## Main statements

* `Grouped.foldl`: what every step does, a run of steps does.
* `grouped_ofDocuments`, `Grouped.completeNode`: grouping documents is such a run, over the subjects that they
  report on.
-/

namespace NodeTelemetry.Kubelet

open Facts

/-- The names of the raw metrics by which subjects are recognised. -/
def markNames : List String := ["namespace", "podName", "containerName", "nodeName"]

theorem Subject.fst_mem_markNames {s : Subject} {mark : String × String} (h : mark ∈ s.marks) :
    mark.1 ∈ markNames := by
  cases s <;> simp only [marks, List.mem_cons, List.not_mem_nil, or_false] at h
  case pod => simp [h, markNames]
  case container => rcases h with rfl | rfl | rfl <;> simp [markNames]
  case volume => rcases h with rfl | rfl <;> simp [markNames]
  case node => simp [h, markNames]

/-! ### What facts say about marks -/

/-- Facts that say of a subject by which raw metrics it is recognised. -/
def Facts.Mark (facts : Facts) (s : Subject) : Prop :=
  ∀ mark ∈ s.marks, facts.find? mark.1 = some (.scalar (.str mark.2))

theorem mark_podFacts (identity : PodIdentity) (pod : Cluster.Pod) :
    (podFacts identity pod).Mark (.pod identity.space identity.name) := by
  intro mark hmark
  obtain rfl := List.mem_singleton.1 hmark
  obtain ⟨rest, hpod, hfit⟩ := podFacts_eq identity pod
  obtain ⟨rest', hidentity, hfit'⟩ := identity_facts_eq identity
  rw [hpod, find?_append_of_fit hfit (by simp [podStateSchema]), hidentity,
    find?_append_of_fit hfit' (by simp [identitySchema])]
  simp

theorem mark_containerFacts (identity : PodIdentity) (c : Cluster.Container)
    (status : Option Cluster.ContainerStatus) :
    (containerFacts identity c status).Mark
      (.container identity.space identity.name c.name) := by
  intro mark hmark
  obtain ⟨rest, hcontainer, hfit⟩ := containerFacts_eq identity c status
  obtain ⟨rest', hidentity, hfit'⟩ := identity_facts_eq identity
  simp only [Subject.marks, List.mem_cons, List.not_mem_nil, or_false] at hmark
  rcases hmark with rfl | rfl | rfl
  · rw [hcontainer, find?_append_of_fit hfit (by simp [containerStateSchema]), hidentity,
      find?_append, find?_append_of_fit hfit' (by simp [identitySchema])]
    simp
  · rw [hcontainer, find?_append_of_fit hfit (by simp [containerStateSchema]), hidentity,
      find?_append, find?_append_of_fit hfit' (by simp [identitySchema])]
    simp
  · rw [hcontainer, find?_append_of_fit hfit (by simp [containerStateSchema]), find?_append]
    simp

theorem mark_nodeFacts (n : NodeStats) : (nodeFacts n).Mark (.node n.nodeName) := by
  intro mark hmark
  obtain rfl := List.mem_singleton.1 hmark
  obtain ⟨rest, hnode, hfit⟩ := nodeFacts_eq n
  rw [hnode, find?_append_of_fit hfit (by simp [nodeUsageSchema, networkSchema, fsSchema])]
  simp

theorem mark_volumeFacts (pod : Reference) (v : VolumeStats) :
    (volumeFacts pod v).Mark (.volume pod.space pod.name v.name) := by
  intro mark hmark
  obtain ⟨rest, hvolume, hfit⟩ := volumeFacts_eq pod v
  simp only [Subject.marks, List.mem_cons, List.not_mem_nil, or_false] at hmark
  rcases hmark with rfl | rfl
  · rw [hvolume, find?_append_of_fit hfit (by simp [volumeUsageSchema, fsSchema])]
    simp
  · rw [hvolume, find?_append_of_fit hfit (by simp [volumeUsageSchema, fsSchema])]
    simp

/-! ### Names and kinds of all facts -/

/-- The raw metrics that subjects of a group are put with. -/
def ownSchema (group : String) : Schema :=
  match group with
  | "pod" => [("namespace", "string"), ("podName", "string")] ++ identitySchema ++ podStateSchema
  | "container" =>
    [("namespace", "string"), ("podName", "string"), ("containerName", "string")] ++
      identitySchema ++ containerStateSchema
  | "volume" =>
    [("volumeName", "string"), ("namespace", "string"), ("podName", "string")] ++ volumeUsageSchema
  | "node" => ("nodeName", "string") :: nodeUsageSchema
  | _ => []

/-- The raw metrics that may be added to an entity of a group later. -/
def lateSchema (group : String) : Schema :=
  match group with
  | "pod" => networkSchema
  | "container" =>
    containerUsageSchema ++ [("containerID", "string"), ("containerImageID", "string")]
  | "node" => [("labels", "labels")]
  | _ => []

/-- What is added later tells nothing about which subject it is. -/
theorem not_mem_lateSchema (group kind : String) {name : String} (hname : name ∈ markNames) :
    (name, kind) ∉ lateSchema group := by
  simp only [markNames, List.mem_cons, List.not_mem_nil, or_false] at hname
  unfold lateSchema
  split <;> rcases hname with rfl | rfl | rfl | rfl <;>
    simp [networkSchema, containerUsageSchema, fsSchema]

theorem fit_podFacts (identity : PodIdentity) (pod : Cluster.Pod) :
    (podFacts identity pod).Fit (ownSchema "pod") := by
  obtain ⟨rest, hpod, hfit⟩ := podFacts_eq identity pod
  obtain ⟨rest', hidentity, hfit'⟩ := identity_facts_eq identity
  rw [hpod, hidentity]
  refine (((fit_text _ ?_).append (fit_text _ ?_)).append (hfit'.mono ?_)).append (hfit.mono ?_)
  · simp [ownSchema]
  · simp [ownSchema]
  · exact fun x hx => by simp [ownSchema, hx]
  · exact fun x hx => by simp [ownSchema, hx]

theorem fit_containerFacts (identity : PodIdentity) (c : Cluster.Container)
    (status : Option Cluster.ContainerStatus) :
    (containerFacts identity c status).Fit (ownSchema "container") := by
  obtain ⟨rest, hcontainer, hfit⟩ := containerFacts_eq identity c status
  obtain ⟨rest', hidentity, hfit'⟩ := identity_facts_eq identity
  rw [hcontainer, hidentity]
  refine ((((fit_text _ ?_).append (fit_text _ ?_)).append (hfit'.mono ?_)).append
    (fit_text _ ?_)).append (hfit.mono ?_)
  · simp [ownSchema]
  · simp [ownSchema]
  · exact fun x hx => by simp [ownSchema, hx]
  · simp [ownSchema]
  · exact fun x hx => by simp [ownSchema, hx]

theorem fit_nodeFacts (n : NodeStats) : (nodeFacts n).Fit (ownSchema "node") := by
  obtain ⟨rest, hnode, hfit⟩ := nodeFacts_eq n
  rw [hnode]
  exact (fit_text _ (List.mem_cons_self ..)).append (hfit.mono (List.subset_cons_self _ _))

theorem fit_volumeFacts (pod : Reference) (v : VolumeStats) :
    (volumeFacts pod v).Fit (ownSchema "volume") := by
  obtain ⟨rest, hvolume, hfit⟩ := volumeFacts_eq pod v
  rw [hvolume]
  refine (((fit_text _ ?_).append (fit_text _ ?_)).append (fit_text _ ?_)).append (hfit.mono ?_)
  · simp [ownSchema]
  · simp [ownSchema]
  · simp [ownSchema]
  · exact List.subset_append_right _ _

/-! ### The steps -/

/-- A change of raw metrics that adds facts of a schema. -/
def Adds (schema : Schema) (f : RawMetrics → RawMetrics) : Prop :=
  ∀ m, ∃ facts : Facts, f m = m.insertAll facts ∧ facts.Fit schema

/-- Raw metrics by which a subject is recognised. -/
def Subject.MarkedBy (s : Subject) (m : RawMetrics) : Prop :=
  ∀ mark ∈ s.marks, m.get? mark.1 = some (.scalar (.str mark.2))

theorem Facts.Mark.markedBy {facts : Facts} {s : Subject} (h : facts.Mark s) (m : RawMetrics) :
    s.MarkedBy (m.insertAll facts) := by
  intro mark hmark
  rw [Facts.get?_insertAll, h mark hmark, Option.some_or]

theorem Subject.MarkedBy.adds {s : Subject} {m : RawMetrics} {group : String}
    {f : RawMetrics → RawMetrics} (h : s.MarkedBy m) (hf : Adds (lateSchema group) f) :
    s.MarkedBy (f m) := by
  intro mark hmark
  obtain ⟨facts, hfacts, hfit⟩ := hf m
  have hnone := hfit.find?_eq_none fun kind =>
    not_mem_lateSchema group kind (fst_mem_markNames hmark)
  rw [hfacts, Facts.get?_insertAll, hnone, Option.none_or, h mark hmark]

/-- Raw groups that come about by the steps of grouping, with the subjects that were put. -/
inductive Grouped : RawGroups → List Subject → Prop where
  | empty : Grouped .empty []
  /-- Facts about a subject are put at its place, whatever stood there. -/
  | put {groups : RawGroups} {l : List Subject} {facts : Facts} (s : Subject)
    (h : Grouped groups l) (hmark : facts.Mark s) (hfit : facts.Fit (ownSchema s.group)) :
    Grouped (Kubelet.put groups s.group s.rawId facts) (l ++ [s])
  /-- Facts are added to an entity, if it exists. -/
  | change {groups : RawGroups} {l : List Subject} {f : RawMetrics → RawMetrics}
    (group id : String) (h : Grouped groups l) (hf : Adds (lateSchema group) f) :
    Grouped (groups.updateExisting group id f) l

namespace Grouped

variable {groups : RawGroups} {l : List Subject}

/-- If every step adds the subjects of what it is about, a run of steps adds the subjects of all. -/
theorem foldl {α : Type} {step : RawGroups → α → RawGroups} {subjects : α → List Subject}
    (hstep : ∀ groups l x, Grouped groups l → Grouped (step groups x) (l ++ subjects x))
    (xs : List α) (h : Grouped groups l) :
    Grouped (xs.foldl step groups) (l ++ xs.flatMap subjects) := by
  induction xs generalizing groups l with
  | nil => simpa using h
  | cons x rest ih =>
    rw [List.flatMap_cons, List.foldl_cons, ← List.append_assoc]
    exact ih (hstep groups l x h)

/-- Steps that put no subject put none when they are run one after the other. -/
theorem foldl_same {α : Type} {step : RawGroups → α → RawGroups}
    (hstep : ∀ groups x, Grouped groups l → Grouped (step groups x) l)
    (xs : List α) (h : Grouped groups l) : Grouped (xs.foldl step groups) l := by
  induction xs generalizing groups with
  | nil => exact h
  | cons x rest ih => exact ih (hstep groups x h)

/-! ### The list of pods -/

theorem ofPod_eq_nil {pod : Cluster.Pod} (h : PodIdentity.ofPod? pod = none) :
    Subject.ofPod pod = [] := by
  rw [Subject.ofPod]
  split
  · next ns name hspace hname => simp [PodIdentity.ofPod?, hspace, hname] at h
  · rfl

/-- The containers that a pod asks for. -/
def containersOf (pod : Cluster.Pod) : List Cluster.Container :=
  match pod.spec with
  | some spec => spec.containers
  | none => []

theorem ofPod_eq_cons {pod : Cluster.Pod} {identity : PodIdentity}
    (h : PodIdentity.ofPod? pod = some identity) :
    Subject.ofPod pod = .pod identity.space identity.name ::
      (containersOf pod).flatMap fun c => [.container identity.space identity.name c.name] := by
  rw [PodIdentity.ofPod?] at h
  obtain ⟨ns, hspace, h⟩ := Option.bind_eq_some_iff.1 h
  obtain ⟨name, hname, h⟩ := Option.bind_eq_some_iff.1 h
  obtain rfl := Option.some.inj h
  rw [Subject.ofPod, hspace, hname, containersOf, ← List.map_eq_flatMap]
  cases pod.spec <;> rfl

theorem addPod (pod : Cluster.Pod) (h : Grouped groups l) :
    Grouped (Kubelet.addPod groups pod) (l ++ Subject.ofPod pod) := by
  rw [Kubelet.addPod]
  cases hid : PodIdentity.ofPod? pod with
  | none =>
    rw [ofPod_eq_nil hid, List.append_nil]
    exact h
  | some identity =>
    have hpod := h.put (.pod identity.space identity.name) (mark_podFacts identity pod)
      (fit_podFacts identity pod)
    rw [ofPod_eq_cons hid, ← List.singleton_append, ← List.append_assoc]
    refine Grouped.foldl (fun _ _ c hc => ?_) (containersOf pod) hpod
    exact hc.put (.container identity.space identity.name c.name)
      (mark_containerFacts identity c _) (fit_containerFacts identity c _)

theorem ofPods (pods : List Cluster.Pod) :
    Grouped (Kubelet.ofPods pods) (pods.flatMap Subject.ofPod) :=
  Grouped.foldl (fun _ _ pod h => h.addPod pod) pods empty

/-! ### The summary -/

theorem addNode (n : NodeStats) (h : Grouped groups l) :
    Grouped (Kubelet.addNode groups n) (l ++ Subject.ofNode n) := by
  rw [Kubelet.addNode, Subject.ofNode]
  split
  · rwa [List.append_nil]
  · exact h.put (.node n.nodeName) (mark_nodeFacts n) (fit_nodeFacts n)

theorem addContainerUsage (pod : Reference) (c : ContainerStats) (h : Grouped groups l) :
    Grouped (Kubelet.addContainerUsage pod groups c) l := by
  refine h.change "container" _ fun m => ⟨_, rfl, ?_⟩
  exact (fit_containerUsageFacts c).mono (List.subset_append_left _ _)

/-- A summary of a pod puts its volumes, and adds amounts to what is known already. -/
theorem addPodUsage (p : PodStats) (h : Grouped groups l) :
    Grouped (Kubelet.addPodUsage groups p) (l ++ Subject.ofUsage p) := by
  have hnetwork := h.change "pod" (podId p.pod.space p.pod.name)
    (f := fun m => m.insertAll (factsOf networkFacts p.network))
    fun m => ⟨_, rfl, fit_factsOf _ fit_networkFacts⟩
  have hcontainers := foldl_same (fun _ c hd => hd.addContainerUsage p.pod c) p.containers hnetwork
  rw [Subject.ofUsage, List.map_eq_flatMap]
  refine Grouped.foldl (fun _ _ v hv => ?_) p.volumes hcontainers
  exact hv.put (.volume p.pod.space p.pod.name v.name) (mark_volumeFacts p.pod v)
    (fit_volumeFacts p.pod v)

theorem addSummary (summary : Summary) (h : Grouped groups l) :
    Grouped (Kubelet.addSummary groups summary)
      (l ++ Subject.ofNode summary.node ++ summary.pods.flatMap Subject.ofUsage) :=
  Grouped.foldl (fun _ _ p hp => hp.addPodUsage p) summary.pods (h.addNode summary.node)

/-! ### Series and labels -/

theorem adds_fillMissing {schema : Schema} {key : String} (value : String)
    (h : (key, "string") ∈ schema) : Adds schema (fillMissing key value) := by
  intro m
  rw [fillMissing]
  split
  · exact ⟨[], rfl, fit_nil⟩
  · exact ⟨Facts.text key value, rfl, fit_text value h⟩

theorem adds_comp {schema : Schema} {f g : RawMetrics → RawMetrics} (hg : Adds schema g)
    (hf : Adds schema f) : Adds schema fun m => g (f m) := by
  intro m
  obtain ⟨facts, hfacts, hfit⟩ := hf m
  obtain ⟨more, hmore, hfit'⟩ := hg (f m)
  refine ⟨facts ++ more, ?_, hfit.append hfit'⟩
  change g (f m) = _
  rw [hmore, hfacts, TextMap.insertAll, TextMap.insertAll, TextMap.insertAll, List.foldl_append]

theorem adds_fillIds (sample : Sample) : Adds (lateSchema "container") (fillIds sample) := by
  have himage : Adds (lateSchema "container")
      (fillMissing "containerImageID" (sample.label "image")) :=
    adds_fillMissing _ (by simp [lateSchema])
  have hcontainer : Adds (lateSchema "container")
      (fillMissing "containerID" (String.ofList (Text.afterLast '/' (sample.label "id").toList))) :=
    adds_fillMissing _ (by simp [lateSchema])
  exact (adds_comp himage hcontainer :)

theorem addSample (sample : Sample) (h : Grouped groups l) :
    Grouped (Kubelet.addSample groups sample) l := by
  rw [Kubelet.addSample]
  split
  · exact h.change "container" _ (adds_fillIds sample)
  · exact h

theorem addSeries (families : List Family) (h : Grouped groups l) :
    Grouped (Kubelet.addSeries groups families) l :=
  foldl_same (fun _ sample hs => hs.addSample sample) _ h

theorem addNodeLabels (name : String) (labels : TextMap String) (h : Grouped groups l) :
    Grouped (Kubelet.addNodeLabels name labels groups) l := by
  refine h.change "node" name fun m => ⟨[("labels", .labels labels)], rfl, ?_⟩
  intro f hf
  obtain rfl := List.mem_singleton.1 hf
  exact List.mem_singleton_self _

/-- Labels of the node put no subject, whatever the API answers. -/
theorem completeNode (w : Surroundings) (timeout : Time.Span) (name : String) (data : SourceGroups)
    (h : Grouped data.groups l) :
    Grouped (Kubelet.completeNode w timeout name data).value.groups l := by
  rw [Kubelet.completeNode]
  split
  · exact h
  · rw [Traced.value_bind]
    split
    · next labels _ => exact h.addNodeLabels name labels
    · exact h

end Grouped

/-- Grouping documents is a run of steps that puts the subjects that the documents report on. -/
theorem grouped_ofDocuments (pods : List Cluster.Pod) (summary : Summary)
    (series : Except GroupError (List Family)) :
    Grouped (ofDocuments pods summary series).groups (reported pods summary) := by
  have hsummary := (Grouped.ofPods pods).addSummary summary
  cases series with
  | ok families => exact hsummary.addSeries families
  | error e => exact hsummary

end NodeTelemetry.Kubelet
