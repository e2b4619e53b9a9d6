import Mathlib.Data.List.Dedup
import NodeTelemetry.Catalog
import NodeTelemetry.Proofs.Kubelet.Grouping
import NodeTelemetry.Proofs.Populate.Causes

/-!
# The entities of the kubelet

What the documents of the kubelet report on is published once and under a key of its own: the catalog finds the key
of every subject, accepts at least one of its raw metrics, and so gives it one metric set of the event
type of its group.

## Main statements

* `keyOf_of_marked`: the key that the catalog gives to a subject.
* `subjects_perm_of_describes`: what is populated.
* `entities_ofDocuments`: the entities of documents.
-/

namespace NodeTelemetry.Kubelet

/-! ### The catalog on a subject -/

/-- The specifications of the group of a subject. -/
def Subject.specs : Subject → SpecGroup
  | pod .. => Catalog.podSpecs
  | container .. => Catalog.containerSpecs
  | volume .. => Catalog.volumeSpecs
  | node _ => Catalog.nodeSpecs

theorem get?_kubeletSpecs (s : Subject) : Catalog.kubeletSpecs.get? s.group = some s.specs := by
  cases s <;>
    simp [Catalog.kubeletSpecs, TextMap.ofList, TextMap.insertAll, TextMap.get?_insert,
      Subject.group, Subject.specs]

theorem eventType_group (s : Subject) : Catalog.eventType s.group = .ok s.eventType := by
  cases s with
  | pod ns name =>
    show Catalog.eventType "pod" = .ok "K8sPodSample"
    rfl
  | container ns p name =>
    show Catalog.eventType "container" = .ok "K8sContainerSample"
    rfl
  | volume ns p name =>
    show Catalog.eventType "volume" = .ok "K8sVolumeSample"
    rfl
  | node name =>
    show Catalog.eventType "node" = .ok "K8sNodeSample"
    rfl

section Marked

variable {groups : RawGroups} {m : RawMetrics} {s : Subject}

/-- A raw metric by which a subject is recognised is found as a text. -/
theorem text_of_marked (hm : groups.entity? s.group s.rawId = some m) (hmarks : s.MarkedBy m)
    (mark : String × String) (hmark : mark ∈ s.marks) :
    groups.text s.group s.rawId mark.1 = .ok mark.2 :=
  RawGroups.text_eq_ok hm (hmarks mark hmark)

theorem nameOf_of_marked (hm : groups.entity? s.group s.rawId = some m) (hmarks : s.MarkedBy m) :
    s.specs.nameOf s.group s.rawId groups = .ok s.entityName := by
  have text := text_of_marked hm hmarks
  cases s with
  | pod ns name =>
    have hns := text ("namespace", ns) (by simp [Subject.marks])
    have hcut : (ns ++ "_").toList.isPrefixOf? (Subject.pod ns name).rawId.toList =
        some name.toList := by
      rw [Subject.rawId, podId, String.toList_append (s := ns ++ "_")]
      exact List.isPrefixOf?_eq_some_iff_append_eq.2 rfl
    simp only [SpecGroup.nameOf, Subject.specs, Catalog.podSpecs, Catalog.podId, hns, hcut,
      String.ofList_toList]
    rfl
  | container ns p name =>
    have hcontainer := text ("containerName", name) (by simp [Subject.marks])
    simp only [SpecGroup.nameOf, Subject.specs, Catalog.containerSpecs, Catalog.containerId,
      hcontainer]
    rfl
  | volume ns p name => rfl
  | node name => rfl

theorem typeOf_of_marked (cluster : String) (hm : groups.entity? s.group s.rawId = some m)
    (hmarks : s.MarkedBy m) :
    s.specs.typeOf s.group s.rawId groups cluster = .ok (s.entityType cluster) := by
  have text := text_of_marked hm hmarks
  have hgenerator : s.specs.typeGenerator = some Catalog.kubeletType := by
    cases s <;> rfl
  simp only [SpecGroup.typeOf, hgenerator]
  cases s with
  | pod ns name =>
    have hns := text ("namespace", ns) (by simp [Subject.marks])
    simp only [Subject.group] at hns
    simp [Catalog.kubeletType, Subject.group, hns, bind, Except.bind, Subject.entityType,
      String.append_assoc]
  | container ns p name =>
    have hns := text ("namespace", ns) (by simp [Subject.marks])
    have hp := text ("podName", p) (by simp [Subject.marks])
    simp only [Subject.group] at hns hp
    simp [Catalog.kubeletType, Subject.group, hns, hp, bind, Except.bind, Subject.entityType,
      String.append_assoc]
  | volume ns p name =>
    have hns := text ("namespace", ns) (by simp [Subject.marks])
    have hp := text ("podName", p) (by simp [Subject.marks])
    simp only [Subject.group] at hns hp
    simp [Catalog.kubeletType, Subject.group, hns, hp, bind, Except.bind, Subject.entityType,
      String.append_assoc]
  | node name =>
    simp [Catalog.kubeletType, Subject.group, Subject.entityType, String.append_assoc]

/-- A subject with a name has the key that its names make. -/
theorem keyOf_of_marked (cluster : String) (hm : groups.entity? s.group s.rawId = some m)
    (hmarks : s.MarkedBy m) (hname : s.entityName ≠ "") :
    (Catalog.populator cluster).keyOf s.specs s.group s.rawId groups = .ok (s.key cluster) :=
  Populator.keyOf_eq_ok_iff.2 ⟨nameOf_of_marked hm hmarks, typeOf_of_marked cluster hm hmarks, hname,
    s.entityType_ne_empty cluster⟩

/-- The raw metric by which a subject is recognised first makes an accepted write. -/
theorem isAccepted_of_marked (hm : groups.entity? s.group s.rawId = some m)
    (hmarks : s.MarkedBy m) :
    (Populator.attempts s.specs s.group s.rawId groups).any Attempt.isAccepted = true := by
  have metric : ∀ mark ∈ s.marks,
      groups.metric s.group s.rawId mark.1 = .ok (.scalar (.str mark.2)) := fun mark hmark =>
    RawGroups.metric_eq_ok hm (hmarks mark hmark)
  cases s with
  | pod ns name =>
    refine Populator.isAccepted_of_text "namespace" ns ?_ ?_ (by decide)
    · simp [Subject.specs, Catalog.podSpecs, Catalog.rawAttribute]
    · exact metric ("namespace", ns) (by simp [Subject.marks])
  | container ns p name =>
    refine Populator.isAccepted_of_text "namespace" ns ?_ ?_ (by decide)
    · simp [Subject.specs, Catalog.containerSpecs, Catalog.rawAttribute]
    · exact metric ("namespace", ns) (by simp [Subject.marks])
  | volume ns p name =>
    refine Populator.isAccepted_of_text "namespace" ns ?_ ?_ (by decide)
    · simp [Subject.specs, Catalog.volumeSpecs, Catalog.rawAttribute]
    · exact metric ("namespace", ns) (by simp [Subject.marks])
  | node name =>
    refine Populator.isAccepted_of_text "nodeName" name ?_ ?_ (by decide)
    · simp [Subject.specs, Catalog.nodeSpecs, Catalog.rawAttribute]
    · exact metric ("nodeName", name) (by simp [Subject.marks])

end Marked

section Describes

variable {groups : RawGroups} {l : List Subject} {s : Subject}

/-- The metric set of a subject. -/
def Subject.metricSet (cluster : String) (groups : RawGroups) (s : Subject) : MetricSet :=
  (Catalog.populator cluster).metricSet s.specs s.group s.rawId groups (s.key cluster) s.eventType

/-- A subject with a name appends its metric set to its entity. -/
theorem report_step_of_describes (cluster : String) (h : Describes groups l) (hs : s ∈ l)
    (hname : s.entityName ≠ "") :
    ((Catalog.populator cluster).report s.specs s.group s.rawId groups).step =
      some (.append (s.key cluster) (s.metricSet cluster groups)) := by
  obtain ⟨m, hm, hmarks⟩ := h.marked s hs
  exact Populator.report_step_append (keyOf_of_marked cluster hm hmarks hname) (eventType_group s)
    (isAccepted_of_marked hm hmarks)

/-- What is populated are the subjects, each once. -/
theorem subjects_perm_of_describes (h : Describes groups l) :
    (Populator.subjects groups Catalog.kubeletSpecs).Perm
      (l.dedup.map fun s => (s.group, s.rawId, s.specs)) := by
  have hleft : (Populator.subjects groups Catalog.kubeletSpecs).Nodup :=
    (Populator.nodup_subjects groups Catalog.kubeletSpecs).of_map _
  have hright : (l.dedup.map fun s => (s.group, s.rawId, s.specs)).Nodup := by
    refine l.nodup_dedup.map_on fun s hs t ht heq => ?_
    have hplace : s.place = t.place :=
      Prod.ext (congrArg (fun x => x.1) heq) (congrArg (fun x => x.2.1) heq)
    exact Subject.place_injective (h.named s (List.mem_dedup.1 hs)).separable
      (h.named t (List.mem_dedup.1 ht)).separable hplace
  rw [List.perm_ext_iff_of_nodup hleft hright]
  rintro ⟨g, id, spec⟩
  rw [Populator.mem_subjects_iff, List.mem_map]
  constructor
  · rintro ⟨hspec, hsome⟩
    obtain ⟨s, hs, hplace⟩ := h.exact g id hsome
    obtain ⟨rfl, rfl⟩ := Prod.mk.inj hplace
    rw [get?_kubeletSpecs] at hspec
    obtain rfl := Option.some.inj hspec
    exact ⟨s, List.mem_dedup.2 hs, rfl⟩
  · rintro ⟨s, hs, heq⟩
    simp only [Prod.mk.injEq] at heq
    obtain ⟨rfl, rfl, rfl⟩ := heq
    obtain ⟨m, hm, -⟩ := h.marked s (List.mem_dedup.1 hs)
    exact ⟨get?_kubeletSpecs s, by rw [hm]; rfl⟩

/-- From groups that hold exactly the subjects of a list the empty store gets one entity for each of them. -/
theorem populate_of_describes (cluster : String) (h : Describes groups l)
    (hname : ∀ s ∈ l, s.entityName ≠ "") :
    ((Catalog.populator cluster).populate groups Catalog.kubeletSpecs .empty).2.entities.toList.Perm
      (l.dedup.map fun s => (⟨s.key cluster, [s.metricSet cluster groups]⟩ : Entity)) := by
  refine Populator.populate_entities (subjects_perm_of_describes h) (fun s hs => ?_) ?_
  · exact report_step_of_describes cluster h (List.mem_dedup.1 hs) (hname s (List.mem_dedup.1 hs))
  · refine l.nodup_dedup.map_on fun s hs t ht heq => ?_
    exact Subject.key_injective (h.named s (List.mem_dedup.1 hs)) (h.named t (List.mem_dedup.1 ht))
      heq

end Describes

/-! ### The entities of documents -/

theorem node_ne_empty {pods : List Cluster.Pod} {summary : Summary} {name : String}
    (h : .node name ∈ reported pods summary) : name ≠ "" := by
  simp only [reported, List.mem_append, List.mem_flatMap] at h
  rcases h with (⟨pod, -, h⟩ | h) | ⟨p, -, h⟩
  · rw [Subject.ofPod] at h
    split at h
    · split at h <;> simp at h
    · simp at h
  · rw [Subject.ofNode] at h
    split at h
    · simp at h
    · next hne =>
      obtain rfl := Subject.node.inj (List.mem_singleton.1 h)
      exact hne
  · simp [Subject.ofUsage] at h

theorem partId_ne_empty (ns pod name : String) : partId ns pod name ≠ "" := by
  intro h
  have hchars := congrArg String.toList h
  simp [partId, podId] at hchars

/-- What documents report on has a name. -/
theorem entityName_ne_empty {pods : List Cluster.Pod} {summary : Summary} {s : Subject}
    (hs : s ∈ reported pods summary) (hnamed : s.WellNamed) : s.entityName ≠ "" := by
  cases s with
  | pod ns name => exact (hnamed name (by simp [Subject.names])).1
  | container ns p name => exact (hnamed name (by simp [Subject.names])).1
  | volume ns p name => exact partId_ne_empty ns p name
  | node name => exact node_ne_empty hs

/-- The raw groups of the kubelet, made of its documents and of what the API answers about the node. -/
def groupsOf (w : Surroundings) (timeout : Time.Span) (pods : List Cluster.Pod) (summary : Summary)
    (series : Except GroupError (List Family)) : RawGroups :=
  (completeNode w timeout summary.node.nodeName (ofDocuments pods summary series)).value.groups

theorem grouped_groupsOf (w : Surroundings) (timeout : Time.Span) (pods : List Cluster.Pod)
    (summary : Summary) (series : Except GroupError (List Family)) :
    Grouped (groupsOf w timeout pods summary series) (reported pods summary) :=
  Grouped.completeNode w timeout _ _ (grouped_ofDocuments pods summary series)

/-- No entity of the kubelet is lost, invented or merged: where names hold no separator, the store of a
cluster has exactly one entity for each subject of the documents, under a key of its own, and each has exactly
one metric set, of the event type of its group. -/
theorem entities_ofDocuments (cluster : String) (w : Surroundings) (timeout : Time.Span)
    (pods : List Cluster.Pod) (summary : Summary) (series : Except GroupError (List Family))
    (hs : ∀ s ∈ reported pods summary, s.WellNamed) :
    let store := ((Catalog.populator cluster).populate (groupsOf w timeout pods summary series)
      Catalog.kubeletSpecs .empty).2
    (store.entities.toList.map fun e => (e.key, e.sets.map MetricSet.eventType)).Perm
        ((reported pods summary).dedup.map fun s => (s.key cluster, [s.eventType])) ∧
      (store.entities.toList.map Entity.key).Nodup := by
  have h := (grouped_groupsOf w timeout pods summary series).describes hs
  have hperm := populate_of_describes cluster h fun s hmem =>
    entityName_ne_empty hmem (hs s hmem)
  refine ⟨(hperm.map _).trans (List.Perm.of_eq ?_), ?_⟩
  · rw [List.map_map]
    refine List.map_congr_left fun s _ => ?_
    simp [Subject.metricSet, Populator.eventType_metricSet]
  · rw [(hperm.map Entity.key).nodup_iff, List.map_map]
    refine (List.nodup_dedup _).map_on fun s hmem t hmem' heq => ?_
    exact Subject.key_injective (hs s (List.mem_dedup.1 hmem)) (hs t (List.mem_dedup.1 hmem')) heq

/-- A pod with one container. -/
def shopPod : Cluster.Pod where
  metadata := ⟨some "web-1", some "shop", .empty, [], none⟩
  spec := some ⟨some "node-a", [⟨"nginx", none, .empty, .empty⟩]⟩
  status := none

/-- A summary of that pod, on a node with a name, with a volume and a container that the list does not know. -/
def shopSummary : Summary where
  node := ⟨"node-a", none, none, none, none, none⟩
  pods := [⟨⟨"web-1", "shop"⟩, [⟨"ghost", none, none, none⟩], none,
    [⟨"data", ⟨none, none, none, none, none, none⟩, none⟩]⟩]

/-- The pod is listed twice and published once; what only the summary knows is published for volumes alone. -/
theorem entities_shop :
    (∀ s ∈ reported [shopPod, shopPod] shopSummary, s.WellNamed) ∧
      let store := ((Catalog.populator "prod").populate
        (groupsOf .unreachable (.ofSeconds 5) [shopPod, shopPod] shopSummary (.ok []))
        Catalog.kubeletSpecs .empty).2
      (store.entities.toList.map fun e => (e.key, e.sets.map MetricSet.eventType)).Perm
          [(⟨"web-1", "k8s:prod:shop:pod"⟩, ["K8sPodSample"]),
            (⟨"nginx", "k8s:prod:shop:web-1:container"⟩, ["K8sContainerSample"]),
            (⟨"node-a", "k8s:prod:node"⟩, ["K8sNodeSample"]),
            (⟨"shop_web-1_data", "k8s:prod:shop:web-1:volume"⟩, ["K8sVolumeSample"])] ∧
        (store.entities.toList.map Entity.key).Nodup := by
  have hs : ∀ s ∈ reported [shopPod, shopPod] shopSummary, s.WellNamed := by
    decide
  have hlist : ((reported [shopPod, shopPod] shopSummary).dedup.map fun s =>
      (s.key "prod", [s.eventType])) =
        [(⟨"web-1", "k8s:prod:shop:pod"⟩, ["K8sPodSample"]),
          (⟨"nginx", "k8s:prod:shop:web-1:container"⟩, ["K8sContainerSample"]),
          (⟨"node-a", "k8s:prod:node"⟩, ["K8sNodeSample"]),
          (⟨"shop_web-1_data", "k8s:prod:shop:web-1:volume"⟩, ["K8sVolumeSample"])] := by
    decide
  have h := entities_ofDocuments "prod" .unreachable (.ofSeconds 5) [shopPod, shopPod] shopSummary
    (.ok []) hs
  rw [hlist] at h
  exact ⟨hs, h⟩

end NodeTelemetry.Kubelet
