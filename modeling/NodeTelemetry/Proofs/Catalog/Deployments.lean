import NodeTelemetry.Proofs.Catalog.Naming
import NodeTelemetry.Proofs.Kubelet.Deployments
import NodeTelemetry.Proofs.StateMetrics.PendingPods
import NodeTelemetry.Proofs.Text.Pieces

/-!
# The deployment on every path

A replica set is called after its deployment, with a hash behind the last hyphen. The name of the deployment is cut out
of it on four paths: for replica sets and for pending pods, from labels of their samples, and for the pods and the
containers of the kubelet, from the first owner of the pod. All of them recover the same name, however many hyphens it
has, and write it under the same name of a metric, under which nothing else is written.

## Main definitions

* `Catalog.Publishes`: a run appends a metric set for a raw entity.
* `Catalog.NamesDeployment`: what the metric sets of a raw entity say about its deployment.

## Main statements

* `deploymentOfReplicaSet_append`, `deploymentOfReplicaSet_eq_empty_iff`: the part before the last hyphen.
* `Catalog.value?_of_sole`: the value of a metric that one specification alone writes.
* `Catalog.deployments_agree`: the deployment on every path.
-/

namespace NodeTelemetry

/-! ### Names of replica sets -/

/-- The hash is cut off, whatever the name of the deployment is. -/
theorem deploymentOfReplicaSet_append (d : String) {h : String} (hh : '-' ∉ h.toList) :
    deploymentOfReplicaSet (d ++ "-" ++ h) = d := by
  have hchars : (d ++ "-" ++ h).toList = d.toList ++ '-' :: h.toList := by
    simp
  rw [deploymentOfReplicaSet, hchars, Text.cutAtLast_append hh]
  exact String.ofList_toList

/-- Without a hyphen behind the first character there is no deployment. -/
theorem deploymentOfReplicaSet_eq_empty_iff {name : String} :
    deploymentOfReplicaSet name = "" ↔ '-' ∉ name.toList.tail := by
  rw [deploymentOfReplicaSet]
  cases hcut : Text.cutAtLast '-' name.toList with
  | none =>
    have hnot := Text.cutAtLast_eq_none.1 hcut
    simpa using fun hmem => hnot (List.mem_of_mem_tail hmem)
  | some parts =>
    obtain ⟨before, after⟩ := parts
    obtain ⟨hname, hafter⟩ := Text.cutAtLast_eq_some hcut
    rw [hname]
    cases before with
    | nil => simpa using hafter
    | cons c before => simp [← String.toList_inj]

theorem deploymentOfCreator_eq_empty_iff {kind name : String} :
    deploymentOfCreator kind name = "" ↔ kind ≠ "ReplicaSet" ∨ '-' ∉ name.toList.tail := by
  rw [deploymentOfCreator]
  split
  · next hkind => simp [hkind, deploymentOfReplicaSet_eq_empty_iff]
  · next hkind => simp [hkind]

/-! ### A metric of one specification -/

section Sole

variable {cluster group id name : String} {groups : RawGroups} {spec : Spec}

/-- A specification writes nothing under the names that its writes do not have. -/
theorem Spec.written?_eq_none_of_writes (h : ∀ w ∈ spec.writes group id groups, w.name ≠ name) :
    spec.written? group id groups name = none := by
  cases hfetch : spec.fetch group id groups with
  | error e => exact written?_of_error hfetch
  | ok v =>
    rw [writes_of_ok hfetch, List.forall_mem_map] at h
    rw [written?_of_ok hfetch, List.findSome?_eq_none_iff]
    exact fun x hx => if_neg (h x (List.mem_reverse.1 hx))

theorem findSome?_eq_filter {α β : Type} {f : α → Option β} {p : α → Bool} {l : List α}
    (h : ∀ a ∈ l, p a = false → f a = none) : l.findSome? f = (l.filter p).findSome? f := by
  induction l with
  | nil => rfl
  | cons a rest ih =>
    obtain ⟨ha, hrest⟩ := List.forall_mem_cons.1 h
    cases hp : p a with
    | true => rw [List.filter_cons_of_pos hp, List.findSome?_cons, List.findSome?_cons, ih hrest]
    | false => rw [List.filter_cons_of_neg (by simp [hp]), List.findSome?_cons, ha hp, ih hrest]

namespace Catalog

/-- The value of a metric that one specification alone writes is what that specification writes. -/
theorem value?_of_sole {specs : SpecGroup} (key : EntityKey) (eventType : String)
    (hsole : specs.specs.filter (fun s => s.name = name) = [spec]) (hidentity : name ∉ identityNames)
    (hunmarked : StateMetrics.Unmarked name)
    (hnames : ∀ s ∈ specs.specs, ∀ w ∈ s.writes group id groups, s.MayName w.name) :
    ((populator cluster).metricSet specs group id groups key eventType).value? name =
      spec.written? group id groups name := by
  have hothers : ∀ s ∈ specs.specs.reverse, decide (s.name = name) = false →
      s.written? group id groups name = none := by
    intro s hs hne
    refine Spec.written?_eq_none_of_writes fun w hw hwname => ?_
    rcases hnames s (List.mem_reverse.1 hs) w hw with hown | ⟨label, hlabel⟩
    · exact of_decide_eq_false hne (hown.symm.trans hwname)
    · exact hunmarked.ne_label label (hwname.symm.trans hlabel)
  have hcluster : (populator cluster).cluster = cluster := rfl
  rw [Populator.value?_metricSet, findSome?_eq_filter hothers, List.filter_reverse, hsole, hcluster,
    StateMetrics.value?_manipulate key eventType hidentity, Option.or_none, List.reverse_singleton,
    List.findSome?_singleton]

end Catalog

end Sole

namespace Catalog

open Kubelet (Subject ListedOnce PodIdentity)

/-! ### Metric sets with a deployment -/

/-- A run appends a metric set for a raw entity, and has it in every store that it is given. -/
def Publishes (cluster : String) (groups : RawGroups) (specs : SpecGroups) (group id : String) : Prop :=
  ∃ key set, ((group, id), Step.append key set) ∈ (populator cluster).stepsBy groups specs ∧
    ∀ store : EntityStore, store.Built →
      ∃ e ∈ ((populator cluster).populate groups specs store).2.entities.toList, e.key = key ∧ set ∈ e.sets

/-- What a run appends for a raw entity names this deployment, or none. -/
def NamesDeployment (cluster : String) (groups : RawGroups) (specs : SpecGroups) (group id : String)
    (deployment : Option String) : Prop :=
  ∀ key set, ((group, id), Step.append key set) ∈ (populator cluster).stepsBy groups specs →
    set.value? "deploymentName" = deployment.map MetricValue.text

section Sets

variable {cluster group id : String} {groups : RawGroups} {specs : SpecGroups} {spec : SpecGroup} {fetch : Fetch}

theorem publishes_of_report {key : EntityKey} {set : MetricSet} (hspec : specs.get? group = some spec)
    (hsome : (groups.entity? group id).isSome)
    (hreport : ((populator cluster).report spec group id groups).step = some (.append key set)) :
    Publishes cluster groups specs group id := by
  have hstep := Populator.mem_stepsBy_iff.2 ⟨spec, hspec, hsome, hreport⟩
  exact ⟨key, set, hstep, fun _ hstore => Populator.mem_sets_of_mem_stepsBy hstore.indexed hstep⟩

/-- The metric sets of a raw entity name the deployment that the one specification of its name writes. -/
theorem namesDeployment_of_written {deployment : Option String} (hgroup : group ≠ "")
    (hspec : specs.get? group = some spec)
    (hsole : spec.specs.filter (fun s => s.name = "deploymentName") = [⟨"deploymentName", fetch, .attr⟩])
    (hnames : (groups.entity? group id).isSome →
      ∀ s ∈ spec.specs, ∀ w ∈ s.writes group id groups, s.MayName w.name)
    (hwritten : Spec.written? ⟨"deploymentName", fetch, .attr⟩ group id groups "deploymentName" =
      deployment.map MetricValue.text) : NamesDeployment cluster groups specs group id deployment := by
  intro key set hstep
  obtain ⟨spec', hspec', hsome, hreport⟩ := Populator.mem_stepsBy_iff.1 hstep
  obtain rfl := Option.some.inj (hspec.symm.trans hspec')
  obtain ⟨-, eventType, -, rfl⟩ := of_step_append hgroup hreport
  rw [value?_of_sole key eventType hsole (by decide) (by decide) (hnames hsome), hwritten]

theorem written?_deploymentName {d : String} (h : fetch group id groups = .ok (.scalar (.str d))) :
    Spec.written? ⟨"deploymentName", fetch, .attr⟩ group id groups "deploymentName" = some (.text d) := by
  have hspec : (⟨"deploymentName", fetch, .attr⟩ : Spec).fetch group id groups = .ok (.scalar (.str d)) := h
  exact Spec.written?_scalar hspec

end Sets

/-! ### Replica sets and pending pods -/

section StateMetrics

open StateMetrics (grouped label_eq_ok_iff get?_stateMetricsSpecs_iff)

variable {samples : List (String × Sample)} {id d h : String}

theorem isSome_entity?_of_label {groups : RawGroups} {group series name value : String}
    (hlabel : groups.label group id series name = .ok value) : (groups.entity? group id).isSome := by
  obtain ⟨s, hs, -⟩ := label_eq_ok_iff.1 hlabel
  obtain ⟨m, hm, -⟩ := Option.bind_eq_some_iff.1 (StateMetrics.sample_eq_ok_iff.1 hs)
  simp [hm]

theorem fetch_replicaSetDeployment {groups : RawGroups} (hh : '-' ∉ h.toList)
    (hlabel : groups.label "replicaset" id "kube_replicaset_created" "replicaset" = .ok (d ++ "-" ++ h)) :
    Fetch.replicaSetDeployment "replicaset" id groups = .ok (.scalar (.str d)) := by
  rw [Fetch.replicaSetDeployment, Fetch.ofText, hlabel]
  simp only [Except.map, deploymentOfReplicaSet_append d hh]

theorem fetch_podDeployment {groups : RawGroups} (hh : '-' ∉ h.toList)
    (hkind : groups.label "pod" id "kube_pod_info" "created_by_kind" = .ok "ReplicaSet")
    (hname : groups.label "pod" id "kube_pod_info" "created_by_name" = .ok (d ++ "-" ++ h)) :
    Fetch.podDeployment "pod" id groups = .ok (.scalar (.str d)) := by
  rw [Fetch.podDeployment, Fetch.ofText, hkind, hname]
  simp only [bind, Except.bind, Except.map, deploymentOfCreator, if_true, deploymentOfReplicaSet_append d hh]

/-- The metric sets of a replica set name its deployment, and it has one where its namespace is known. -/
theorem replicaSet_names (cluster : String) (hd : d ≠ "") (hh : '-' ∉ h.toList)
    (hlabel : (grouped samples).label "replicaset" id "kube_replicaset_created" "replicaset" =
      .ok (d ++ "-" ++ h)) :
    NamesDeployment cluster (grouped samples) stateMetricsSpecs "replicaset" id (some d) ∧
    ((∃ ns, (grouped samples).label "replicaset" id "kube_replicaset_created" "namespace" = .ok ns) →
      Publishes cluster (grouped samples) stateMetricsSpecs "replicaset" id) := by
  have hspec : stateMetricsSpecs.get? "replicaset" = some replicaSetSpecs :=
    get?_stateMetricsSpecs_iff.2 (by simp)
  have hfetch := fetch_replicaSetDeployment hh hlabel
  constructor
  · exact namesDeployment_of_written (by decide) hspec rfl
      (fun hsome _ hs _ hw => mayName_stateMetrics hspec hsome hs hw) (written?_deploymentName hfetch)
  · rintro ⟨ns, hns⟩
    have htype : replicaSetSpecs.typeOf "replicaset" id (grouped samples) cluster =
        .ok ("k8s:" ++ cluster ++ ":" ++ ns ++ ":" ++ "replicaset") :=
      (StateMetrics.labelType_eq_ok_iff (by decide) (by decide)).2 ⟨ns, hns, rfl⟩
    have hne : d ++ "-" ++ h ≠ "" := by
      simp [hd]
    have hkey : (populator cluster).keyOf replicaSetSpecs "replicaset" id (grouped samples) =
        .ok ⟨d ++ "-" ++ h, _⟩ :=
      Populator.keyOf_eq_ok_iff.2 ⟨hlabel, htype, hne, StateMetrics.type_ne_empty _ _ _⟩
    have hdeployment : (⟨"deploymentName", Fetch.replicaSetDeployment, .attr⟩ : Spec) ∈ replicaSetSpecs.specs := by
      simp [replicaSetSpecs]
    exact publishes_of_report hspec (isSome_entity?_of_label hlabel)
      (Populator.report_step_append hkey rfl (Populator.isAccepted_of_fetch hdeployment hfetch (by decide)))

/-- The metric sets of a pending pod name the deployment of the replica set that made it. -/
theorem pendingPod_names (cluster : String) (hh : '-' ∉ h.toList)
    (hkind : (grouped samples).label "pod" id "kube_pod_info" "created_by_kind" = .ok "ReplicaSet")
    (hname : (grouped samples).label "pod" id "kube_pod_info" "created_by_name" = .ok (d ++ "-" ++ h)) :
    NamesDeployment cluster (grouped samples) stateMetricsSpecs "pod" id (some d) ∧
    (StateMetrics.IsPending samples id → Publishes cluster (grouped samples) stateMetricsSpecs "pod" id) := by
  constructor
  · exact namesDeployment_of_written (by decide) StateMetrics.get?_pod rfl
      (fun hsome _ hs _ hw => mayName_stateMetrics StateMetrics.get?_pod hsome hs hw)
      (written?_deploymentName (fetch_podDeployment hh hkind hname))
  · intro hpending
    obtain ⟨key, hkey⟩ := (StateMetrics.exists_key_iff_isPending cluster).2 hpending
    exact publishes_of_report StateMetrics.get?_pod (isSome_entity?_of_label hkind)
      (StateMetrics.report_step_of_isPending hkey)

end StateMetrics

/-! ### Pods and containers of the kubelet -/

section Kubelet

variable {pods : List Cluster.Pod} {pod : Cluster.Pod} {p : PodIdentity} {s : Subject}

theorem written?_rawDeployment {group id : String} {groups : RawGroups} {deployment : Option String}
    (h : groups.raw? group id "deploymentName" = deployment.map fun d => .scalar (.str d)) :
    (rawAttribute "deploymentName").written? group id groups "deploymentName" =
      deployment.map MetricValue.text := by
  rw [RawGroups.raw?] at h
  cases deployment with
  | some d =>
    obtain ⟨m, hm, hget⟩ := Option.bind_eq_some_iff.1 h
    refine written?_deploymentName ?_
    rw [Fetch.raw, RawGroups.metric_eq_ok hm hget]
    rfl
  | none =>
    have hfetch : ∃ e, (rawAttribute "deploymentName").fetch group id groups = .error e := by
      simp only [rawAttribute, Fetch.raw, RawGroups.metric, RawGroups.entity]
      cases hm : groups.entity? group id with
      | none => exact ⟨_, rfl⟩
      | some m =>
        have hget : m.get? "deploymentName" = none := by
          rwa [hm] at h
        simp only [hget]
        exact ⟨_, rfl⟩
    obtain ⟨e, he⟩ := hfetch
    exact Spec.written?_of_error he

theorem deployment?_of_replicaSet {d h : String} (hd : d ≠ "") (hh : '-' ∉ h.toList)
    (hp : PodIdentity.ofPod? pod = some p)
    (howner : pod.metadata.owners.head? = some ⟨"ReplicaSet", d ++ "-" ++ h⟩) : p.deployment? = some d := by
  have hdeployment : p.deployment = d := by
    rw [Kubelet.deployment_of_ofPod? hp, howner]
    exact deploymentOfReplicaSet_append d hh
  rw [PodIdentity.deployment?, hdeployment, if_neg hd]

/-- A pod without a deployment is one of which the first owner implies none. -/
theorem deployment?_eq_none_iff (hp : PodIdentity.ofPod? pod = some p) : p.deployment? = none ↔
    ∀ owner ∈ pod.metadata.owners.head?, owner.kind ≠ "ReplicaSet" ∨ '-' ∉ owner.name.toList.tail := by
  have hempty : p.deployment? = none ↔ p.deployment = "" := by
    simp [PodIdentity.deployment?]
  rw [hempty, Kubelet.deployment_of_ofPod? hp]
  cases pod.metadata.owners with
  | nil => simp
  | cons owner rest => simp [deploymentOfCreator_eq_empty_iff]

/-- Of the specifications of pods and containers, one has the name of the deployment. -/
theorem sole_deployment (hs : s ∈ Subject.ofPod pod) :
    s.specs.specs.filter (fun spec => spec.name = "deploymentName") = [rawAttribute "deploymentName"] := by
  obtain ⟨p, hp⟩ := Kubelet.exists_identity_of_mem_ofPod hs
  rcases (Kubelet.mem_ofPod_iff hp).1 hs with rfl | ⟨c, -, rfl⟩ <;> rfl

variable (cluster : String) (w : Surroundings) (timeout : Time.Span) (summary : Kubelet.Summary)
  (series : Except GroupError (List Family))

/-- The metric sets of a pod and its containers name the deployment of the pod. -/
theorem subject_names (hlisted : ListedOnce pods) (hnames : ∀ pod ∈ pods, ∀ s ∈ Subject.ofPod pod, s.Separable)
    (hpod : pod ∈ pods) (hp : PodIdentity.ofPod? pod = some p) (hs : s ∈ Subject.ofPod pod) :
    NamesDeployment cluster (Kubelet.groupsOf w timeout pods summary series) kubeletSpecs s.group s.rawId
      p.deployment? := by
  have hgroup : s.group ≠ "" := by
    cases s <;> simp [Subject.group]
  have hgrouped := Kubelet.grouped_groupsOf w timeout pods summary series
  have hspec := Kubelet.get?_kubeletSpecs s
  have hraw := Kubelet.raw?_groupsOf w timeout summary series hlisted hnames hpod hp hs
  exact namesDeployment_of_written hgroup hspec (sole_deployment hs)
    (fun hsome _ hmem _ hw => mayName_kubelet hgrouped hspec hsome hmem hw) (written?_rawDeployment hraw)

theorem subject_publishes (hnames : ∀ pod ∈ pods, ∀ s ∈ Subject.ofPod pod, s.Separable) (hpod : pod ∈ pods)
    (hs : s ∈ Subject.ofPod pod) (hname : s.entityName ≠ "") :
    Publishes cluster (Kubelet.groupsOf w timeout pods summary series) kubeletSpecs s.group s.rawId := by
  have hgrouped := Kubelet.grouped_groupsOf w timeout pods summary series
  obtain ⟨m, hm, hmarks⟩ := Kubelet.exists_marked_of_mem_ofPod hgrouped hnames hpod hs
  have hkey := Kubelet.keyOf_of_marked cluster hm hmarks hname
  exact publishes_of_report (Kubelet.get?_kubeletSpecs s) (by simp [hm])
    (Populator.report_step_append hkey (Kubelet.eventType_group s) (Kubelet.isAccepted_of_marked hm hmarks))

end Kubelet

/-! ### Every path -/

/-- On every path a replica set leads to the deployment before the last hyphen of its name: the metric sets of the
replica set itself, of the pending pods that it made, and of the pods and containers of the kubelet of which it is the
first owner all name this deployment. A pod of the kubelet with another first owner, or with a replica set that has no
hyphen behind the first character of its name, has no deployment, and neither have its containers. -/
theorem deployments_agree (cluster : String) (samples : List (String × Sample)) (w : Surroundings)
    (timeout : Time.Span) {pods : List Cluster.Pod} (summary : Kubelet.Summary)
    (series : Except GroupError (List Family)) (hlisted : ListedOnce pods)
    (hnames : ∀ pod ∈ pods, ∀ s ∈ Subject.ofPod pod, s.Separable) :
    let observed := StateMetrics.grouped samples
    let groups := Kubelet.groupsOf w timeout pods summary series
    (∀ d h : String, d ≠ "" → '-' ∉ h.toList →
      (∀ id, observed.label "replicaset" id "kube_replicaset_created" "replicaset" = .ok (d ++ "-" ++ h) →
        NamesDeployment cluster observed stateMetricsSpecs "replicaset" id (some d) ∧
        ((∃ ns, observed.label "replicaset" id "kube_replicaset_created" "namespace" = .ok ns) →
          Publishes cluster observed stateMetricsSpecs "replicaset" id)) ∧
      (∀ id, observed.label "pod" id "kube_pod_info" "created_by_kind" = .ok "ReplicaSet" →
        observed.label "pod" id "kube_pod_info" "created_by_name" = .ok (d ++ "-" ++ h) →
        NamesDeployment cluster observed stateMetricsSpecs "pod" id (some d) ∧
        (StateMetrics.IsPending samples id → Publishes cluster observed stateMetricsSpecs "pod" id)) ∧
      ∀ pod ∈ pods, pod.metadata.owners.head? = some ⟨"ReplicaSet", d ++ "-" ++ h⟩ → ∀ s ∈ Subject.ofPod pod,
        NamesDeployment cluster groups kubeletSpecs s.group s.rawId (some d)) ∧
    (∀ pod ∈ pods, (∀ owner ∈ pod.metadata.owners.head?,
        owner.kind ≠ "ReplicaSet" ∨ '-' ∉ owner.name.toList.tail) → ∀ s ∈ Subject.ofPod pod,
      NamesDeployment cluster groups kubeletSpecs s.group s.rawId none) ∧
    ∀ pod ∈ pods, ∀ s ∈ Subject.ofPod pod, s.entityName ≠ "" →
      Publishes cluster groups kubeletSpecs s.group s.rawId := by
  intro observed groups
  refine ⟨fun d h hd hh => ⟨fun id hlabel => ?_, fun id hkind hname => ?_, ?_⟩, ?_, ?_⟩
  · exact replicaSet_names cluster hd hh hlabel
  · exact pendingPod_names cluster hh hkind hname
  · intro pod hpod howner s hs
    obtain ⟨p, hp⟩ := Kubelet.exists_identity_of_mem_ofPod hs
    rw [← deployment?_of_replicaSet hd hh hp howner]
    exact subject_names cluster w timeout summary series hlisted hnames hpod hp hs
  · intro pod hpod howner s hs
    obtain ⟨p, hp⟩ := Kubelet.exists_identity_of_mem_ofPod hs
    rw [← (deployment?_eq_none_iff hp).2 howner]
    exact subject_names cluster w timeout summary series hlisted hnames hpod hp hs
  · intro pod hpod s hs hname
    exact subject_publishes cluster w timeout summary series hnames hpod hs hname

/-- A replica set of a deployment with a hyphen in its name, and a pending pod that it made. -/
def hyphenSamples : List (String × Sample) := [
  ("kube_replicaset_created", ⟨1.0, .ofList [("namespace", "shop"), ("replicaset", "web-api-7d4b9")]⟩),
  ("kube_pod_status_phase", ⟨1.0, .ofList [("namespace", "shop"), ("pod", "web-2"), ("phase", "Pending")]⟩),
  ("kube_pod_info", ⟨1.0, .ofList [("namespace", "shop"), ("pod", "web-2"), ("created_by_kind", "ReplicaSet"),
    ("created_by_name", "web-api-7d4b9")]⟩)]

/-- A pod of that replica set, which has another owner too. -/
def ownedPod : Cluster.Pod :=
  { Kubelet.shopPod with metadata := { Kubelet.shopPod.metadata with
      owners := [⟨"ReplicaSet", "web-api-7d4b9"⟩, ⟨"Job", "clean-up"⟩] } }

/-- A pod of a daemon, which no deployment has. -/
def daemonPod : Cluster.Pod :=
  { Kubelet.shopPod with metadata := { Kubelet.shopPod.metadata with
      name := some "agent", owners := [⟨"DaemonSet", "agent-7d4b9"⟩] } }

theorem deployments_agree_hyphens :
    let observed := StateMetrics.grouped hyphenSamples
    let groups := Kubelet.groupsOf .unreachable (.ofSeconds 5) [ownedPod, daemonPod] Kubelet.shopSummary (.ok [])
    (Publishes "prod" observed stateMetricsSpecs "replicaset" "shop_web-api-7d4b9" ∧
      NamesDeployment "prod" observed stateMetricsSpecs "replicaset" "shop_web-api-7d4b9" (some "web-api")) ∧
    (Publishes "prod" observed stateMetricsSpecs "pod" "shop_web-2" ∧
      NamesDeployment "prod" observed stateMetricsSpecs "pod" "shop_web-2" (some "web-api")) ∧
    (Publishes "prod" groups kubeletSpecs "container" "shop_web-1_nginx" ∧
      NamesDeployment "prod" groups kubeletSpecs "container" "shop_web-1_nginx" (some "web-api")) ∧
    Publishes "prod" groups kubeletSpecs "pod" "shop_agent" ∧
      NamesDeployment "prod" groups kubeletSpecs "pod" "shop_agent" none := by
  intro observed groups
  have hlisted : ListedOnce [ownedPod, daemonPod] := by
    decide
  have hnames : ∀ pod ∈ [ownedPod, daemonPod], ∀ s ∈ Subject.ofPod pod, s.Separable := by
    decide
  obtain ⟨hsome, hnone, hpublishes⟩ := deployments_agree "prod" hyphenSamples .unreachable (.ofSeconds 5)
    Kubelet.shopSummary (.ok []) hlisted hnames
  obtain ⟨hreplicaSet, hpending, howned⟩ := hsome "web-api" "7d4b9" (by decide) (by decide)
  obtain ⟨hsets, hset⟩ := hreplicaSet "shop_web-api-7d4b9" rfl
  obtain ⟨hpods, hpod⟩ := hpending "shop_web-2" rfl rfl
  have hwaits : StateMetrics.IsPending hyphenSamples "shop_web-2" :=
    ⟨⟨_, rfl, by decide⟩, _, "web-2", rfl, by decide, by decide⟩
  have hcontainer : Subject.container "shop" "web-1" "nginx" ∈ Subject.ofPod ownedPod := by
    decide
  have hagent : Subject.pod "shop" "agent" ∈ Subject.ofPod daemonPod := by
    decide
  have hfirst : ownedPod ∈ [ownedPod, daemonPod] := List.mem_cons_self ..
  have hsecond : daemonPod ∈ [ownedPod, daemonPod] := List.mem_cons_of_mem _ (List.mem_singleton_self _)
  refine ⟨⟨hset ⟨"shop", rfl⟩, hsets⟩, ⟨hpod hwaits, hpods⟩, ⟨?_, ?_⟩, ?_, ?_⟩
  · exact hpublishes ownedPod hfirst _ hcontainer (by decide)
  · exact howned ownedPod hfirst rfl _ hcontainer
  · exact hpublishes daemonPod hsecond _ hagent (by decide)
  · exact hnone daemonPod hsecond (by decide) _ hagent

end Catalog

end NodeTelemetry
