import NodeTelemetry.Proofs.Kubelet.Recovery
import NodeTelemetry.Proofs.Pass.Reports
import NodeTelemetry.Proofs.StateMetrics.PodKeys

/-!
# Pods that both sources report

A pod that waits for its node can be known to both sources: kube-state-metrics reports it to be pending, and the
kubelet lists it already. Each source makes the key of the pod by itself, one from the labels of two samples, the other
from a raw ID and a namespace. The keys agree, so the pass of a leader has one entity for the pod, with what
kube-state-metrics knows before what the kubelet knows.

## Main definitions

* `Pass.LeaderPass`: a pass in which both sources are collected.

## Main statements

* `StateMetrics.groups_of_collect`, `Kubelet.groups_of_collect`: the raw groups of the sources by their documents.
* `Pass.LeaderPass.exists_report`: what a pass of a leader reports.
* `Pass.run_unites_pods`: the entity of a pod that both sources report.
-/

namespace NodeTelemetry

/-! ### The raw groups of the sources -/

namespace StateMetrics

variable {c : SourceClient} {w : Surroundings} {data : SourceGroups} {text : String}

/-- What becomes of the request for the series. -/
def seriesAnswer (c : SourceClient) (w : Surroundings) : Except RequestError String :=
  (c.text w metricsPath).run.value

/-- What is collected comes from the series alone. -/
theorem groups_of_collect (htext : seriesAnswer c w = .ok text)
    (h : (collect c w Catalog.stateMetricsQueries Catalog.stateMetricsSpecs.keys).run.value =
      .ok data) : data.groups = grouped (Exposition.read text) := by
  have hfamilies : (fetchFamilies c w Catalog.stateMetricsQueries metricsPath).run.value =
      .ok (Query.families Catalog.stateMetricsQueries (Exposition.read text)) := by
    have hvalue : (c.text w metricsPath).run.value = .ok text := htext
    rw [value_fetchFamilies, hvalue]
    rfl
  rw [collect, Lookup.value_bind, hfamilies] at h
  -- without a family there is no collection
  cases hempty : (Query.families Catalog.stateMetricsQueries (Exposition.read text)).isEmpty with
  | true =>
    simp only [Except.bind, hempty] at h
    cases h
  | false =>
    simp only [Except.bind, hempty] at h
    exact (congrArg SourceGroups.groups (Except.ok.inj h)).symm

end StateMetrics

namespace Kubelet

variable {c : SourceClient} {w : Surroundings} {queries : List Query} {timeout : Time.Span}
  {data : SourceGroups} {pods : List Cluster.Pod}

/-- What is collected comes from the list of pods, a summary and the families that are kept. -/
theorem groups_of_collect (hpods : podsAnswer c w = .ok pods)
    (h : (collect c w queries timeout).run.value = .ok data) :
    ∃ summary, data.groups =
      groupsOf w timeout pods summary (keptFamilies queries (seriesAnswer c w)) := by
  rw [value_collect, hpods] at h
  cases hsummary : summaryAnswer c w with
  | error e => simp [hsummary] at h
  | ok summary =>
    simp only [hsummary] at h
    exact ⟨summary, congrArg SourceGroups.groups (Except.ok.inj h).symm⟩

end Kubelet

namespace Pass

/-- A pass in which the node leads and both sources are collected. -/
structure LeaderPass (config : PassConfig) (w : Surroundings) (now : Time.Instant)
    (cache : EndpointCache) (kubelet stateMetrics : SourceClient) (leading own : SourceGroups) :
    Prop where
  kubelet_eq : (kubeletConnection config w now cache).client = .ok kubelet
  stateMetrics_eq : (stateMetricsConnection config w now cache).client = .ok stateMetrics
  role_eq : role kubelet (.ok stateMetrics) = .leader
  /-- What is collected from kube-state-metrics. -/
  leading_eq : (stateMetricsCollection .standard w stateMetrics).result = .ok leading
  /-- What is collected from the kubelet. -/
  own_eq : (kubeletCollection .standard config w kubelet).result = .ok own

variable {config : PassConfig} {w : Surroundings} {now : Time.Instant} {cache : EndpointCache}
  {kubelet stateMetrics : SourceClient} {leading own : SourceGroups}

theorem collections_of_leader (h : role kubelet (.ok stateMetrics) = .leader) :
    collections .standard config w kubelet (.ok stateMetrics) =
      [stateMetricsCollection .standard w stateMetrics, kubeletCollection .standard config w kubelet] := by
  rw [collections, leadingClient?, if_pos h]
  rfl

theorem fill_of_ok {populator : Populator} {c : Collection} {data : SourceGroups}
    (h : c.result = .ok data) (store : EntityStore) :
    c.fill populator store = (populator.populate data.groups c.specs store).2 := by
  rw [Collection.fill, h]

/-- In the pass of a leader both sources add to an empty store what they add alone, kube-state-metrics first. A key to
which one of them adds a set stands in one entity. -/
theorem LeaderPass.exists_report
    (h : LeaderPass config w now cache kubelet stateMetrics leading own) {key : EntityKey}
    {first second : List MetricSet}
    (hfirst : ((Catalog.populator config.clusterName).populate leading.groups
      Catalog.stateMetricsSpecs .empty).2.setsOf key = first)
    (hsecond : ((Catalog.populator config.clusterName).populate own.groups
      Catalog.kubeletSpecs .empty).2.setsOf key = second) (hne : first ++ second ≠ []) :
    ∃ report, (run .standard config w now cache).value.result = .ok report ∧
      report.role = .leader ∧
      report.store.entities.toList.filter (fun e => e.key = key) = [⟨key, first ++ second⟩] := by
  have hindexed : (filled .standard config w kubelet (.ok stateMetrics)).Indexed :=
    Collection.indexed_foldl_fill EntityStore.indexed_empty _
  have hsets : (filled .standard config w kubelet (.ok stateMetrics)).setsOf key =
      first ++ second := by
    rw [filled, Collection.setsOf_foldl_fill EntityStore.indexed_empty,
      collections_of_leader h.role_eq, EntityStore.setsOf_empty, List.nil_append, List.flatMap_cons,
      List.flatMap_singleton, fill_of_ok h.leading_eq, fill_of_ok h.own_eq, ← hfirst, ← hsecond]
    rfl
  -- a set in the store was written by one of the collections, so the pass has a report
  obtain ⟨set, hset⟩ := List.exists_mem_of_ne_nil _ hne
  have hholds : (filled .standard config w kubelet (.ok stateMetrics)).Holds set :=
    hindexed.holds_iff.2 ⟨key, hsets ▸ hset⟩
  obtain ⟨c, hc, hfill⟩ := Collection.holds_foldl_fill_iff.1 hholds
  have hpopulated := any_populated_iff.2 ⟨c, hc, Collection.exists_holds_fill_iff.1 ⟨set, hfill⟩⟩
  refine ⟨⟨role kubelet (.ok stateMetrics), filled .standard config w kubelet (.ok stateMetrics),
    entries .standard config w kubelet (.ok stateMetrics)⟩, ?_, h.role_eq, ?_⟩
  · rw [result_run_of_found h.kubelet_eq, stages, h.stateMetrics_eq, result_stagesOf_eq]
    exact verdict_eq_ok_iff.2 ⟨hpopulated, rfl⟩
  · rw [← hsets]
    exact hindexed.filter_key (hsets ▸ hne)

/-- Where both sources report a pod, they agree on its key: the leader has one entity with this key, which has the set
of kube-state-metrics and then the set of the kubelet, and no others. Only the samples have to name namespaces and pods
without the separator of IDs; the names of other pods that the kubelet lists do not matter. -/
theorem run_unites_pods (config : PassConfig) (w : Surroundings) (now : Time.Instant)
    (cache : EndpointCache) {text ns name : String} {pods : List Cluster.Pod}
    (h : LeaderPass config w now cache kubelet stateMetrics leading own)
    (htext : StateMetrics.seriesAnswer stateMetrics w = .ok text)
    (hpods : Kubelet.podsAnswer kubelet w = .ok pods)
    (hsamples : StateMetrics.PodsSeparable (Exposition.read text))
    (hns : ns ≠ "") (hname : name ≠ "")
    (hpending : StateMetrics.ReportsPending (Exposition.read text) ns name)
    (hlists : Kubelet.Lists pods ns name) :
    let populator := Catalog.populator config.clusterName
    let key : EntityKey := ⟨name, "k8s:" ++ config.clusterName ++ ":" ++ ns ++ ":pod"⟩
    ∃ report, (run .standard config w now cache).value.result = .ok report ∧
      report.role = .leader ∧
      report.store.entities.toList.filter (fun e => e.key = key) =
        [⟨key, [populator.metricSet Catalog.pendingPodSpecs "pod" (ns ++ "_" ++ name)
            leading.groups key "K8sPodSample",
          populator.metricSet Catalog.podSpecs "pod" (ns ++ "_" ++ name) own.groups key
            "K8sPodSample"]⟩] := by
  intro populator key
  have hleading : leading.groups = StateMetrics.grouped (Exposition.read text) :=
    StateMetrics.groups_of_collect htext h.leading_eq
  have hcollect : (Kubelet.collect kubelet w Catalog.containerQueries config.timeout).run.value =
      .ok own := h.own_eq
  obtain ⟨summary, hown⟩ := Kubelet.groups_of_collect hpods hcollect
  have hgrouped : Kubelet.Grouped own.groups (Kubelet.reported pods summary) := by
    rw [hown]
    exact Kubelet.grouped_groupsOf w config.timeout pods summary _
  have hfirst := StateMetrics.setsOf_pendingPod config.clusterName hpending hsamples hns hname
  rw [← hleading] at hfirst
  obtain ⟨hspace, hpod⟩ := hpending.separable hsamples
  have hsecond := Kubelet.setsOf_pod config.clusterName hgrouped hspace hpod hname
    (Kubelet.pod_mem_reported_iff.2 hlists)
  exact h.exists_report hfirst hsecond (by simp)

/-- The endpoint of kube-state-metrics on that node. -/
def serviceEndpoint : Endpoint where
  url := { serviceUrl with path := .segments [""] }
  nodeIp := "10.0.0.1"
  auth := .none

/-- Series about a pod that is pending. -/
def pendingSeries : String :=
  "kube_pod_status_phase\x7bnamespace=\"shop\",pod=\"web-1\",phase=\"Pending\"\x7d 1\n" ++
    "kube_pod_info\x7bnamespace=\"shop\",pod=\"web-1\"\x7d 1\n"

/-- Surroundings of one node in which both sources report a pod that waits. -/
def waiting : Surroundings :=
  { surroundingsOf "10.0.0.1" 200 with
    network := fun url =>
      let reply (document : String) : Reply := .reply 200 document.toUTF8.toList
      if url = serviceUrl then reply pendingSeries
      else match url.leaf? with
        | some "pods" => reply
          "\x7b\"items\": [\x7b\"metadata\": \x7b\"namespace\": \"shop\", \"name\": \"web-1\"\x7d\x7d]\x7d"
        | some "summary" => reply "\x7b\"node\": \x7b\"nodeName\": \"node-a\"\x7d\x7d"
        | _ => .dropped }

theorem exists_leaderPass_waiting : ∃ leading own, LeaderPass .default waiting ⟨0, 0⟩ .missing
    (.plain plainEndpoint) (.plain serviceEndpoint) leading own := by
  have hleading : (stateMetricsCollection .standard waiting
      (.plain serviceEndpoint)).result.toOption.isSome := by decide +kernel
  have hown : (kubeletCollection .standard .default waiting
      (.plain plainEndpoint)).result.toOption.isSome := by decide +kernel
  cases hl : (stateMetricsCollection .standard waiting (.plain serviceEndpoint)).result with
  | error e => simp [hl, Except.toOption] at hleading
  | ok leading =>
    cases ho : (kubeletCollection .standard .default waiting (.plain plainEndpoint)).result with
    | error e => simp [ho, Except.toOption] at hown
    | ok own => exact ⟨leading, own, by decide +kernel, by decide +kernel, by decide, hl, ho⟩

/-- The pod there has one entity with two sets. -/
theorem run_unites_pods_waiting :
    ∃ report, (run .standard .default waiting ⟨0, 0⟩ .missing).value.result = .ok report ∧
      report.role = .leader ∧
      (report.store.entities.toList.filter fun e => e.key = ⟨"web-1", "k8s:default:shop:pod"⟩).map
        (fun e => e.sets.map MetricSet.eventType) = [["K8sPodSample", "K8sPodSample"]] := by
  obtain ⟨leading, own, h⟩ := exists_leaderPass_waiting
  have htext : StateMetrics.seriesAnswer (.plain serviceEndpoint) waiting = .ok pendingSeries := by
    decide +kernel
  have hnames : (Kubelet.podsAnswer (.plain plainEndpoint) waiting).toOption.map
      (fun pods => pods.map fun pod => (pod.metadata.space, pod.metadata.name)) =
        some [(some "shop", some "web-1")] := by
    decide +kernel
  cases hpods : Kubelet.podsAnswer (.plain plainEndpoint) waiting with
  | error e => simp [hpods, Except.toOption] at hnames
  | ok pods =>
    rw [hpods] at hnames
    have hmap : pods.map (fun pod => (pod.metadata.space, pod.metadata.name)) =
      [(some "shop", some "web-1")] := Option.some.inj hnames
    have hlists : Kubelet.Lists pods "shop" "web-1" := by
      rw [Kubelet.lists_iff_mem, hmap]
      exact List.mem_singleton_self _
    obtain ⟨report, hreport, hrole, hentities⟩ := run_unites_pods .default waiting ⟨0, 0⟩ .missing h
      htext hpods (by decide +kernel) (by decide) (by decide) (by decide +kernel) hlists
    refine ⟨report, hreport, hrole, ?_⟩
    have hkey : (⟨"web-1", "k8s:default:shop:pod"⟩ : EntityKey) =
      ⟨"web-1", "k8s:" ++ PassConfig.default.clusterName ++ ":" ++ "shop" ++ ":pod"⟩ := by decide
    rw [hkey, hentities]
    simp [Populator.eventType_metricSet]

end Pass

end NodeTelemetry
