import NodeTelemetry.Proofs.Catalog.Locality
import NodeTelemetry.Proofs.Kubelet.Kinds
import NodeTelemetry.Proofs.Populate.Writes
import NodeTelemetry.Proofs.StateMetrics.DeploymentLabels
import NodeTelemetry.Proofs.StateMetrics.Kinds

/-!
# Metric sets name their entities

The manipulators of the catalog write the names of a cluster and of an entity before any specification is written,
and a later write under one of these names would replace them. There is none: no specification bears such a name,
and the names of labels, which others choose, all stand behind a mark that none of the three begins with. So the sets
that a run appends name the entity under which they are appended, and a store in which every set names its entity
stays one.

## Main definitions

* `MetricSet.Identifies`: a set that names a cluster and an entity.
* `EntityStore.Identified`: a store in which every set names its entity.
* `Catalog.SparesIdentity`: specifications that write none of the three names.

## Main statements

* `Catalog.identifies_metricSet`: the metric set of a raw entity names it.
* `EntityStore.Identified.run`: steps that append such sets keep a store identified.
* `Catalog.sets_name_entities`: the store of both sources is identified.
-/

namespace NodeTelemetry

/-- The set has the name of the cluster, and the name of the entity alone and behind its type. -/
structure MetricSet.Identifies (set : MetricSet) (cluster : String) (key : EntityKey) : Prop where
  clusterName : set.Has "clusterName" ⟨.text cluster, .attr⟩
  displayName : set.Has "displayName" ⟨.text key.name, .attr⟩
  entityName : set.Has "entityName" ⟨.text (key.type ++ ":" ++ key.name), .attr⟩

/-- The names under which a metric set names its cluster and its entity. -/
def Catalog.identityNames : List String := ["clusterName", "displayName", "entityName"]

open Catalog (identityNames)

/-! ### One metric set -/

section Set

variable {set : MetricSet} {cluster : String} {key : EntityKey}

theorem MetricSet.Identifies.attempt {w : Write} (h : set.Identifies cluster key)
    (hw : w.name ∉ identityNames) : (set.attempt w).Identifies cluster key := by
  have keeps : ∀ name ∈ identityNames, ∀ m, set.Has name m → (set.attempt w).Has name m := by
    intro name hname m
    refine (set.has_attempt_iff_of_refused ?_).2
    rintro rfl
    exact absurd hname hw
  exact ⟨keeps _ (by decide) _ h.clusterName, keeps _ (by decide) _ h.displayName,
    keeps _ (by decide) _ h.entityName⟩

theorem MetricSet.Identifies.foldl {writes : List Write} (h : set.Identifies cluster key)
    (hwrites : ∀ w ∈ writes, w.name ∉ identityNames) :
    (writes.foldl MetricSet.attempt set).Identifies cluster key := by
  induction writes generalizing set with
  | nil => exact h
  | cons w rest ih =>
    obtain ⟨hw, hrest⟩ := List.forall_mem_cons.1 hwrites
    exact ih (h.attempt hw) hrest

/-- What the manipulators of the catalog leave names the cluster and the entity. -/
theorem Catalog.identifies_manipulate (set : MetricSet) :
    (Populator.manipulate key cluster (populator cluster).manipulators set).1.Identifies
      cluster key := by
  rw [Catalog.manipulate_eq]
  change MetricSet.Identifies (((set.attempt ⟨"clusterName", .str cluster, .attr⟩).attempt
    ⟨"displayName", .str key.name, .attr⟩).attempt
    ⟨"entityName", .str (key.type ++ ":" ++ key.name), .attr⟩) cluster key
  -- each write is accepted, and those behind it have other names
  constructor
  · rw [MetricSet.has_attempt_iff_of_refused _ (by simp), MetricSet.has_attempt_iff_of_refused _ (by simp)]
    exact set.has_attempt_of_ok rfl
  · rw [MetricSet.has_attempt_iff_of_refused _ (by simp)]
    exact MetricSet.has_attempt_of_ok _ rfl
  · exact MetricSet.has_attempt_of_ok _ rfl

end Set

/-! ### Stores -/

namespace EntityStore

/-- An indexed store in which every metric set names its entity. -/
structure Identified (s : EntityStore) (cluster : String) : Prop where
  indexed : s.Indexed
  identifies : ∀ key, ∀ set ∈ s.setsOf key, set.Identifies cluster key

theorem identified_empty (cluster : String) : empty.Identified cluster where
  indexed := indexed_empty
  identifies := by
    intro key set hset
    rw [setsOf_empty] at hset
    cases hset

/-- Steps keep a store identified, where the sets that they append name the entities that get them. -/
theorem Identified.run {s : EntityStore} {cluster : String} {steps : List Step}
    (h : s.Identified cluster)
    (hsteps : ∀ key set, Step.append key set ∈ steps → set.Identifies cluster key) :
    (steps.foldl Step.apply s).Identified cluster := by
  refine ⟨h.indexed.run steps, fun key set hset => ?_⟩
  rw [h.indexed.setsOf_run, List.mem_append] at hset
  -- a set of the store after the steps was in it before, or one of them appended it
  rcases hset with hold | hnew
  · exact h.identifies key set hold
  · obtain ⟨⟨k, set⟩, hmem, rfl⟩ := List.mem_map.1 hnew
    obtain ⟨happended, hkey⟩ := List.mem_filter.1 hmem
    obtain rfl : k = key := of_decide_eq_true hkey
    obtain ⟨step, hstep, happ⟩ := List.mem_flatMap.1 happended
    obtain rfl := Step.mem_appended_iff.1 happ
    exact hsteps k set hstep

theorem Identified.sets {s : EntityStore} {cluster : String} (h : s.Identified cluster) :
    ∀ e ∈ s.entities.toList, ∀ set ∈ e.sets, set.Identifies cluster e.key := by
  intro e he set hset
  exact h.identifies e.key set (h.indexed.mem_setsOf_iff.2 ⟨e, he, rfl, hset⟩)

end EntityStore

/-! ### Specifications -/

section Specs

variable {group id : String} {groups : RawGroups} {spec : Spec}

/-- A specification with accepted values writes under its name or as labels. -/
theorem Spec.mayName_of_accepts {refused : Write → Prop} {gap : FetchError → Prop} {w : Write}
    (h : Accepts refused gap spec (spec.fetch group id groups))
    (hw : w ∈ spec.writes group id groups) : spec.MayName w.name := by
  cases hfetch : spec.fetch group id groups with
  | error e =>
    rw [writes_of_error hfetch] at hw
    cases hw
  | ok v =>
    rw [writes_of_ok hfetch] at hw
    rw [hfetch] at h
    obtain ⟨x, hx, rfl⟩ := List.mem_map.1 hw
    exact (h x hx).1

/-- The names of labels are marked, and none of the three names is. -/
theorem Spec.MayName.not_mem_identityNames {name : String} (h : spec.MayName name)
    (hspec : spec.name ∉ identityNames) : name ∉ identityNames := by
  have hunmarked : ∀ n ∈ identityNames, StateMetrics.Unmarked n := by decide
  rcases h with rfl | ⟨label, rfl⟩
  · exact hspec
  · intro hmem
    exact (hunmarked _ hmem).ne_label label rfl

end Specs

namespace Catalog

/-- On these raw groups no specification writes under a name of the identity. -/
def SparesIdentity (groups : RawGroups) (specs : SpecGroups) : Prop :=
  ∀ group id spec, specs.get? group = some spec → (groups.entity? group id).isSome →
    ∀ s ∈ spec.specs, ∀ w ∈ s.writes group id groups, w.name ∉ identityNames

variable {cluster group id : String} {groups : RawGroups}

theorem identifies_metricSet {specs : SpecGroup} {key : EntityKey} (eventType : String)
    (h : ∀ s ∈ specs.specs, ∀ w ∈ s.writes group id groups, w.name ∉ identityNames) :
    ((populator cluster).metricSet specs group id groups key eventType).Identifies cluster key := by
  rw [Populator.metricSet_eq, Populator.writes, List.foldl_append]
  have hfresh : (Populator.manipulate key cluster (populator cluster).manipulators
      (.ofEventType eventType)).1.Identifies cluster key := identifies_manipulate _
  rw [Populator.manipulate_eq] at hfresh
  refine hfresh.foldl fun w hw => ?_
  obtain ⟨s, hs, hw⟩ := List.mem_flatMap.1 hw
  exact h s hs w hw

theorem identified_populate {specs : SpecGroups} {store : EntityStore}
    (hstore : store.Identified cluster) (hspares : SparesIdentity groups specs) :
    ((populator cluster).populate groups specs store).2.Identified cluster := by
  rw [Populator.populate_eq]
  refine hstore.run fun key set hmem => ?_
  obtain ⟨⟨⟨group, id⟩, step⟩, hmem, rfl⟩ := List.mem_map.1 hmem
  obtain ⟨spec, hspec, hsome, hstep⟩ := Populator.mem_stepsBy_iff.1 hmem
  obtain ⟨-, ⟨eventType, -, rfl⟩, -⟩ := Populator.report_step_append_iff.1 hstep
  exact identifies_metricSet eventType (hspares group id spec hspec hsome)

theorem name_of_stateMetricsSpecs {specs : SpecGroup} (h : stateMetricsSpecs.get? group = some specs) :
    ∀ s ∈ specs.specs, s.name ∉ identityNames := by
  have hnames : ∀ specs ∈ [replicaSetSpecs, namespaceSpecs, deploymentSpecs, pendingPodSpecs],
      ∀ name ∈ specs.specs.map Spec.name, name ∉ identityNames := by decide
  intro s hs
  refine hnames specs ?_ s.name (List.mem_map_of_mem hs)
  rcases StateMetrics.get?_stateMetricsSpecs_iff.1 h with ⟨-, rfl⟩ | ⟨-, rfl⟩ | ⟨-, rfl⟩ | ⟨-, rfl⟩
  all_goals simp

theorem name_of_kubeletSpecs {specs : SpecGroup} (h : kubeletSpecs.get? group = some specs) :
    ∀ s ∈ specs.specs, s.name ∉ identityNames := by
  have hnames : ∀ specs ∈ [podSpecs, containerSpecs, nodeSpecs, volumeSpecs],
      ∀ name ∈ specs.specs.map Spec.name, name ∉ identityNames := by decide
  intro s hs
  refine hnames specs ?_ s.name (List.mem_map_of_mem hs)
  rcases get?_kubeletSpecs_iff.1 h with ⟨-, rfl⟩ | ⟨-, rfl⟩ | ⟨-, rfl⟩ | ⟨-, rfl⟩
  all_goals simp

/-- What is read of the samples of kube-state-metrics is written under the name of its specification or as labels. -/
theorem mayName_stateMetrics {samples : List (String × Sample)} {specs : SpecGroup} {spec : Spec} {write : Write}
    (hspecs : stateMetricsSpecs.get? group = some specs)
    (hsome : ((StateMetrics.grouped samples).entity? group id).isSome) (hspec : spec ∈ specs.specs)
    (hwrite : write ∈ spec.writes group id (StateMetrics.grouped samples)) : spec.MayName write.name :=
  Spec.mayName_of_accepts (StateMetrics.accepts_of_mem_specs hspecs hsome spec hspec) hwrite

theorem sparesIdentity_stateMetrics (samples : List (String × Sample)) :
    SparesIdentity (StateMetrics.grouped samples) stateMetricsSpecs := by
  intro group id specs hspecs hsome spec hspec write hwrite
  exact (mayName_stateMetrics hspecs hsome hspec hwrite).not_mem_identityNames
    (name_of_stateMetricsSpecs hspecs spec hspec)

/-- What is read of groups of the kubelet is written under the name of its specification or as labels. -/
theorem mayName_kubelet {l : List Kubelet.Subject} {specs : SpecGroup} {spec : Spec} {write : Write}
    (hgroups : Kubelet.Grouped groups l) (hspecs : kubeletSpecs.get? group = some specs)
    (hsome : (groups.entity? group id).isSome) (hspec : spec ∈ specs.specs)
    (hwrite : write ∈ spec.writes group id groups) : spec.MayName write.name := by
  -- the raw entity belongs to a subject, and so has the raw metrics that its specifications read
  obtain ⟨m, hm⟩ := Option.isSome_iff_exists.1 hsome
  obtain ⟨subject, -, hplace, -, hconforms⟩ := hgroups.founded group id m hm
  obtain ⟨rfl, rfl⟩ := Prod.mk.inj hplace
  obtain rfl := Option.some.inj ((Kubelet.get?_kubeletSpecs subject).symm.trans hspecs)
  have htyped := Kubelet.typed_of_mem_specs subject spec hspec _ _ _ m hm hconforms
  exact Spec.mayName_of_accepts htyped hwrite

theorem sparesIdentity_kubelet (w : Surroundings) (timeout : Time.Span) (pods : List Cluster.Pod)
    (summary : Kubelet.Summary) (series : Except GroupError (List Family)) :
    SparesIdentity (Kubelet.groupsOf w timeout pods summary series) kubeletSpecs := by
  intro group id specs hspecs hsome spec hspec write hwrite
  have hgroups := Kubelet.grouped_groupsOf w timeout pods summary series
  exact (mayName_kubelet hgroups hspecs hsome hspec hwrite).not_mem_identityNames
    (name_of_kubeletSpecs hspecs spec hspec)

/-- Whatever the documents of the kubelet, the API and the samples of kube-state-metrics say, in a store that is
populated from both every metric set of every entity has the name of the cluster and the names of the entity. -/
theorem sets_name_entities (cluster : String) (samples : List (String × Sample))
    (w : Surroundings) (timeout : Time.Span) (pods : List Cluster.Pod)
    (summary : Kubelet.Summary) (series : Except GroupError (List Family)) :
    let ofSamples (store : EntityStore) :=
      ((populator cluster).populate (StateMetrics.grouped samples) stateMetricsSpecs store).2
    let ofKubelet (store : EntityStore) :=
      ((populator cluster).populate (Kubelet.groupsOf w timeout pods summary series) kubeletSpecs
        store).2
    ∀ store ∈ [ofKubelet (ofSamples .empty), ofSamples (ofKubelet .empty)],
      ∀ e ∈ store.entities.toList, ∀ set ∈ e.sets, set.Identifies cluster e.key := by
  intro ofSamples ofKubelet
  have hempty := EntityStore.identified_empty cluster
  have hsamples : ∀ store, store.Identified cluster → (ofSamples store).Identified cluster :=
    fun store h => identified_populate h (sparesIdentity_stateMetrics samples)
  have hkubelet : ∀ store, store.Identified cluster → (ofKubelet store).Identified cluster :=
    fun store h => identified_populate h (sparesIdentity_kubelet w timeout pods summary series)
  intro store hstore
  rw [List.mem_pair] at hstore
  rcases hstore with rfl | rfl
  · exact (hkubelet _ (hsamples _ hempty)).sets
  · exact (hsamples _ (hkubelet _ hempty)).sets

/-- A pod with labels that are called like attributes of an entity. -/
def disguisedPod : Cluster.Pod :=
  { Kubelet.shopPod with metadata := { Kubelet.shopPod.metadata with
      labels := .ofList [("clusterName", "test"), ("displayName", "api")] } }

/-- The raw groups of that pod. -/
def disguisedGroups : RawGroups :=
  Kubelet.groupsOf .unreachable (.ofSeconds 5) [disguisedPod] Kubelet.shopSummary (.ok [])

/-- The pod is published under its own name, and its labels beside it. -/
theorem sets_name_entities_disguised :
    ∃ e ∈ ((populator "prod").populate disguisedGroups kubeletSpecs
        ((populator "prod").populate (StateMetrics.grouped StateMetrics.shopSamples)
          stateMetricsSpecs .empty).2).2.entities.toList,
      e.key = ⟨"web-1", "k8s:prod:shop:pod"⟩ ∧ ∃ set ∈ e.sets,
        set.value? "label.displayName" = some (.text "api") ∧ set.Identifies "prod" e.key := by
  have hkey : (populator "prod").keyOf podSpecs "pod" "shop_web-1" disguisedGroups =
      .ok ⟨"web-1", "k8s:prod:shop:pod"⟩ := rfl
  have htype : (populator "prod").eventTyper "prod" "pod" "shop_web-1" disguisedGroups =
      .ok "K8sPodSample" := rfl
  have haccepted : (Populator.attempts podSpecs "pod" "shop_web-1" disguisedGroups).any
      Attempt.isAccepted = true := by
    decide +kernel
  have hspecs : kubeletSpecs.get? "pod" = some podSpecs := rfl
  have hmem := Populator.mem_stepsBy_iff.2
    ⟨podSpecs, hspecs, rfl, Populator.report_step_append hkey htype haccepted⟩
  have hleading := (identified_populate (EntityStore.identified_empty "prod")
    (sparesIdentity_stateMetrics StateMetrics.shopSamples)).indexed
  obtain ⟨e, he, hkey, hset⟩ := Populator.mem_sets_of_mem_stepsBy hleading hmem
  refine ⟨e, he, hkey, _, hset, rfl, ?_⟩
  have hstore := sets_name_entities "prod" StateMetrics.shopSamples .unreachable (.ofSeconds 5)
    [disguisedPod] Kubelet.shopSummary (.ok []) _ (List.mem_cons_self ..)
  beta_reduce at hstore
  rw [disguisedGroups] at he
  exact hstore e he _ hset

end Catalog

end NodeTelemetry
