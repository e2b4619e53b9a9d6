import NodeTelemetry.Proofs.StateMetrics.Kinds
import NodeTelemetry.Proofs.StateMetrics.Written

/-!
# Labels of deployments

A deployment is published with its own labels and those of its namespace, and its own come first. The namespace is
found through the samples of the deployment: as long as no name holds a separator, all of them name the same one.

## Main definitions

* `StateMetrics.Separable`: samples that name namespaces and deployments without the separator of IDs.

## Main statements

* `StateMetrics.parentId_namespace`: the namespace in which a deployment is looked for.
* `StateMetrics.value?_label`: the labels of a metric set of a deployment.
* `StateMetrics.labels_of_deployments`: the labels of all deployments that are published.
-/

namespace NodeTelemetry.StateMetrics

variable {samples : List (String × Sample)} {cluster : String}

/-- Samples in which no namespace and no deployment has a name with the separator of IDs. -/
def Separable (samples : List (String × Sample)) : Prop :=
  ∀ p ∈ samples, '_' ∉ (p.2.label "namespace").toList ∧ '_' ∉ (p.2.label "deployment").toList

instance (samples : List (String × Sample)) : Decidable (Separable samples) :=
  inferInstanceAs (Decidable (∀ p ∈ samples, _ ∧ _))

/-! ### The names in an ID -/

variable {N D : String}

/-- All samples of a deployment name its namespace and the deployment itself. -/
theorem names_of_belongs {series : String} {s : Sample} (hsamples : Separable samples)
    (h : Belongs samples "deployment" (N ++ "_" ++ D) series s) :
    s.label "namespace" = N ∧ s.label "deployment" = D := by
  obtain ⟨hns, hname⟩ := hsamples _ h.given
  exact h.names_eq (by decide) hns hname

/-! ### The namespace of a deployment -/

/-- An entity with a sample that names a namespace has a namespace. -/
theorem exists_parentId {group id series ns : String} {s : Sample} {groups : RawGroups}
    (hs : groups.sample group id series = .ok s) (hns : s.labels.get? "namespace" = some ns) :
    ∃ owner, parentId "namespace" group id groups = .ok owner := by
  rw [parentId]
  split
  · exact ⟨id, rfl⟩
  · obtain ⟨m, hm, hv⟩ := Option.bind_eq_some_iff.1 (sample_eq_ok_iff.1 hs)
    simp only [RawGroups.entity, hm]
    split
    · next owner _ => exact ⟨owner, rfl⟩
    · next hnone =>
      have hmem : RawValue.sample s ∈ m.values :=
        List.mem_map.2 ⟨(series, .sample s), TextMap.get?_eq_some_iff.1 hv, rfl⟩
      have howner := List.findSome?_eq_none_iff.1 hnone _ hmem
      simp [Sample.ownerId?, hns] at howner

/-- The namespace of a deployment is looked up under its name. -/
theorem parentId_namespace {series ns : String} {s : Sample} (hsamples : Separable samples)
    (hs : (grouped samples).sample "deployment" (N ++ "_" ++ D) series = .ok s)
    (hns : s.labels.get? "namespace" = some ns) :
    parentId "namespace" "deployment" (N ++ "_" ++ D) (grouped samples) = .ok N := by
  obtain ⟨owner, howner⟩ := exists_parentId hs hns
  obtain ⟨series', t, ht, hget⟩ := exists_sample_of_parentId (by decide) howner
  have hname := (names_of_belongs hsamples ht).1
  rw [howner, ← hname, label_eq_of_get? hget]

/-! ### What the specifications of deployments write -/

/-- The specifications of deployments before those for labels. -/
def namedSpecs : List Spec := Catalog.deploymentSpecs.specs.take 9

theorem specs_eq_namedSpecs_append : Catalog.deploymentSpecs.specs =
    namedSpecs ++ [Catalog.ownerLabels "namespace" "kube_namespace_labels",
      Catalog.ownerLabels "deployment" "kube_deployment_labels"] :=
  rfl

theorem written?_namedSpecs {spec : Spec} (hspec : spec ∈ namedSpecs) (group id : String)
    (groups : RawGroups) (x : String) : spec.written? group id groups ("label." ++ x) = none := by
  have hnamed : ∀ spec ∈ namedSpecs, spec.IsSingle ∧ Unmarked spec.name := by
    simp only [namedSpecs, Catalog.deploymentSpecs, List.take_succ_cons, List.take_zero,
      List.forall_mem_cons, List.not_mem_nil, false_implies, implies_true, and_true]
    exact ⟨⟨isSingle_gaugeOf, by decide⟩, ⟨isSingle_gaugeOf, by decide⟩,
      ⟨isSingle_gaugeOf, by decide⟩, ⟨isSingle_gaugeOf, by decide⟩,
      ⟨isSingle_gaugeOf, by decide⟩, ⟨isSingle_gaugeOf, by decide⟩,
      ⟨isSingle_gaugeOf, by decide⟩, ⟨isSingle_attributeOf, by decide⟩,
      ⟨isSingle_attributeOf, by decide⟩⟩
  obtain ⟨hsingle, hname⟩ := hnamed spec hspec
  exact hsingle.written?_eq_none (hname.ne_label x)

/-- The manipulators write under no names but those of the cluster and the entity. -/
theorem value?_manipulate (key : EntityKey) (eventType : String) {name : String}
    (hname : name ∉ ["clusterName", "displayName", "entityName"]) :
    (Populator.manipulate key cluster (Catalog.populator cluster).manipulators
      (.ofEventType eventType)).1.value? name = none := by
  simp only [List.mem_cons, List.not_mem_nil, or_false, not_or] at hname
  obtain ⟨hcluster, hdisplay, hentity⟩ := hname
  rw [Catalog.manipulate_eq]
  simp only [List.foldl_cons, List.foldl_nil, MetricSet.value?_write, Ne.symm hcluster, Ne.symm hdisplay,
    Ne.symm hentity, if_false, Option.none_or]
  rfl

/-- A deployment has a label of its own, if it has one, and otherwise that of its namespace. -/
theorem value?_label {id owner : String} {groups : RawGroups}
    (howner : parentId "namespace" "deployment" id groups = .ok owner) (key : EntityKey)
    (eventType x : String) :
    ((Catalog.populator cluster).metricSet Catalog.deploymentSpecs "deployment" id groups key
        eventType).value? ("label." ++ x) =
      ((groups.label "deployment" id "kube_deployment_labels" ("label_" ++ x)).toOption.or
        (groups.label "namespace" owner "kube_namespace_labels" ("label_" ++ x)).toOption).map
          MetricValue.text := by
  have hnamed : (namedSpecs.reverse.findSome? fun spec =>
      spec.written? "deployment" id groups ("label." ++ x)) = none := by
    rw [List.findSome?_eq_none_iff]
    intro spec hspec
    exact written?_namedSpecs (List.mem_reverse.1 hspec) _ _ _ x
  have hmarked : "label." ++ x ∉ ["clusterName", "displayName", "entityName"] := by
    have hunmarked : ∀ n ∈ ["clusterName", "displayName", "entityName"], Unmarked n := by decide
    exact fun hmem => (hunmarked _ hmem).ne_label x rfl
  have hcluster : (Catalog.populator cluster).cluster = cluster := rfl
  rw [Populator.value?_metricSet, hcluster, value?_manipulate _ _ hmarked, specs_eq_namedSpecs_append,
    List.reverse_append, List.findSome?_append, hnamed, Option.or_none, Option.or_none]
  simp only [List.reverse_cons, List.reverse_nil, List.nil_append, List.cons_append,
    List.findSome?_cons, List.findSome?_nil, written?_ownerLabels (parentId_self _ _ _),
    written?_ownerLabels howner]
  cases (groups.label "deployment" id "kube_deployment_labels" ("label_" ++ x)).toOption with
  | some text => rfl
  | none =>
    cases (groups.label "namespace" owner "kube_namespace_labels" ("label_" ++ x)).toOption <;> rfl

/-! ### The deployments that are published -/

/-- A deployment with a key has it from its names. -/
theorem names_of_key {id : String} {key : EntityKey}
    (hkey : (Catalog.populator cluster).keyOf Catalog.deploymentSpecs "deployment" id
      (grouped samples) = .ok key) :
    ∃ s ns, (grouped samples).sample "deployment" id "kube_deployment_created" = .ok s ∧
      s.labels.get? "namespace" = some ns ∧
        key = ⟨s.label "deployment", "k8s:" ++ cluster ++ ":" ++ ns ++ ":deployment"⟩ := by
  obtain ⟨hname, htype, -, -⟩ := Populator.keyOf_eq_ok_iff.1 hkey
  have hlabel : (grouped samples).label "deployment" id "kube_deployment_created" "deployment" =
      .ok key.name := hname
  have hlabelType : TypeGenerator.labelValue "kube_deployment_created" "deployment" id
      (grouped samples) cluster = .ok key.type := htype
  obtain ⟨s, hs, hdeployment⟩ := label_eq_ok_iff.1 hlabel
  obtain ⟨ns, hns, hkeyType⟩ := (labelType_eq_ok_iff (by decide) (by decide)).1 hlabelType
  obtain ⟨t, ht, hget⟩ := label_eq_ok_iff.1 hns
  obtain rfl := Except.ok.inj (hs.symm.trans ht)
  have hkeyType' : key.type = "k8s:" ++ cluster ++ ":" ++ ns ++ ":deployment" := by
    rw [hkeyType, String.append_assoc]
    rfl
  exact ⟨s, ns, hs, hget, by rw [label_eq_of_get? hdeployment, ← hkeyType']⟩

theorem eventType_deployment : Catalog.eventType "deployment" = .ok "K8sDeploymentSample" := by
  rfl

theorem get?_deployment :
    Catalog.stateMetricsSpecs.get? "deployment" = some Catalog.deploymentSpecs :=
  get?_stateMetricsSpecs_iff.2 (by simp)

/-- A deployment has its own labels and, under other names, those of its namespace: every metric set of a deployment
comes from a raw deployment with a namespace and a name, and in each such set a label is that of the deployment, if
it has one, and otherwise that of the namespace. -/
theorem labels_of_deployments (cluster : String) {samples : List (String × Sample)}
    (hsamples : Separable samples) :
    let groups := grouped samples
    let store := ((Catalog.populator cluster).populate groups Catalog.stateMetricsSpecs .empty).2
    let report := fun id =>
      (Catalog.populator cluster).report Catalog.deploymentSpecs "deployment" id groups
    (∀ e ∈ store.entities.toList, ∀ set ∈ e.sets, set.eventType = "K8sDeploymentSample" →
      ∃ N D, e.key = ⟨D, "k8s:" ++ cluster ++ ":" ++ N ++ ":deployment"⟩ ∧
        (groups.entity? "deployment" (N ++ "_" ++ D)).isSome ∧
          (report (N ++ "_" ++ D)).step = some (.append e.key set)) ∧
    ∀ N D key set, (report (N ++ "_" ++ D)).step = some (.append key set) →
      ∀ x, set.value? ("label." ++ x) =
        ((groups.label "deployment" (N ++ "_" ++ D) "kube_deployment_labels"
            ("label_" ++ x)).toOption.or
          (groups.label "namespace" N "kube_namespace_labels" ("label_" ++ x)).toOption).map
            MetricValue.text := by
  intro groups store report
  constructor
  · intro e he set hset htype
    obtain ⟨group, id, specs, hspecs, hsome, hstep⟩ := Populator.mem_sets_iff.1 ⟨e, he, rfl, hset⟩
    obtain ⟨hkey, type, htyper, rfl⟩ := Catalog.of_step_append (ne_empty_of_get? hspecs) hstep
    rw [Populator.eventType_metricSet] at htype
    subst htype
    obtain ⟨rfl, rfl⟩ := eq_of_eventType_eq hspecs get?_deployment htyper eventType_deployment
    obtain ⟨s, ns, hs, hns, hnames⟩ := names_of_key hkey
    have hid : ns ++ "_" ++ s.label "deployment" = id := by
      rw [← label_eq_of_get? hns]
      exact (belongs_of_sample hs).rawId
    exact ⟨ns, s.label "deployment", hnames, by rwa [hid], by rw [hid, hstep]⟩
  · intro N D key set hstep x
    obtain ⟨hkey, type, -, rfl⟩ := Catalog.of_step_append (by decide) hstep
    obtain ⟨s, ns, hs, hns, -⟩ := names_of_key hkey
    exact value?_label (parentId_namespace hsamples hs hns) key type x

/-- A deployment that has a label in common with its namespace. -/
def shopSamples : List (String × Sample) := [
  ("kube_deployment_created", ⟨1.0, .ofList [("namespace", "shop"), ("deployment", "web")]⟩),
  ("kube_deployment_labels", ⟨1.0, .ofList [("namespace", "shop"), ("deployment", "web"),
    ("label_tier", "front")]⟩),
  ("kube_namespace_labels", ⟨1.0, .ofList [("namespace", "shop"), ("label_tier", "all"),
    ("label_team", "sales")]⟩)]

theorem labels_shop : Separable shopSamples ∧ ∃ set,
    ((Catalog.populator "prod").report Catalog.deploymentSpecs "deployment" "shop_web"
      (grouped shopSamples)).step = some (.append ⟨"web", "k8s:prod:shop:deployment"⟩ set) ∧
    set.value? "label.tier" = some (.text "front") ∧
    set.value? "label.team" = some (.text "sales") ∧ set.value? "label.zone" = none := by
  have hsamples : Separable shopSamples := by decide
  have hkey : (Catalog.populator "prod").keyOf Catalog.deploymentSpecs "deployment" "shop_web"
      (grouped shopSamples) = .ok ⟨"web", "k8s:prod:shop:deployment"⟩ := by
    rfl
  have haccepted : (Populator.attempts Catalog.deploymentSpecs "deployment" "shop_web"
      (grouped shopSamples)).any Attempt.isAccepted = true := by
    decide +kernel
  have hstep := Populator.report_step_append hkey eventType_deployment haccepted
  have hlabels := (labels_of_deployments "prod" hsamples).2 "shop" "web" _ _ hstep
  exact ⟨hsamples, _, hstep, hlabels "tier", hlabels "team", hlabels "zone"⟩

end NodeTelemetry.StateMetrics
