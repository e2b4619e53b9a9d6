import NodeTelemetry.Catalog.Kubelet
import NodeTelemetry.Catalog.StateMetrics
import NodeTelemetry.Proofs.Populate.Locality
import NodeTelemetry.Proofs.StateMetrics.Placements

/-!
# What the catalog reads

All that the catalog asks about a raw entity is answered by that raw entity, but for one thing: a deployment has the
labels of its namespace too, which is the raw namespace that the first of its samples with a namespace names. So
nothing else in the raw groups can change what is recorded for a raw entity and what it adds, and groups that the
catalog does not know change nothing.

## Main definitions

* `Catalog.namespaceOf`: the raw namespace of a raw deployment.

## Main statements

* `Catalog.kubelet_agrees`, `Catalog.stateMetrics_agrees`: raw groups that give the same answers about a raw entity.
* `Catalog.populate_local`: what a run records and does for a raw entity, and whole runs.
-/

namespace NodeTelemetry

open RawGroups

namespace Catalog

variable {group id : String} {groups groups' : RawGroups}

/-! ### The kubelet -/

theorem isLocal_podId : IsLocal group podId := by
  intro id groups groups' h
  rw [podId, podId, text_congr h]

theorem isLocal_containerId : IsLocal group containerId := by
  intro id groups groups' h
  exact text_congr h "containerName"

theorem isLocal_kubeletType (cluster : String) :
    IsLocal group fun group id groups => kubeletType group id groups cluster := by
  intro id groups groups' h
  simp only [kubeletType, text_congr h]

theorem isLocal_podSpecs : ∀ spec ∈ podSpecs.specs, IsLocal group spec.fetch := by
  simp [podSpecs, networkSpecs, rawRate, rawAttribute, gaugeThrough, ownLabels]

theorem isLocal_containerSpecs : ∀ spec ∈ containerSpecs.specs, IsLocal group spec.fetch := by
  simp [containerSpecs, fileSystemSpecs, fileSystemUse, rawGauge, rawAttribute, gaugeThrough, ownLabels]

theorem isLocal_nodeSpecs : ∀ spec ∈ nodeSpecs.specs, IsLocal group spec.fetch := by
  simp [nodeSpecs, networkSpecs, fileSystemSpecs, rawGauge, rawRate, rawAttribute, gaugeThrough, ownLabels]

theorem isLocal_volumeSpecs : ∀ spec ∈ volumeSpecs.specs, IsLocal group spec.fetch := by
  simp [volumeSpecs, fileSystemSpecs, fileSystemUse, rawGauge, rawAttribute]

theorem get?_kubeletSpecs_iff {specs : SpecGroup} :
    kubeletSpecs.get? group = some specs ↔
      (group = "pod" ∧ specs = podSpecs) ∨ (group = "container" ∧ specs = containerSpecs) ∨
      (group = "node" ∧ specs = nodeSpecs) ∨ (group = "volume" ∧ specs = volumeSpecs) := by
  rw [kubeletSpecs, TextMap.get?_ofList_eq_some_iff]
  · simp
  · intro x hx y hy
    refine List.inj_on_of_nodup_map ?_ hx hy
    decide

/-- Raw groups that agree on a raw entity give the kubelet's specifications the same answers about it. -/
theorem kubelet_agrees {specs : SpecGroup} (h : groups.entity? group id = groups'.entity? group id)
    (hspecs : kubeletSpecs.get? group = some specs) : specs.Agrees group id groups groups' := by
  rcases get?_kubeletSpecs_iff.1 hspecs with ⟨-, rfl⟩ | ⟨-, rfl⟩ | ⟨-, rfl⟩ | ⟨-, rfl⟩
  · exact .of_isLocal h isLocal_podId isLocal_kubeletType isLocal_podSpecs
  · exact .of_isLocal h isLocal_containerId isLocal_kubeletType isLocal_containerSpecs
  · exact .of_isLocal h isLocal_rawId isLocal_kubeletType isLocal_nodeSpecs
  · exact .of_isLocal h isLocal_rawId isLocal_kubeletType isLocal_volumeSpecs

/-! ### The state of the cluster -/

/-- The namespace of a raw deployment: the one that the first of its samples, in the order of their names, that has a
namespace is in. -/
def namespaceOf (groups : RawGroups) (id : String) : Option String :=
  (groups.entity? "deployment" id).bind fun metrics => metrics.values.findSome? fun
    | .sample s => s.labels.get? "namespace"
    | _ => none

theorem namespaceOf_of_parentId {ns : String}
    (h : parentId "namespace" "deployment" id groups = .ok ns) : namespaceOf groups id = some ns := by
  have howner : (fun v : RawValue => match v with
      | .sample s => s.ownerId? "namespace"
      | _ => none) = fun
      | .sample s => s.labels.get? "namespace"
      | _ => none := by
    funext v
    cases v with
    | scalar v => rfl
    | labels m => rfl
    | sample s =>
      simp only [Sample.ownerId?, if_true]
      cases s.labels.get? "namespace" <;> rfl
  rw [parentId, if_neg (by decide), RawGroups.entity] at h
  rw [namespaceOf]
  cases hm : groups.entity? "deployment" id with
  | none => simp [hm] at h
  | some metrics =>
    simp only [hm] at h
    split at h
    · next owner hfind =>
      obtain rfl := Except.ok.inj h
      exact (congrArg (fun f => metrics.values.findSome? f) howner).symm.trans hfind
    · cases h

/-- The labels of the namespace of a deployment depend on that deployment and its raw namespace. -/
theorem namespaceLabels_congr (h : groups.entity? "deployment" id = groups'.entity? "deployment" id)
    (hns : ∀ ns, namespaceOf groups id = some ns →
      groups.entity? "namespace" ns = groups'.entity? "namespace" ns) (series : String) :
    Fetch.inheritLabels "namespace" series "deployment" id groups =
      Fetch.inheritLabels "namespace" series "deployment" id groups' := by
  have hparent : parentId "namespace" "deployment" id groups =
      parentId "namespace" "deployment" id groups' := by
    rw [parentId, parentId, entity, entity, h]
  rw [Fetch.inheritLabels, Fetch.inheritLabels, ← hparent]
  cases howner : parentId "namespace" "deployment" id groups with
  | error e => rfl
  | ok ns => simp only [sample_congr (hns ns (namespaceOf_of_parentId howner))]

theorem isLocal_replicaSetSpecs : ∀ spec ∈ replicaSetSpecs.specs, IsLocal group spec.fetch := by
  simp [replicaSetSpecs, gaugeOf, attributeOf]

theorem isLocal_namespaceSpecs : ∀ spec ∈ namespaceSpecs.specs, IsLocal "namespace" spec.fetch := by
  simp [namespaceSpecs, gaugeOf, attributeOf, ownerLabels]

theorem isLocal_pendingPodSpecs : ∀ spec ∈ pendingPodSpecs.specs, IsLocal "pod" spec.fetch := by
  simp [pendingPodSpecs, gaugeOf, attributeOf, conditionOf, ownerLabels]

/-- Of what is asked about a deployment all is local but the labels of its namespace. -/
theorem isLocal_deploymentSpecs : ∀ spec ∈ deploymentSpecs.specs,
    spec = ownerLabels "namespace" "kube_namespace_labels" ∨ IsLocal "deployment" spec.fetch := by
  simp [deploymentSpecs, gaugeOf, attributeOf, ownerLabels]

theorem deployment_agrees (h : groups.entity? "deployment" id = groups'.entity? "deployment" id)
    (hns : ∀ ns, namespaceOf groups id = some ns →
      groups.entity? "namespace" ns = groups'.entity? "namespace" ns) :
    deploymentSpecs.Agrees "deployment" id groups groups' where
  name := label_congr h _ _
  type := fun cluster => isLocal_labelType _ cluster id groups groups' h
  fetch := by
    intro spec hspec
    rcases isLocal_deploymentSpecs spec hspec with rfl | hlocal
    · exact namespaceLabels_congr h hns _
    · exact hlocal id groups groups' h

/-- Raw groups that agree on a raw entity, and for a deployment on its namespace, give the specifications for
kube-state-metrics the same answers about it. -/
theorem stateMetrics_agrees {specs : SpecGroup} (h : groups.entity? group id = groups'.entity? group id)
    (hns : group = "deployment" → ∀ ns, namespaceOf groups id = some ns →
      groups.entity? "namespace" ns = groups'.entity? "namespace" ns)
    (hspecs : stateMetricsSpecs.get? group = some specs) :
    specs.Agrees group id groups groups' := by
  rcases StateMetrics.get?_stateMetricsSpecs_iff.1 hspecs with
    ⟨rfl, rfl⟩ | ⟨rfl, rfl⟩ | ⟨rfl, rfl⟩ | ⟨rfl, rfl⟩
  · exact .of_isLocal h (isLocal_label _ _) (isLocal_labelType _) isLocal_replicaSetSpecs
  · exact .of_isLocal h isLocal_rawId (isLocal_labelType _) isLocal_namespaceSpecs
  · exact deployment_agrees h (hns rfl)
  · exact .of_isLocal h isLocal_pendingPod (isLocal_labelType _) isLocal_pendingPodSpecs

/-! ### Runs -/

/-- What a run records and does for a raw entity depends on that raw entity alone, and for a deployment also on
its raw namespace; and a run as a whole depends on the groups with specifications alone. -/
theorem populate_local (cluster : String) :
    (∀ groups specs store, ((populator cluster).populate groups specs store).2 =
      (((populator cluster).stepsBy groups specs).map Prod.snd).foldl Step.apply store) ∧
    (∀ group id groups groups', groups.entity? group id = groups'.entity? group id →
      (populator cluster).SameAt kubeletSpecs group id groups groups') ∧
    (∀ group id groups groups', groups.entity? group id = groups'.entity? group id →
      (group = "deployment" → ∀ ns, namespaceOf groups id = some ns →
        groups.entity? "namespace" ns = groups'.entity? "namespace" ns) →
      (populator cluster).SameAt stateMetricsSpecs group id groups groups') ∧
    ∀ specs ∈ [kubeletSpecs, stateMetricsSpecs], ∀ groups groups',
      (∀ group, (specs.get? group).isSome → groups.get? group = groups'.get? group) →
      ∀ store, (populator cluster).populate groups specs store =
        (populator cluster).populate groups' specs store := by
  refine ⟨fun groups specs store => by rw [Populator.populate_eq], fun group id groups groups' h => ?_,
    fun group id groups groups' h hns => ?_, fun specs hmem groups groups' h store => ?_⟩
  · refine Populator.sameAt_of_report h fun specs hspecs => ?_
    exact Populator.report_congr (kubelet_agrees h hspecs) rfl
  · refine Populator.sameAt_of_report h fun specs hspecs => ?_
    exact Populator.report_congr (stateMetrics_agrees h hns hspecs) rfl
  · have hentity : ∀ group, (specs.get? group).isSome → ∀ id,
        groups.entity? group id = groups'.entity? group id := by
      intro group hsome id
      rw [entity?, entity?, h group hsome]
    refine Populator.populate_congr (Populator.subjects_congr h) (fun group id spec hspec => ?_) store
    have hsome : (specs.get? group).isSome := by rw [hspec]; rfl
    refine Populator.report_congr ?_ rfl
    rcases List.mem_pair.1 hmem with rfl | rfl
    · exact kubelet_agrees (hentity group hsome id) hspec
    · have hns : ∀ ns, groups.entity? "namespace" ns = groups'.entity? "namespace" ns :=
        hentity "namespace" rfl
      exact stateMetrics_agrees (hentity group hsome id) (fun _ ns _ => hns ns) hspec

/-- A raw pod, a raw deployment and its raw namespace. -/
def quietGroups : RawGroups :=
  .ofList [("deployment", .ofList [("shop_web", .ofList [("kube_deployment_labels",
      .sample ⟨1, .ofList [("namespace", "shop"), ("deployment", "web")]⟩)])]),
    ("namespace", .ofList [("shop", .ofList [("kube_namespace_labels",
      .sample ⟨1, .ofList [("label_team", "web")]⟩)])]),
    ("pod", .ofList [("shop_web-1", .ofList [("namespace", .scalar (.str "shop"))])])]

/-- The same raw entities among others. -/
def crowdedGroups : RawGroups :=
  let withOthers := quietGroups.update "namespace" "bank" fun _ => .empty
  (withOthers.update "deployment" "bank_vault" fun _ => .empty).update "pod" "bank_vault-1" fun _ =>
    .ofList [("namespace", .labels .empty)]

theorem populate_local_crowdedGroups :
    (populator "prod").SameAt kubeletSpecs "pod" "shop_web-1" quietGroups crowdedGroups ∧
    (populator "prod").SameAt stateMetricsSpecs "deployment" "shop_web" quietGroups crowdedGroups ∧
    ∀ store, (populator "prod").populate quietGroups kubeletSpecs store =
      (populator "prod").populate (quietGroups.update "service" "web" fun m => m) kubeletSpecs store := by
  obtain ⟨-, hkubelet, hstate, hrun⟩ := populate_local "prod"
  refine ⟨hkubelet _ _ _ _ rfl, hstate _ _ _ _ rfl fun _ ns hns => ?_, hrun _ (by simp) _ _ ?_⟩
  · obtain rfl : "shop" = ns := Option.some.inj hns
    rfl
  · intro group hsome
    have hne : group ≠ "service" := by
      rintro rfl
      cases hsome
    rw [RawGroups.update, TextMap.alter, TextMap.get?_insert_of_ne _ _ hne]

end Catalog

end NodeTelemetry
