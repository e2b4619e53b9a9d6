import NodeTelemetry.Proofs.Populate.Typing
import NodeTelemetry.Proofs.StateMetrics.Placements
import NodeTelemetry.Proofs.Value.Doubles

/-!
# The specifications of kube-state-metrics agree with samples

Whatever samples are given, the specifications find samples where they look for them, and the owner of an entity
where it is looked up. What is recorded is that a raw metric or a label is missing, that a label has no meaning
as a truth value, that an entity has an empty name, or that the number of a sample is none.

## Main definitions

* `StateMetrics.IsGap`, `StateMetrics.IsSampled`: the failures that occur, and the writes that may be refused.

## Main statements

* `StateMetrics.phase_of_kept`: of the phases of pods, only the pending one is kept.
* `StateMetrics.accepts_of_mem_specs`: what fetches give to the specifications.
* `StateMetrics.cause_of_grouped`: what can be recorded when samples are populated.
-/

namespace NodeTelemetry.StateMetrics

variable {samples : List (String × Sample)} {group id series name : String}

/-! ### What is kept of phases -/

/-- Of the phases of pods only those that say that a pod is pending now are kept. -/
theorem phase_of_kept {s : Sample}
    (h : Query.keep Catalog.stateMetricsQueries "kube_pod_status_phase" s = true) :
    s.labels.get? "phase" = some "Pending" ∧ (s.value == 1.0) = true := by
  obtain ⟨q, hq, hselects⟩ := List.any_eq_true.1 h
  rw [Catalog.stateMetricsQueries, List.mem_append, List.mem_append] at hq
  simp only [Query.selects, Bool.and_eq_true, beq_iff_eq] at hselects
  obtain ⟨⟨hseries, hvalue⟩, hlabels⟩ := hselects
  rcases hq with (hq | hq) | hq
  · obtain ⟨series, hmem, rfl⟩ := List.mem_map.1 hq
    have hnot : "kube_pod_status_phase" ∉ Catalog.wholeSeries := by decide
    exact absurd (hseries ▸ hmem) hnot
  · obtain ⟨series, hmem, rfl⟩ := List.mem_map.1 hq
    have hnot : "kube_pod_status_phase" ∉ Catalog.stateSeries := by decide
    exact absurd (hseries ▸ hmem) hnot
  · obtain rfl := List.mem_singleton.1 hq
    refine ⟨?_, hvalue⟩
    have hlabel : s.label "phase" = "Pending" := by
      have hentries : (TextMap.ofList [("phase", "Pending")]).entries = [("phase", "Pending")] := rfl
      simpa [LabelCondition.holds, Query.withLabels, Query.withValue, TextMap.isEmpty, hentries]
        using hlabels
    rw [Sample.label, TextMap.getD] at hlabel
    cases hget : s.labels.get? "phase" with
    | none => simp [hget] at hlabel
    | some phase =>
      rw [hget, Option.getD_some] at hlabel
      rw [hlabel]

/-! ### Fetches -/

/-- Of two fetches one after the other one fails, if both fail together. -/
theorem error_cases {α β : Type} {x : Except FetchError α} {f : α → Except FetchError β}
    {e : FetchError} (h : (x >>= f) = .error e) : x = .error e ∨ ∃ a, x = .ok a ∧ f a = .error e := by
  cases x with
  | error e' =>
    obtain rfl := Except.error.inj h
    exact .inl rfl
  | ok a => exact .inr ⟨a, rfl, h⟩

/-- A raw metric or a label is missing, or a transform found no meaning in a value. -/
def IsGap (e : FetchError) : Prop := IsMissing e ∨ ∃ reason, e = .transform reason

/-- A write of the number of a sample of the entity. -/
def IsSampled (samples : List (String × Sample)) (group id : String) (w : Write) : Prop :=
  Unreserved w.name ∧ w.type = .gauge ∧
    ∃ series s, (grouped samples).sample group id series = .ok s ∧ w.value = .float s.value

/-- A specification gets values of its declared type, but for numbers of samples. -/
def Sound (samples : List (String × Sample)) (group id : String) (spec : Spec) : Prop :=
  Accepts (IsSampled samples group id) IsGap spec (spec.fetch group id (grouped samples))

theorem sound_gaugeOf (hsome : ((grouped samples).entity? group id).isSome)
    (hname : Unreserved name) : Sound samples group id (Catalog.gaugeOf name series) := by
  simp only [Sound, Catalog.gaugeOf, Fetch.sampleValue]
  cases hs : (grouped samples).sample group id series with
  | error e => exact .inl (isMissing_of_sample_error hsome hs)
  | ok s =>
    intro x hx
    obtain rfl := List.mem_singleton.1 hx
    exact ⟨.inl rfl, .inr ⟨hname, rfl, series, s, hs, rfl⟩⟩

theorem sound_ofText {find : (group id : String) → RawGroups → Except FetchError String}
    (hname : Unreserved name)
    (hfind : ∀ e, find group id (grouped samples) = .error e → IsMissing e) :
    Sound samples group id ⟨name, Fetch.ofText find, .attr⟩ := by
  simp only [Sound, Fetch.ofText]
  cases hv : find group id (grouped samples) with
  | error e => exact .inl (hfind e hv)
  | ok text => exact accepts_text hname text

theorem sound_attributeOf {label : String} (hsome : ((grouped samples).entity? group id).isSome)
    (hname : Unreserved name) : Sound samples group id (Catalog.attributeOf name series label) :=
  sound_ofText hname fun _ => isMissing_of_label_error hsome

theorem sound_conditionOf (hsome : ((grouped samples).entity? group id).isSome)
    (hname : Unreserved name) : Sound samples group id (Catalog.conditionOf name series) := by
  simp only [Sound, Catalog.conditionOf, Fetch.thenApply, Fetch.labelValue, Fetch.ofText]
  cases hv : (grouped samples).label group id series "condition" with
  | error e => exact .inl (isMissing_of_label_error hsome hv)
  | ok text =>
    exact accepts_of_numeric hname (fun reason => .inr ⟨reason, rfl⟩)
      (numeric_toNumericBoolean (.str text))

/-! ### Labels of owners -/

theorem label_of_mem_objectLabels {s : Sample} {x : String × Scalar}
    (hx : x ∈ s.objectLabels.entries) : ∃ label text, x = ("label." ++ label, .str text) := by
  obtain ⟨⟨label, text⟩, -, hx⟩ := List.mem_filterMap.1 (TextMap.mem_of_mem_entries_ofList hx)
  obtain ⟨rest, -, rfl⟩ := Option.map_eq_some_iff.1 hx
  exact ⟨_, _, rfl⟩

theorem sound_ownerLabels {parent owner : String}
    (howner : parentId parent group id (grouped samples) = .ok owner)
    (hsome : ((grouped samples).entity? parent owner).isSome) :
    Sound samples group id (Catalog.ownerLabels parent series) := by
  simp only [Sound, Catalog.ownerLabels, Fetch.inheritLabels, howner]
  cases hs : (grouped samples).sample parent owner series with
  | error e => exact .inl (isMissing_of_sample_error hsome hs)
  | ok s => exact accepts_labels fun x => label_of_mem_objectLabels

theorem parentId_self (group id : String) (groups : RawGroups) :
    parentId group group id groups = .ok id := by
  rw [parentId, if_pos rfl]

/-- The namespace of an entity comes from one of its samples, and no other raw entity can be meant. -/
theorem exists_sample_of_parentId {ns : String} (hgroup : "namespace" ≠ group)
    (h : parentId "namespace" group id (grouped samples) = .ok ns) :
    ∃ series s, Belongs samples group id series s ∧ s.labels.get? "namespace" = some ns := by
  rw [parentId, if_neg hgroup, RawGroups.entity] at h
  cases hm : (grouped samples).entity? group id with
  | none => simp [hm] at h
  | some m =>
    simp only [hm] at h
    split at h
    · next owner hfind =>
      obtain rfl := Except.ok.inj h
      obtain ⟨v, hv, howner⟩ := List.exists_of_findSome?_eq_some hfind
      obtain ⟨⟨series, v⟩, hmem, rfl⟩ := List.mem_map.1 hv
      have hraw : (grouped samples).raw? group id series = some v := by
        rw [RawGroups.raw?, hm, Option.bind_some, TextMap.get?_eq_some_iff.2 hmem]
      obtain ⟨s, rfl, hbelongs⟩ := belongs_of_raw? hraw
      refine ⟨series, s, hbelongs, ?_⟩
      simp only [Sample.ownerId?, if_true] at howner
      cases hns : s.labels.get? "namespace" with
      | none => simp [hns] at howner
      | some ns' => simpa [hns] using howner
    · simp at h

theorem parentId_error {parent : String} {e : FetchError}
    (hsome : ((grouped samples).entity? group id).isSome)
    (h : parentId parent group id (grouped samples) = .error e) : IsMissing e := by
  obtain ⟨m, hm⟩ := Option.isSome_iff_exists.1 hsome
  rw [parentId] at h
  split at h
  · simp at h
  · simp only [RawGroups.entity, hm] at h
    split at h
    · simp at h
    · obtain rfl := Except.error.inj h
      trivial

/-- The namespace whose labels an entity inherits always exists: the sample that names it was stored there too. -/
theorem sound_namespaceLabels (hgroup : "namespace" ≠ group)
    (hsome : ((grouped samples).entity? group id).isSome) :
    Sound samples group id (Catalog.ownerLabels "namespace" series) := by
  cases howner : parentId "namespace" group id (grouped samples) with
  | error e =>
    simp only [Sound, Catalog.ownerLabels, Fetch.inheritLabels, howner]
    exact .inl (parentId_error hsome howner)
  | ok ns =>
    obtain ⟨series', s, hbelongs, hns⟩ := exists_sample_of_parentId hgroup howner
    exact sound_ownerLabels howner (isSome_entity?_of_belongs (hbelongs.inNamespace hns) (by decide))

/-! ### The specifications of the catalog -/

theorem sound_replicaSetSpecs (hsome : ((grouped samples).entity? "replicaset" id).isSome) :
    ∀ spec ∈ Catalog.replicaSetSpecs.specs, Sound samples "replicaset" id spec := by
  simp only [Catalog.replicaSetSpecs, List.forall_mem_cons, List.not_mem_nil, false_implies,
    implies_true, and_true]
  refine ⟨sound_gaugeOf hsome (by decide), sound_gaugeOf hsome (by decide),
    sound_gaugeOf hsome (by decide), sound_gaugeOf hsome (by decide),
    sound_gaugeOf hsome (by decide), sound_gaugeOf hsome (by decide),
    sound_attributeOf hsome (by decide), sound_attributeOf hsome (by decide),
    sound_ofText (by decide) fun e he => ?_⟩
  cases hlabel : (grouped samples).label "replicaset" id "kube_replicaset_created" "replicaset" with
  | ok name => simp [hlabel, Except.map] at he
  | error e' =>
    rw [hlabel] at he
    obtain rfl := Except.error.inj he
    exact isMissing_of_label_error hsome hlabel

theorem sound_namespaceSpecs (hsome : ((grouped samples).entity? "namespace" id).isSome) :
    ∀ spec ∈ Catalog.namespaceSpecs.specs, Sound samples "namespace" id spec := by
  simp only [Catalog.namespaceSpecs, List.forall_mem_cons, List.not_mem_nil, false_implies,
    implies_true, and_true]
  exact ⟨sound_gaugeOf hsome (by decide), sound_attributeOf hsome (by decide),
    sound_attributeOf hsome (by decide), sound_ownerLabels (parentId_self _ _ _) hsome⟩

theorem sound_deploymentSpecs (hsome : ((grouped samples).entity? "deployment" id).isSome) :
    ∀ spec ∈ Catalog.deploymentSpecs.specs, Sound samples "deployment" id spec := by
  simp only [Catalog.deploymentSpecs, List.forall_mem_cons, List.not_mem_nil, false_implies,
    implies_true, and_true]
  exact ⟨sound_gaugeOf hsome (by decide), sound_gaugeOf hsome (by decide),
    sound_gaugeOf hsome (by decide), sound_gaugeOf hsome (by decide),
    sound_gaugeOf hsome (by decide), sound_gaugeOf hsome (by decide),
    sound_gaugeOf hsome (by decide), sound_attributeOf hsome (by decide),
    sound_attributeOf hsome (by decide), sound_namespaceLabels (by decide) hsome,
    sound_ownerLabels (parentId_self _ _ _) hsome⟩

theorem sound_pendingPodSpecs (hsome : ((grouped samples).entity? "pod" id).isSome) :
    ∀ spec ∈ Catalog.pendingPodSpecs.specs, Sound samples "pod" id spec := by
  simp only [Catalog.pendingPodSpecs, List.forall_mem_cons, List.not_mem_nil, false_implies,
    implies_true, and_true]
  refine ⟨sound_gaugeOf hsome (by decide), sound_gaugeOf hsome (by decide),
    sound_attributeOf hsome (by decide), sound_attributeOf hsome (by decide),
    sound_attributeOf hsome (by decide), sound_attributeOf hsome (by decide),
    sound_attributeOf hsome (by decide), sound_attributeOf hsome (by decide),
    sound_conditionOf hsome (by decide), sound_attributeOf hsome (by decide),
    sound_conditionOf hsome (by decide), sound_ofText (by decide) fun e he => ?_,
    sound_ownerLabels (parentId_self _ _ _) hsome⟩
  rcases error_cases he with hkind | ⟨kind, -, he⟩
  · exact isMissing_of_label_error hsome hkind
  · rcases error_cases he with hname | ⟨name, -, he⟩
    · exact isMissing_of_label_error hsome hname
    · simp at he

theorem mem_of_get? {specs : SpecGroup} (h : Catalog.stateMetricsSpecs.get? group = some specs) :
    group ∈ ["replicaset", "namespace", "deployment", "pod"] :=
  mem_keys_stateMetricsSpecs.1 (TextMap.mem_keys_iff.2 (Option.isSome_of_eq_some h))

theorem ne_empty_of_get? {specs : SpecGroup}
    (h : Catalog.stateMetricsSpecs.get? group = some specs) : group ≠ "" := by
  rintro rfl
  exact absurd (mem_of_get? h) (by decide)

/-- Groups with specifications have different event types. -/
theorem eq_of_eventType_eq {group' type : String} {specs specs' : SpecGroup}
    (hspecs : Catalog.stateMetricsSpecs.get? group = some specs)
    (hspecs' : Catalog.stateMetricsSpecs.get? group' = some specs')
    (h : Catalog.eventType group = .ok type) (h' : Catalog.eventType group' = .ok type) :
    group = group' ∧ specs = specs' := by
  have hdistinct : ∀ g ∈ ["replicaset", "namespace", "deployment", "pod"],
      ∀ g' ∈ ["replicaset", "namespace", "deployment", "pod"],
        (Catalog.eventType g).toOption = (Catalog.eventType g').toOption → g = g' := by
    decide
  obtain rfl := hdistinct group (mem_of_get? hspecs) group' (mem_of_get? hspecs') (by rw [h, h'])
  exact ⟨rfl, Option.some.inj (hspecs.symm.trans hspecs')⟩

theorem accepts_of_mem_specs {specs : SpecGroup}
    (hspecs : Catalog.stateMetricsSpecs.get? group = some specs)
    (hsome : ((grouped samples).entity? group id).isSome) :
    ∀ spec ∈ specs.specs, Sound samples group id spec := by
  rcases get?_stateMetricsSpecs_iff.1 hspecs with ⟨rfl, rfl⟩ | ⟨rfl, rfl⟩ | ⟨rfl, rfl⟩ | ⟨rfl, rfl⟩
  · exact sound_replicaSetSpecs hsome
  · exact sound_namespaceSpecs hsome
  · exact sound_deploymentSpecs hsome
  · exact sound_pendingPodSpecs hsome

/-! ### Identities -/

theorem isMissing_of_type_error (metric : String) {cluster : String} {e : FetchError}
    (hsome : ((grouped samples).entity? group id).isSome)
    (h : TypeGenerator.labelValue metric group id (grouped samples) cluster = .error e) :
    IsMissing e := by
  unfold TypeGenerator.labelValue at h
  split at h
  · simp at h
  · rcases error_cases h with hns | ⟨ns, -, h⟩
    · exact isMissing_of_label_error hsome hns
    · rcases error_cases h with hpod | ⟨pod, -, h⟩
      · exact isMissing_of_label_error hsome hpod
      · simp at h
  · rcases error_cases h with hns | ⟨ns, -, h⟩
    · exact isMissing_of_label_error hsome hns
    · simp at h

/-- Every pod whose phase is known is pending, since no other phase is kept. -/
theorem isMissing_of_pendingPod_error {e : FetchError}
    (hsome : ((grouped samples).entity? group id).isSome)
    (h : IdGenerator.pendingPod group id (grouped samples) = .error e) : IsMissing e := by
  rw [IdGenerator.pendingPod] at h
  rcases error_cases h with hphase | ⟨phase, hphase, h⟩
  · exact isMissing_of_label_error hsome hphase
  · obtain ⟨s, hs, hlabel⟩ := label_eq_ok_iff.1 hphase
    have hpending := (phase_of_kept (belongs_of_sample hs).kept).1
    obtain rfl := Option.some.inj (hlabel.symm.trans hpending)
    rw [if_pos rfl] at h
    exact isMissing_of_label_error hsome h

theorem isMissing_of_name_error {specs : SpecGroup} {e : FetchError}
    (hspecs : Catalog.stateMetricsSpecs.get? group = some specs)
    (hsome : ((grouped samples).entity? group id).isSome)
    (h : specs.nameOf group id (grouped samples) = .error e) : IsMissing e := by
  rcases get?_stateMetricsSpecs_iff.1 hspecs with ⟨rfl, rfl⟩ | ⟨rfl, rfl⟩ | ⟨rfl, rfl⟩ | ⟨rfl, rfl⟩
  · exact isMissing_of_label_error hsome h
  · simp [SpecGroup.nameOf, Catalog.namespaceSpecs] at h
  · exact isMissing_of_label_error hsome h
  · exact isMissing_of_pendingPod_error hsome h

theorem isMissing_of_typeOf_error {specs : SpecGroup} {cluster : String} {e : FetchError}
    (hspecs : Catalog.stateMetricsSpecs.get? group = some specs)
    (hsome : ((grouped samples).entity? group id).isSome)
    (h : specs.typeOf group id (grouped samples) cluster = .error e) : IsMissing e := by
  rcases get?_stateMetricsSpecs_iff.1 hspecs with ⟨rfl, rfl⟩ | ⟨rfl, rfl⟩ | ⟨rfl, rfl⟩ | ⟨rfl, rfl⟩
  · exact isMissing_of_type_error "kube_replicaset_created" hsome h
  · exact isMissing_of_type_error "kube_namespace_created" hsome h
  · exact isMissing_of_type_error "kube_deployment_created" hsome h
  · exact isMissing_of_type_error "kube_pod_status_phase" hsome h

/-! ### What can be recorded -/

/-- The number of a sample is refused only if it is none. -/
theorem nonNumeric_of_isSampled {w : Write} {e : WriteError} (hw : IsSampled samples group id w)
    (he : w.stored = .error e) :
    e = .nonNumeric w.name w.value.text ∧ ∃ series s,
      (grouped samples).sample group id series = .ok s ∧ w.value = .float s.value ∧
        (s.value.isInf = true ∨ s.value.isNaN = true) := by
  obtain ⟨name, value, type⟩ := w
  obtain ⟨hname, htype, series, s, hs, hvalue⟩ := hw
  simp only at htype hvalue
  subst htype hvalue
  have hfinite : ¬ s.value.isFinite = true := by
    intro hfinite
    have hnumeric : Write.numeric? (.float s.value) = some (.float s.value) := if_pos hfinite
    rw [stored_number hname (by decide) hnumeric] at he
    simp at he
  rw [Write.stored, if_neg hname] at he
  simp only [Write.numeric?, if_neg hfinite] at he
  exact ⟨(Except.error.inj he).symm, series, s, hs, rfl,
    Double.isInf_or_isNaN_of_not_isFinite hfinite⟩

/-- The specifications of kube-state-metrics agree with what its grouping produces, whatever samples are given. No
failure is about a kind of value or an entity that does not exist, not even where labels are inherited from
a namespace, and a number is refused only if it is infinite or none. -/
theorem cause_of_grouped (cluster : String) (samples : List (String × Sample))
    (store : EntityStore) :
    ∀ e ∈ ((Catalog.populator cluster).populate (grouped samples) Catalog.stateMetricsSpecs
        store).1.errors,
      (∃ source, e.cause = .entityId source ∧ IsMissing source) ∨
        (∃ source, e.cause = .entityType source ∧ IsMissing source) ∨
        e.cause = .entity .missingKey ∨
        (∃ metric source, e.cause = .fetch metric source ∧
          (IsMissing source ∨ ∃ reason, source = .transform reason)) ∨
        ∃ metric text series s, e.cause = .setMetric metric text (.nonNumeric metric text) ∧
          (grouped samples).sample e.group e.id series = .ok s ∧ text = (Scalar.float s.value).text ∧
          (s.value.isInf = true ∨ s.value.isNaN = true) := by
  rintro ⟨group, id, cause⟩ he
  obtain ⟨specs, hspecs, hsome, hcause⟩ := Populator.mem_errors_iff.1 he
  simp only at hspecs hsome hcause ⊢
  have haccepts := accepts_of_mem_specs hspecs hsome
  rcases Catalog.cause_of_accepts (ne_empty_of_get? hspecs) haccepts hcause with hkey |
    ⟨metric, source, rfl, hgap⟩ | ⟨w, source, rfl, hstored, hsampled⟩
  · rcases Populator.keyOf_eq_error_iff.1 hkey with ⟨source, hname, rfl⟩ |
      ⟨_, source, -, htype, rfl⟩ | ⟨_, _, -, -, -, rfl⟩
    · exact .inl ⟨source, rfl, isMissing_of_name_error hspecs hsome hname⟩
    · exact .inr (.inl ⟨source, rfl, isMissing_of_typeOf_error hspecs hsome htype⟩)
    · exact .inr (.inr (.inl rfl))
  · exact .inr (.inr (.inr (.inl ⟨metric, source, rfl, hgap⟩)))
  · obtain ⟨rfl, series, s, hs, hvalue, hnone⟩ := nonNumeric_of_isSampled hsampled hstored
    refine .inr (.inr (.inr (.inr ⟨w.name, w.value.text, series, s, rfl, hs, ?_, hnone⟩)))
    rw [hvalue]

/-- A deployment that counts infinitely many replicas. -/
def countlessSamples : List (String × Sample) := [
  ("kube_deployment_created", ⟨1.0, .ofList [("namespace", "shop"), ("deployment", "web")]⟩),
  ("kube_deployment_status_replicas",
    ⟨1.0 / 0.0, .ofList [("namespace", "shop"), ("deployment", "web")]⟩)]

theorem cause_of_countless :
    (⟨"deployment", "shop_web", .setMetric "podsTotal" "inf" (.nonNumeric "podsTotal" "inf")⟩ :
        PopulateError) ∈
        ((Catalog.populator "prod").populate (grouped countlessSamples) Catalog.stateMetricsSpecs
          .empty).1.errors ∧
      ∃ series s, (grouped countlessSamples).sample "deployment" "shop_web" series = .ok s ∧
        "inf" = (Scalar.float s.value).text ∧ (s.value.isInf = true ∨ s.value.isNaN = true) := by
  have he : (⟨"deployment", "shop_web",
      .setMetric "podsTotal" "inf" (.nonNumeric "podsTotal" "inf")⟩ : PopulateError) ∈
      ((Catalog.populator "prod").populate (grouped countlessSamples) Catalog.stateMetricsSpecs
        .empty).1.errors := by
    decide +kernel
  refine ⟨he, ?_⟩
  rcases cause_of_grouped "prod" countlessSamples .empty _ he with ⟨source, h, -⟩ |
    ⟨source, h, -⟩ | h | ⟨metric, source, h, -⟩ | ⟨metric, text, series, s, h, hs, htext, hnone⟩
  · simp at h
  · simp at h
  · simp at h
  · simp at h
  · obtain ⟨-, rfl, -⟩ := PopulateCause.setMetric.inj h
    exact ⟨series, s, hs, htext, hnone⟩

end NodeTelemetry.StateMetrics
