import Mathlib.Data.List.Nodup
import NodeTelemetry.Catalog.StateMetrics
import NodeTelemetry.Proofs.Query
import NodeTelemetry.Proofs.RawGroups
import NodeTelemetry.Proofs.Text.Joined
import NodeTelemetry.StateMetrics.Groups

/-!
# Where samples are stored

A sample is stored in the group of each label that it carries, under the ID that its labels make, and the last one
of a series counts. So every raw metric of these groups is a sample that the queries keep and that belongs to its
entity, and every such sample has its entity.

## Main definitions

* `StateMetrics.grouped`: the raw groups that the catalog makes of samples.
* `StateMetrics.Belongs`: a sample that is kept belongs to an entity.

## Main statements

* `StateMetrics.raw?_foldl_apply`: of the samples that are placed under one name, the last one is stored.
* `StateMetrics.belongs_of_sample`, `StateMetrics.isSome_entity?_of_belongs`: what is stored, and what exists.
* `StateMetrics.sample_cases`, `StateMetrics.isMissing_of_label_error`: look-ups in an entity that exists.
-/

namespace NodeTelemetry

/-- A raw metric of an entity, if both are there. -/
def RawGroups.raw? (groups : RawGroups) (group id key : String) : Option RawValue :=
  (groups.entity? group id).bind fun metrics => metrics.get? key

namespace StateMetrics

/-! ### Placing samples one after the other -/

theorem raw?_apply (groups : RawGroups) (p : Placement) (group id key : String) :
    (p.apply groups).raw? group id key =
      if group = p.group ∧ id = p.id ∧ key = p.series then some (.sample p.sample)
      else groups.raw? group id key := by
  rw [RawGroups.raw?, Placement.apply, RawGroups.entity?_update]
  by_cases hplace : group = p.group ∧ id = p.id
  · obtain ⟨rfl, rfl⟩ := hplace
    rw [if_pos ⟨rfl, rfl⟩, Option.bind_some, TextMap.get?_insert]
    by_cases hkey : key = p.series
    · simp [hkey]
    · simp only [hkey, if_false, and_false]
      cases h : groups.entity? p.group p.id <;> simp [RawGroups.raw?, h]
  · rw [if_neg hplace, if_neg fun h => hplace ⟨h.1, h.2.1⟩, RawGroups.raw?]

/-- Of the samples that are placed under one name the last one is stored. -/
theorem raw?_foldl_apply (ps : List Placement) (groups : RawGroups) (group id key : String) :
    (ps.foldl Placement.apply groups).raw? group id key =
      ((ps.reverse.find? fun p => group = p.group ∧ id = p.id ∧ key = p.series).map fun p =>
        RawValue.sample p.sample).or (groups.raw? group id key) := by
  induction ps generalizing groups with
  | nil => rfl
  | cons p rest ih =>
    rw [List.foldl_cons, ih, raw?_apply, List.reverse_cons, List.find?_append]
    cases rest.reverse.find? fun p => group = p.group ∧ id = p.id ∧ key = p.series with
    | some q => rfl
    | none =>
      by_cases h : group = p.group ∧ id = p.id ∧ key = p.series
      · simp [h]
      · simp [h]

/-- An entity exists where a sample was placed. -/
theorem isSome_entity?_foldl_apply (ps : List Placement) (groups : RawGroups) (group id : String) :
    ((ps.foldl Placement.apply groups).entity? group id).isSome ↔
      (groups.entity? group id).isSome ∨ ∃ p ∈ ps, group = p.group ∧ id = p.id := by
  induction ps generalizing groups with
  | nil => simp
  | cons p rest ih =>
    have hstep : ((p.apply groups).entity? group id).isSome ↔
        (groups.entity? group id).isSome ∨ (group = p.group ∧ id = p.id) := by
      rw [Placement.apply, RawGroups.entity?_update]
      by_cases h : group = p.group ∧ id = p.id
      · simp [h]
      · simp [h]
    rw [List.foldl_cons, ih, hstep, or_assoc]
    simp

/-! ### The groups of families -/

theorem mem_placements_iff {labels : List String} {families : List Family} {p : Placement} :
    p ∈ labels.flatMap (fun group => placementsIn group families) ↔
      p.group ∈ labels ∧ Query.Held families p.series p.sample ∧
        p.sample.labels.contains p.group = true ∧ rawId p.group p.sample = p.id := by
  simp only [placementsIn, List.mem_flatMap, List.mem_map, List.mem_filter, Query.Held]
  constructor
  · rintro ⟨group, hgroup, f, hf, s, ⟨hs, hlabel⟩, rfl⟩
    exact ⟨hgroup, ⟨f, hf, rfl, hs⟩, hlabel, rfl⟩
  · obtain ⟨group, id, series, s⟩ := p
    rintro ⟨hgroup, ⟨f, hf, rfl, hs⟩, hlabel, hid⟩
    exact ⟨group, hgroup, f, hf, s, ⟨hs, hlabel⟩, by rw [hid]⟩

theorem exists_of_raw?_groupByLabels {labels : List String} {families : List Family}
    {group id key : String} {v : RawValue}
    (h : (groupByLabels labels families).raw? group id key = some v) :
    ∃ s, v = .sample s ∧ Query.Held families key s ∧ s.labels.contains group = true ∧
      rawId group s = id := by
  rw [groupByLabels, raw?_foldl_apply] at h
  have hempty : RawGroups.raw? .empty group id key = none := rfl
  rw [hempty, Option.or_none] at h
  obtain ⟨p, hfind, rfl⟩ := Option.map_eq_some_iff.1 h
  have hplace := List.find?_some hfind
  obtain ⟨rfl, rfl, rfl⟩ := of_decide_eq_true hplace
  obtain ⟨-, hheld, hlabel, hid⟩ :=
    mem_placements_iff.1 (List.mem_reverse.1 (List.mem_of_find?_eq_some hfind))
  exact ⟨p.sample, rfl, hheld, hlabel, hid⟩

theorem isSome_entity?_groupByLabels {labels : List String} {families : List Family}
    {group : String} {series : String} {s : Sample} (hgroup : group ∈ labels)
    (hheld : Query.Held families series s) (hlabel : s.labels.contains group = true) :
    ((groupByLabels labels families).entity? group (rawId group s)).isSome := by
  rw [groupByLabels, isSome_entity?_foldl_apply]
  exact .inr ⟨⟨group, rawId group s, series, s⟩,
    mem_placements_iff.2 ⟨hgroup, hheld, hlabel, rfl⟩, rfl, rfl⟩

/-! ### The groups of the catalog -/

/-- The raw groups that the catalog makes of samples with the names of their series. -/
def grouped (samples : List (String × Sample)) : RawGroups :=
  groupByLabels Catalog.stateMetricsSpecs.keys
    (Query.families Catalog.stateMetricsQueries samples)

theorem get?_stateMetricsSpecs_iff {group : String} {specs : SpecGroup} :
    Catalog.stateMetricsSpecs.get? group = some specs ↔
      (group = "replicaset" ∧ specs = Catalog.replicaSetSpecs) ∨
      (group = "namespace" ∧ specs = Catalog.namespaceSpecs) ∨
      (group = "deployment" ∧ specs = Catalog.deploymentSpecs) ∨
      (group = "pod" ∧ specs = Catalog.pendingPodSpecs) := by
  rw [Catalog.stateMetricsSpecs, TextMap.get?_ofList_eq_some_iff]
  · simp
  · intro x hx y hy
    refine List.inj_on_of_nodup_map ?_ hx hy
    decide

theorem mem_keys_stateMetricsSpecs {group : String} :
    group ∈ Catalog.stateMetricsSpecs.keys ↔
      group ∈ ["replicaset", "namespace", "deployment", "pod"] := by
  rw [TextMap.mem_keys_iff, Option.isSome_iff_exists]
  simp only [get?_stateMetricsSpecs_iff]
  simp [exists_or]

/-- A sample that is given and kept belongs to an entity: it carries the label of the group, and its labels make
the ID. -/
structure Belongs (samples : List (String × Sample)) (group id series : String) (s : Sample) :
    Prop where
  given : (series, s) ∈ samples
  kept : Query.keep Catalog.stateMetricsQueries series s = true
  label : s.labels.contains group = true
  rawId : StateMetrics.rawId group s = id

variable {samples : List (String × Sample)} {group id series : String} {s : Sample}

theorem belongs_of_raw? {v : RawValue} (h : (grouped samples).raw? group id series = some v) :
    ∃ s, v = .sample s ∧ Belongs samples group id series s := by
  obtain ⟨s, rfl, hheld, hlabel, hid⟩ := exists_of_raw?_groupByLabels h
  obtain ⟨hkept, hgiven⟩ := Query.held_families_iff.1 hheld
  exact ⟨s, rfl, hgiven, hkept, hlabel, hid⟩

theorem isSome_entity?_of_belongs (h : Belongs samples group id series s)
    (hgroup : group ∈ ["replicaset", "namespace", "deployment", "pod"]) :
    ((grouped samples).entity? group id).isSome := by
  rw [← h.rawId]
  exact isSome_entity?_groupByLabels (mem_keys_stateMetricsSpecs.2 hgroup)
    (Query.held_families_iff.2 ⟨h.kept, h.given⟩) h.label

/-- An entity of a namespace exists for every sample with the label of the namespace. -/
theorem Belongs.inNamespace {ns : String} (h : Belongs samples group id series s)
    (hns : s.labels.get? "namespace" = some ns) : Belongs samples "namespace" ns series s where
  given := h.given
  kept := h.kept
  label := by simp [TextMap.contains, hns]
  rawId := by simp [StateMetrics.rawId, Sample.label, TextMap.getD, hns]

/-- A sample names what its raw ID is made of, if its own names hold no separator. -/
theorem Belongs.names_eq {ns name : String} (hgroup : group ∉ ["namespace", "container"])
    (hns : '_' ∉ (s.label "namespace").toList) (hname : '_' ∉ (s.label group).toList)
    (h : Belongs samples group (ns ++ "_" ++ name) series s) :
    s.label "namespace" = ns ∧ s.label group = name := by
  have hid : StateMetrics.rawId group s = s.label "namespace" ++ "_" ++ s.label group := by
    unfold StateMetrics.rawId
    split
    · simp at hgroup
    · simp at hgroup
    · rfl
  exact eq_of_joined_eq hns hname (hid.symm.trans h.rawId)

/-! ### Look-ups -/

theorem label_eq_of_get? {name value : String} (h : s.labels.get? name = some value) :
    s.label name = value := by
  rw [Sample.label, TextMap.getD, h, Option.getD_some]

theorem get?_of_label_eq {name value : String} (h : s.label name = value) (hne : value ≠ "") :
    s.labels.get? name = some value := by
  rw [Sample.label, TextMap.getD] at h
  cases hget : s.labels.get? name with
  | none =>
    rw [hget] at h
    exact absurd h.symm hne
  | some v =>
    rw [hget] at h
    exact congrArg some h

/-- A raw metric or one of its labels is missing. -/
def IsMissing : FetchError → Prop
  | .metricNotFound _ _ _ => True
  | .labelNotFound _ _ => True
  | _ => False

theorem sample_eq_ok_iff {groups : RawGroups} :
    groups.sample group id series = .ok s ↔ groups.raw? group id series = some (.sample s) := by
  rw [RawGroups.sample, RawGroups.metric, RawGroups.entity, RawGroups.raw?]
  cases groups.entity? group id with
  | none => simp
  | some m =>
    simp only [Option.bind_some]
    cases m.get? series with
    | none => simp
    | some v => cases v <;> simp

theorem belongs_of_sample (h : (grouped samples).sample group id series = .ok s) :
    Belongs samples group id series s := by
  obtain ⟨t, ht, hbelongs⟩ := belongs_of_raw? (sample_eq_ok_iff.1 h)
  obtain rfl := RawValue.sample.inj ht
  exact hbelongs

/-- In an entity that exists, a raw metric is a sample, or is missing. -/
theorem sample_groupByLabels_cases {labels : List String} {families : List Family}
    (hsome : ((groupByLabels labels families).entity? group id).isSome) (series : String) :
    (∃ s, (groupByLabels labels families).sample group id series = .ok s) ∨
      (groupByLabels labels families).sample group id series =
        .error (.metricNotFound group id series) := by
  obtain ⟨m, hm⟩ := Option.isSome_iff_exists.1 hsome
  cases hv : m.get? series with
  | none => exact .inr (by simp [RawGroups.sample, RawGroups.metric, RawGroups.entity, hm, hv])
  | some v =>
    have hraw : (groupByLabels labels families).raw? group id series = some v := by
      rw [RawGroups.raw?, hm, Option.bind_some, hv]
    obtain ⟨s, rfl, -⟩ := exists_of_raw?_groupByLabels hraw
    exact .inl ⟨s, sample_eq_ok_iff.2 hraw⟩

theorem sample_cases (hsome : ((grouped samples).entity? group id).isSome) (series : String) :
    (∃ s, (grouped samples).sample group id series = .ok s) ∨
      (grouped samples).sample group id series = .error (.metricNotFound group id series) :=
  sample_groupByLabels_cases hsome series

theorem isMissing_of_sample_error {e : FetchError}
    (hsome : ((grouped samples).entity? group id).isSome)
    (h : (grouped samples).sample group id series = .error e) : IsMissing e := by
  rcases sample_cases hsome series with ⟨s, hs⟩ | hmissing
  · rw [hs] at h
    simp at h
  · rw [hmissing] at h
    obtain rfl := Except.error.inj h
    trivial

theorem label_eq_ok_iff {groups : RawGroups} {name value : String} :
    groups.label group id series name = .ok value ↔
      ∃ s, groups.sample group id series = .ok s ∧ s.labels.get? name = some value := by
  rw [RawGroups.label]
  cases groups.sample group id series with
  | error e => simp
  | ok s =>
    cases h : s.labels.get? name with
    | none => simp [h]
    | some v => simp [h]

theorem isMissing_of_label_error {name : String} {e : FetchError}
    (hsome : ((grouped samples).entity? group id).isSome)
    (h : (grouped samples).label group id series name = .error e) : IsMissing e := by
  rw [RawGroups.label] at h
  cases hs : (grouped samples).sample group id series with
  | error e' =>
    rw [hs] at h
    obtain rfl := Except.error.inj h
    exact isMissing_of_sample_error hsome hs
  | ok s =>
    rw [hs] at h
    cases hv : s.labels.get? name with
    | none =>
      simp only [hv] at h
      obtain rfl := Except.error.inj h
      trivial
    | some v => simp [hv] at h

/-- The type of an entity in a namespace, and that it is never empty. -/
theorem labelType_eq_ok_iff {groups : RawGroups} {cluster metric type : String}
    (hnamespace : group ≠ "namespace") (hcontainer : group ≠ "container") :
    TypeGenerator.labelValue metric group id groups cluster = .ok type ↔
      ∃ ns, groups.label group id metric "namespace" = .ok ns ∧
        type = "k8s:" ++ cluster ++ ":" ++ ns ++ ":" ++ group := by
  unfold TypeGenerator.labelValue
  split
  · exact absurd rfl hnamespace
  · exact absurd rfl hcontainer
  · cases groups.label group id metric "namespace" with
    | error e => simp [bind, Except.bind]
    | ok ns => simp [bind, Except.bind, eq_comm]

theorem type_ne_empty (cluster ns group : String) :
    "k8s:" ++ cluster ++ ":" ++ ns ++ ":" ++ group ≠ "" := by
  intro h
  simpa using congrArg (fun s => s.toList.head?) h

end StateMetrics

end NodeTelemetry
