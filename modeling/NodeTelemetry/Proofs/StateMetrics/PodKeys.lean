import NodeTelemetry.Proofs.Kubelet.PodKeys
import NodeTelemetry.Proofs.StateMetrics.PendingPods

/-!
# The keys of pods that are reported to be pending

A pod that is reported to be pending has its key for itself. The key is put together from two samples, the type from
the one of the phase and the name from the one that describes the pod; the raw ID that both samples share ties the two
together, as long as no name holds an underscore.

## Main definitions

* `ReportsPending`: samples that report a pod to be pending.
* `PodsSeparable`: samples that name namespaces and pods without the separator of IDs.

## Main statements

* `exists_sample_of_belongs`: where a sample belongs to a raw entity, some sample is stored.
* `eq_place_of_keyOf`: no other raw entity has the key of a pod.
* `setsOf_pendingPod`: the sets that a run gives to the key of a pod that is reported to be pending.
-/

namespace NodeTelemetry.StateMetrics

open Kubelet (podId Subject)

variable {samples : List (String × Sample)} {group id series ns name cluster : String} {s : Sample}

/-- Samples report a pod of a namespace to be pending: one has its phase, and one describes it. -/
structure ReportsPending (samples : List (String × Sample)) (ns name : String) : Prop where
  phase : ∃ x ∈ samples, x.1 = "kube_pod_status_phase" ∧ x.2.labels.get? "phase" = some "Pending" ∧
    (x.2.value == 1.0) = true ∧ x.2.labels.get? "namespace" = some ns ∧
    x.2.labels.get? "pod" = some name
  info : ∃ x ∈ samples, x.1 = "kube_pod_info" ∧ x.2.labels.get? "namespace" = some ns ∧
    x.2.labels.get? "pod" = some name

instance (samples : List (String × Sample)) (ns name : String) :
    Decidable (ReportsPending samples ns name) :=
  decidable_of_iff (_ ∧ _) ⟨fun h => ⟨h.1, h.2⟩, fun h => ⟨h.phase, h.info⟩⟩

/-- Samples in which no namespace and no pod has a name with the separator of IDs. -/
def PodsSeparable (samples : List (String × Sample)) : Prop :=
  ∀ x ∈ samples, '_' ∉ (x.2.label "namespace").toList ∧ '_' ∉ (x.2.label "pod").toList

instance (samples : List (String × Sample)) : Decidable (PodsSeparable samples) :=
  inferInstanceAs (Decidable (∀ x ∈ samples, _ ∧ _))

/-! ### What is kept and stored -/

theorem keep_pending (hphase : s.labels.get? "phase" = some "Pending")
    (hvalue : (s.value == 1.0) = true) :
    Query.keep Catalog.stateMetricsQueries "kube_pod_status_phase" s = true := by
  refine List.any_eq_true.2 ⟨_, List.mem_append_right _ (List.mem_singleton_self _), ?_⟩
  have hentries : (TextMap.ofList [("phase", "Pending")]).entries = [("phase", "Pending")] := rfl
  simp [Query.selects, Query.withValue, Query.withLabels, Query.ofSeries, hvalue,
    LabelCondition.holds, hentries, Sample.label, TextMap.getD, hphase]

theorem keep_info (s : Sample) :
    Query.keep Catalog.stateMetricsQueries "kube_pod_info" s = true := by
  refine List.any_eq_true.2 ⟨.ofSeries "kube_pod_info", ?_, rfl⟩
  refine List.mem_append_left _ (List.mem_append_left _ (List.mem_map_of_mem ?_))
  decide

theorem belongs_pod (hgiven : (series, s) ∈ samples)
    (hkept : Query.keep Catalog.stateMetricsQueries series s = true)
    (hns : s.labels.get? "namespace" = some ns) (hpod : s.labels.get? "pod" = some name) :
    Belongs samples "pod" (podId ns name) series s where
  given := hgiven
  kept := hkept
  label := by simp [TextMap.contains, hpod]
  rawId := congr (congrArg podId (label_eq_of_get? hns)) (label_eq_of_get? hpod)

/-- Where a sample belongs to a raw entity, the raw entity has a sample of the series. -/
theorem exists_sample_of_belongs (h : Belongs samples group id series s)
    (hgroup : group ∈ ["replicaset", "namespace", "deployment", "pod"]) :
    ∃ t, (grouped samples).sample group id series = .ok t := by
  have hplaced := mem_placements_iff (p := ⟨group, id, series, s⟩).2
    ⟨mem_keys_stateMetricsSpecs.2 hgroup, Query.held_families_iff.2 ⟨h.kept, h.given⟩, h.label,
      h.rawId⟩
  have hsome : ((grouped samples).raw? group id series).isSome := by
    rw [grouped, groupByLabels, raw?_foldl_apply, Option.isSome_or, Option.isSome_map,
      List.find?_isSome.2 ⟨_, List.mem_reverse.2 hplaced, by simp⟩, Bool.true_or]
  obtain ⟨v, hv⟩ := Option.isSome_iff_exists.1 hsome
  obtain ⟨t, rfl, -⟩ := belongs_of_raw? hv
  exact ⟨t, sample_eq_ok_iff.2 hv⟩

theorem labels_of_sample (hsamples : PodsSeparable samples)
    (h : (grouped samples).sample "pod" (podId ns name) series = .ok s) :
    s.label "namespace" = ns ∧ s.label "pod" = name := by
  have hbelongs := belongs_of_sample h
  obtain ⟨hspace, hpod⟩ := hsamples _ hbelongs.given
  exact hbelongs.names_eq (by decide) hspace hpod

/-! ### Keys -/

/-- Whatever a type says about the scope of an entity, it ends in the label of the group. -/
theorem exists_scope_of_typeOf {groups : RawGroups} {specs : SpecGroup} {type : String}
    (hspecs : Catalog.stateMetricsSpecs.get? group = some specs)
    (h : specs.typeOf group id groups cluster = .ok type) : ∃ scope, type = scope ++ group := by
  have hgenerator : ∃ metric, specs.typeGenerator = some (TypeGenerator.labelValue metric) := by
    rcases get?_stateMetricsSpecs_iff.1 hspecs with ⟨-, rfl⟩ | ⟨-, rfl⟩ | ⟨-, rfl⟩ | ⟨-, rfl⟩ <;>
      exact ⟨_, rfl⟩
  obtain ⟨metric, hgenerator⟩ := hgenerator
  simp only [SpecGroup.typeOf, hgenerator] at h
  by_cases hnamespace : group = "namespace"
  · subst hnamespace
    exact ⟨_, (Except.ok.inj h).symm⟩
  · have hcontainer : group ≠ "container" := by
      rintro rfl
      exact absurd (mem_of_get? hspecs) (by decide)
    obtain ⟨ns, -, rfl⟩ := (labelType_eq_ok_iff hnamespace hcontainer).1 h
    exact ⟨_, rfl⟩

/-- Only raw pods have the key of a pod. -/
theorem group_eq_pod_of_keyOf {specs : SpecGroup}
    (hspecs : Catalog.stateMetricsSpecs.get? group = some specs)
    (hkey : (Catalog.populator cluster).keyOf specs group id (grouped samples) =
      .ok ((Subject.pod ns name).key cluster)) : group = "pod" := by
  obtain ⟨-, htype, -, -⟩ := Populator.keyOf_eq_ok_iff.1 hkey
  obtain ⟨scope, hscope⟩ := exists_scope_of_typeOf hspecs htype
  rcases get?_stateMetricsSpecs_iff.1 hspecs with ⟨rfl, -⟩ | ⟨rfl, -⟩ | ⟨rfl, -⟩ | ⟨rfl, -⟩
  · exact absurd hscope (append_ne_append rfl rfl (by decide))
  · exact absurd hscope (append_ne_append rfl rfl (by decide))
  · exact absurd hscope (append_ne_append rfl rfl (by decide))
  · rfl

/-- A raw entity that has the key of a pod is this pod: its phase says the namespace and its description the name, and
both say the same raw ID. -/
theorem eq_place_of_keyOf {specs : SpecGroup} (hsamples : PodsSeparable samples)
    (hspecs : Catalog.stateMetricsSpecs.get? group = some specs)
    (hkey : (Catalog.populator cluster).keyOf specs group id (grouped samples) =
      .ok ((Subject.pod ns name).key cluster)) : group = "pod" ∧ id = podId ns name := by
  obtain rfl := group_eq_pod_of_keyOf hspecs hkey
  obtain rfl := Option.some.inj (get?_pod.symm.trans hspecs)
  obtain ⟨hname, htype, hne, -⟩ := Populator.keyOf_eq_ok_iff.1 hkey
  obtain ⟨-, hlabel⟩ := nameOf_pod_eq_ok_iff.1 hname
  obtain ⟨t, ht, hpod⟩ := label_eq_ok_iff.1 hlabel
  have hlabelType : TypeGenerator.labelValue "kube_pod_status_phase" "pod" id (grouped samples)
      cluster = .ok ((Subject.pod ns name).entityType cluster) := htype
  obtain ⟨ns', hspace, hscope⟩ := (labelType_eq_ok_iff (by decide) (by decide)).1 hlabelType
  obtain rfl : ns = ns' := by
    simpa [Subject.entityType, ← String.toList_inj] using hscope
  obtain ⟨s, hs, hns⟩ := label_eq_ok_iff.1 hspace
  have hphase := belongs_of_sample hs
  have hinfo := belongs_of_sample ht
  refine ⟨rfl, ?_⟩
  -- the two samples have the raw ID in common
  obtain ⟨hspace, hpod'⟩ := hsamples _ hphase.given
  obtain ⟨-, hsame⟩ := eq_of_joined_eq hspace hpod' (hphase.rawId.trans hinfo.rawId.symm)
  have hid : podId (s.label "namespace") (s.label "pod") = id := hphase.rawId
  rw [← hid, label_eq_of_get? hns, hsame, label_eq_of_get? hpod]
  rfl

/-! ### The sets of a pod -/

/-- The names of a pod that is reported to be pending hold no separator. -/
theorem ReportsPending.separable (h : ReportsPending samples ns name)
    (hsamples : PodsSeparable samples) : '_' ∉ ns.toList ∧ '_' ∉ name.toList := by
  obtain ⟨x, hx, -, hns, hpod⟩ := h.info
  have hlabels := hsamples x hx
  rwa [label_eq_of_get? hns, label_eq_of_get? hpod] at hlabels

theorem keyOf_of_reportsPending (cluster : String) (h : ReportsPending samples ns name)
    (hsamples : PodsSeparable samples) (hns : ns ≠ "") (hname : name ≠ "") :
    (Catalog.populator cluster).keyOf Catalog.pendingPodSpecs "pod" (podId ns name)
      (grouped samples) = .ok ((Subject.pod ns name).key cluster) := by
  obtain ⟨⟨_, s⟩, hs, rfl, hphase, hvalue, hspace, hpod⟩ := h.phase
  obtain ⟨⟨_, t⟩, ht, rfl, hspace', hpod'⟩ := h.info
  -- what is stored may be a later sample, but it carries the same names
  obtain ⟨s', hs'⟩ := exists_sample_of_belongs
    (belongs_pod hs (keep_pending hphase hvalue) hspace hpod) (by decide)
  obtain ⟨t', ht'⟩ := exists_sample_of_belongs (belongs_pod ht (keep_info t) hspace' hpod') (by decide)
  have hsns := get?_of_label_eq (labels_of_sample hsamples hs').1 hns
  have htpod := get?_of_label_eq (labels_of_sample hsamples ht').2 hname
  refine Populator.keyOf_eq_ok_iff.2 ⟨?_, ?_, hname,
    (Subject.pod ns name).entityType_ne_empty cluster⟩
  · exact nameOf_pod_eq_ok_iff.2 ⟨⟨s', hs'⟩, label_eq_ok_iff.2 ⟨t', ht', htpod⟩⟩
  · refine (labelType_eq_ok_iff (by decide) (by decide)).2
      ⟨ns, label_eq_ok_iff.2 ⟨s', hs', hsns⟩, ?_⟩
    simp [Subject.key, Subject.entityType, Catalog.populator, String.append_assoc]

/-- A pod that is reported to be pending gets one set from a run, and no other raw entity adds to its key. -/
theorem setsOf_pendingPod (cluster : String) (h : ReportsPending samples ns name)
    (hsamples : PodsSeparable samples) (hns : ns ≠ "") (hname : name ≠ "") :
    ((Catalog.populator cluster).populate (grouped samples) Catalog.stateMetricsSpecs
        .empty).2.setsOf ((Subject.pod ns name).key cluster) =
      [(Catalog.populator cluster).metricSet Catalog.pendingPodSpecs "pod" (podId ns name)
        (grouped samples) ((Subject.pod ns name).key cluster) "K8sPodSample"] := by
  have hkey := keyOf_of_reportsPending cluster h hsamples hns hname
  obtain ⟨⟨_, s⟩, hs, rfl, hspace, hpod⟩ := h.info
  have hsome := isSome_entity?_of_belongs (belongs_pod hs (keep_info s) hspace hpod) (by decide)
  refine Populator.setsOf_populate_of_unique get?_pod hsome (report_step_of_isPending hkey) ?_
  intro g i specs hspecs _ hother
  exact eq_place_of_keyOf hsamples hspecs hother

end NodeTelemetry.StateMetrics
