import NodeTelemetry.Proofs.StateMetrics.Kinds
import NodeTelemetry.Proofs.StateMetrics.Written

/-!
# Pending pods

From kube-state-metrics exactly the pending pods are published. A pod is told to be pending by the sample of its phase,
which is kept for no other phase, and gets its name from the sample that describes it. Every other pod
records one failure and leaves no trace in the store.

## Main definitions

* `StateMetrics.IsPending`: the raw pods that are published.

## Main statements

* `StateMetrics.exists_key_iff_isPending`: the raw pods that have a key.
* `StateMetrics.value?_status`: the status of a metric set of a pod.
* `StateMetrics.pods_of_grouped`: what becomes of raw pods.
-/

namespace NodeTelemetry.StateMetrics

variable {samples : List (String × Sample)} {id : String} {cluster : String}

/-- A raw pod with a stored phase, in a namespace, and with a stored sample that has its name. -/
def IsPending (samples : List (String × Sample)) (id : String) : Prop :=
  (∃ s, (grouped samples).sample "pod" id "kube_pod_status_phase" = .ok s ∧
    s.labels.contains "namespace" = true) ∧
  ∃ s name, (grouped samples).sample "pod" id "kube_pod_info" = .ok s ∧
    s.labels.get? "pod" = some name ∧ name ≠ ""

/-- The phase that is stored for a pod is that it is pending now. -/
theorem phase_of_sample {s : Sample}
    (h : (grouped samples).sample "pod" id "kube_pod_status_phase" = .ok s) :
    s.labels.get? "phase" = some "Pending" ∧ (s.value == 1.0) = true :=
  phase_of_kept (belongs_of_sample h).kept

theorem phase_label_of_sample {s : Sample}
    (h : (grouped samples).sample "pod" id "kube_pod_status_phase" = .ok s) :
    (grouped samples).label "pod" id "kube_pod_status_phase" "phase" = .ok "Pending" :=
  label_eq_ok_iff.2 ⟨s, h, (phase_of_sample h).1⟩

/-! ### Keys of pods -/

theorem nameOf_pod_eq_ok_iff {name : String} :
    Catalog.pendingPodSpecs.nameOf "pod" id (grouped samples) = .ok name ↔
      (∃ s, (grouped samples).sample "pod" id "kube_pod_status_phase" = .ok s) ∧
        (grouped samples).label "pod" id "kube_pod_info" "pod" = .ok name := by
  simp only [SpecGroup.nameOf, Catalog.pendingPodSpecs, IdGenerator.pendingPod]
  constructor
  · intro h
    cases hphase : (grouped samples).label "pod" id "kube_pod_status_phase" "phase" with
    | error e => simp [hphase, bind, Except.bind] at h
    | ok phase =>
      obtain ⟨s, hs, -⟩ := label_eq_ok_iff.1 hphase
      rw [phase_label_of_sample hs] at h
      exact ⟨⟨s, hs⟩, h⟩
  · rintro ⟨⟨s, hs⟩, hname⟩
    rw [phase_label_of_sample hs]
    exact hname

/-- The raw pods that have a key are those that are pending. -/
theorem exists_key_iff_isPending (cluster : String) :
    (∃ key, (Catalog.populator cluster).keyOf Catalog.pendingPodSpecs "pod" id (grouped samples) =
      .ok key) ↔ IsPending samples id := by
  constructor
  · rintro ⟨key, hkey⟩
    obtain ⟨hname, htype, hne, -⟩ := Populator.keyOf_eq_ok_iff.1 hkey
    obtain ⟨-, hlabel⟩ := nameOf_pod_eq_ok_iff.1 hname
    obtain ⟨s, hs, hpod⟩ := label_eq_ok_iff.1 hlabel
    have hlabelType : TypeGenerator.labelValue "kube_pod_status_phase" "pod" id (grouped samples)
        cluster = .ok key.type := htype
    obtain ⟨ns, hns, -⟩ := (labelType_eq_ok_iff (by decide) (by decide)).1 hlabelType
    obtain ⟨t, ht, hget⟩ := label_eq_ok_iff.1 hns
    exact ⟨⟨t, ht, by simp [TextMap.contains, hget]⟩, s, key.name, hs, hpod, hne⟩
  · rintro ⟨⟨t, ht, hcontains⟩, s, name, hs, hpod, hne⟩
    obtain ⟨ns, hns⟩ := Option.isSome_iff_exists.1 hcontains
    have hname := nameOf_pod_eq_ok_iff.2 ⟨⟨t, ht⟩, label_eq_ok_iff.2 ⟨s, hs, hpod⟩⟩
    have htype : Catalog.pendingPodSpecs.typeOf "pod" id (grouped samples) cluster =
        .ok ("k8s:" ++ cluster ++ ":" ++ ns ++ ":" ++ "pod") :=
      (labelType_eq_ok_iff (by decide) (by decide)).2 ⟨ns, label_eq_ok_iff.2 ⟨t, ht, hns⟩, rfl⟩
    exact ⟨⟨name, _⟩, Populator.keyOf_eq_ok_iff.2 ⟨hname, htype, hne, type_ne_empty _ _ _⟩⟩

/-! ### Reports on pods -/

theorem eventType_pod : Catalog.eventType "pod" = .ok "K8sPodSample" := by
  rfl

/-- A pending pod appends its metric set: at least its status is always written. -/
theorem report_step_of_isPending {key : EntityKey}
    (hkey : (Catalog.populator cluster).keyOf Catalog.pendingPodSpecs "pod" id (grouped samples) =
      .ok key) :
    ((Catalog.populator cluster).report Catalog.pendingPodSpecs "pod" id (grouped samples)).step =
      some (.append key ((Catalog.populator cluster).metricSet Catalog.pendingPodSpecs "pod" id
        (grouped samples) key "K8sPodSample")) := by
  obtain ⟨⟨s, hs, -⟩, -⟩ := (exists_key_iff_isPending _).1 ⟨key, hkey⟩
  have hstatus : Fetch.labelValue "kube_pod_status_phase" "phase" "pod" id (grouped samples) =
      .ok (.scalar (.str "Pending")) := by
    rw [Fetch.labelValue, Fetch.ofText, phase_label_of_sample hs]
    rfl
  have hspec : (⟨"status", Fetch.labelValue "kube_pod_status_phase" "phase", .attr⟩ : Spec) ∈
      Catalog.pendingPodSpecs.specs := by
    simp [Catalog.pendingPodSpecs, Catalog.attributeOf]
  exact Populator.report_step_append hkey eventType_pod
    (Populator.isAccepted_of_fetch hspec hstatus (by decide))

/-- The status of a metric set of a pod is what its phase says. -/
theorem value?_status {key : EntityKey} {s : Sample}
    (hs : (grouped samples).sample "pod" id "kube_pod_status_phase" = .ok s) :
    ((Catalog.populator cluster).metricSet Catalog.pendingPodSpecs "pod" id (grouped samples) key
      "K8sPodSample").value? "status" = some (.text "Pending") := by
  have hfetch : (Catalog.attributeOf "status" "kube_pod_status_phase" "phase").fetch "pod" id
      (grouped samples) = .ok (.scalar (.str "Pending")) := by
    simp only [Catalog.attributeOf, Fetch.labelValue, Fetch.ofText, phase_label_of_sample hs]
    rfl
  have hstatus : (Catalog.attributeOf "status" "kube_pod_status_phase" "phase").written? "pod" id
      (grouped samples) "status" = some (.text "Pending") :=
    Spec.written?_scalar hfetch
  -- what is written after the status has other names
  have hlabels : (Catalog.ownerLabels "pod" "kube_pod_labels").written? "pod" id (grouped samples)
      "status" = none :=
    written?_ownerLabels_of_unmarked (by decide)
  have hdeployment : Spec.written? ⟨"deploymentName", Fetch.podDeployment, .attr⟩ "pod" id
      (grouped samples) "status" = none :=
    isSingle_ofText.written?_eq_none (by decide)
  have hscheduled : (Catalog.conditionOf "isScheduled" "kube_pod_status_scheduled").written? "pod"
      id (grouped samples) "status" = none :=
    isSingle_conditionOf.written?_eq_none (by simp [Catalog.conditionOf])
  rw [Populator.value?_metricSet]
  simp only [Catalog.pendingPodSpecs, List.reverse_cons, List.reverse_nil, List.nil_append,
    List.cons_append, List.findSome?_cons, hlabels, hdeployment, hscheduled, hstatus, Option.some_or]

/-! ### What becomes of raw pods -/

theorem get?_pod : Catalog.stateMetricsSpecs.get? "pod" = some Catalog.pendingPodSpecs :=
  get?_stateMetricsSpecs_iff.2 (by simp)

/-- A raw pod without a key leaves the store as it is and records why it has none. -/
theorem report_of_not_isPending (cluster : String) (h : ¬ IsPending samples id) :
    ∃ cause, (Catalog.populator cluster).report Catalog.pendingPodSpecs "pod" id (grouped samples) =
        ⟨none, [cause]⟩ ∧
      ((∃ source, cause = .entityId source) ∨ (∃ source, cause = .entityType source) ∨
        ∃ source, cause = .entity source) := by
  cases hkey : (Catalog.populator cluster).keyOf Catalog.pendingPodSpecs "pod" id
      (grouped samples) with
  | ok key => exact absurd ((exists_key_iff_isPending _).1 ⟨key, hkey⟩) h
  | error cause =>
    refine ⟨cause, Populator.report_of_keyOf_error hkey, ?_⟩
    rcases Populator.keyOf_eq_error_iff.1 hkey with ⟨source, -, rfl⟩ | ⟨_, source, -, -, rfl⟩ |
      ⟨_, _, -, -, -, rfl⟩
    · exact .inl ⟨source, rfl⟩
    · exact .inr (.inl ⟨source, rfl⟩)
    · exact .inr (.inr ⟨.missingKey, rfl⟩)

/-- Exactly the pending pods are published: every metric set of a pod has the status of a pending pod, a raw pod has
one exactly if it is pending, and any other raw pod records one failure and is about no entity. -/
theorem pods_of_grouped (cluster : String) (samples : List (String × Sample)) :
    let groups := grouped samples
    let run := (Catalog.populator cluster).populate groups Catalog.stateMetricsSpecs .empty
    let report := fun id =>
      (Catalog.populator cluster).report Catalog.pendingPodSpecs "pod" id groups
    (∀ e ∈ run.2.entities.toList, ∀ set ∈ e.sets, set.eventType = "K8sPodSample" →
      set.value? "status" = some (.text "Pending")) ∧
    (∀ e ∈ run.2.entities.toList, ∃ group id specs step,
      Catalog.stateMetricsSpecs.get? group = some specs ∧ (groups.entity? group id).isSome ∧
        ((Catalog.populator cluster).report specs group id groups).step = some step ∧
          step.key = e.key) ∧
    ∀ id, (groups.entity? "pod" id).isSome →
      (∀ s, groups.sample "pod" id "kube_pod_status_phase" = .ok s →
        s.labels.get? "phase" = some "Pending" ∧ (s.value == 1.0) = true) ∧
      ((∃ key set, (report id).step = some (.append key set) ∧ set.eventType = "K8sPodSample" ∧
          ∃ e ∈ run.2.entities.toList, e.key = key ∧ set ∈ e.sets) ↔ IsPending samples id) ∧
      (¬ IsPending samples id → (report id).step = none ∧ ∃ cause,
        run.1.errors.filter (fun e => e.group = "pod" ∧ e.id = id) = [⟨"pod", id, cause⟩] ∧
          ((∃ source, cause = .entityId source) ∨ (∃ source, cause = .entityType source) ∨
            ∃ source, cause = .entity source)) := by
  intro groups run report
  refine ⟨fun e he set hset htype => ?_, fun e he => ?_, fun id hsome =>
    ⟨fun s => phase_of_sample, ⟨?_, ?_⟩, fun hnot => ?_⟩⟩
  · obtain ⟨group, id, specs, hspecs, hsome, hstep⟩ := Populator.mem_sets_iff.1 ⟨e, he, rfl, hset⟩
    obtain ⟨hkey, type, htyper, rfl⟩ :=
      Catalog.of_step_append (ne_empty_of_get? hspecs) hstep
    rw [Populator.eventType_metricSet] at htype
    subst htype
    obtain ⟨rfl, rfl⟩ := eq_of_eventType_eq hspecs get?_pod htyper eventType_pod
    obtain ⟨⟨s, hs, -⟩, -⟩ := (exists_key_iff_isPending _).1 ⟨_, hkey⟩
    exact value?_status hs
  · exact Populator.mem_entities_iff.1 ⟨e, he, rfl⟩
  · rintro ⟨key, set, hstep, -⟩
    obtain ⟨hkey, -⟩ := Catalog.of_step_append (by decide) hstep
    exact (exists_key_iff_isPending _).1 ⟨key, hkey⟩
  · intro hpending
    obtain ⟨key, hkey⟩ := (exists_key_iff_isPending cluster).2 hpending
    have hstep := report_step_of_isPending hkey
    refine ⟨key, _, hstep, Populator.eventType_metricSet _ _ _ _ _ _ _, ?_⟩
    exact Populator.mem_sets_iff.2 ⟨"pod", id, _, get?_pod, hsome, hstep⟩
  · obtain ⟨cause, hreport, hcause⟩ := report_of_not_isPending cluster hnot
    refine ⟨by simp only [report, groups, hreport], cause, ?_, hcause⟩
    rw [Populator.filter_errors_eq get?_pod hsome, hreport]
    rfl

/-- A pod that is pending and one that runs. -/
def podSamples : List (String × Sample) := [
  ("kube_pod_status_phase",
    ⟨1.0, .ofList [("namespace", "shop"), ("pod", "web"), ("phase", "Pending")]⟩),
  ("kube_pod_info", ⟨1.0, .ofList [("namespace", "shop"), ("pod", "web")]⟩),
  ("kube_pod_status_phase",
    ⟨1.0, .ofList [("namespace", "shop"), ("pod", "db"), ("phase", "Running")]⟩),
  ("kube_pod_info", ⟨1.0, .ofList [("namespace", "shop"), ("pod", "db")]⟩)]

theorem pods_shop :
    let report := fun id => (Catalog.populator "prod").report Catalog.pendingPodSpecs "pod" id
      (grouped podSamples)
    (∃ key set, (report "shop_web").step = some (.append key set) ∧
      set.eventType = "K8sPodSample") ∧ (report "shop_db").step = none := by
  intro report
  have hweb : ((grouped podSamples).entity? "pod" "shop_web").isSome := by decide +kernel
  have hdb : ((grouped podSamples).entity? "pod" "shop_db").isSome := by decide +kernel
  have hpending : IsPending podSamples "shop_web" :=
    ⟨⟨_, rfl, by decide⟩, _, "web", rfl, by decide, by decide⟩
  have hrunning : ¬ IsPending podSamples "shop_db" := by
    rintro ⟨⟨s, hs, -⟩, -⟩
    have hnone : ((grouped podSamples).sample "pod" "shop_db" "kube_pod_status_phase").toOption =
        none := by
      rfl
    simp [hs, Except.toOption] at hnone
  have hpods := (pods_of_grouped "prod" podSamples).2.2
  obtain ⟨-, hiff, -⟩ := hpods "shop_web" hweb
  obtain ⟨key, set, hstep, htype, -⟩ := hiff.2 hpending
  obtain ⟨-, -, hother⟩ := hpods "shop_db" hdb
  exact ⟨⟨key, set, hstep, htype⟩, (hother hrunning).1⟩

end NodeTelemetry.StateMetrics
