import NodeTelemetry.Catalog.Kubelet
import NodeTelemetry.Proofs.Kubelet.Usage
import NodeTelemetry.Proofs.Location
import NodeTelemetry.Proofs.Query.Families
import NodeTelemetry.Proofs.Text.Pieces

/-!
# IDs from series

A sample names a container by labels for the namespace, the pod and the container, the last two of which have an older
spelling. The catalog asks for exactly the samples with a name for the container. Of the samples that name a container
the first one that carries an ID gives it, and likewise the first one that carries an image, which may be another. What
the list of pods says already is not touched.

## Main definitions

* `Names`: a sample names a container by its raw ID.
* `Filled`, `Completed`: one raw metric, and all of a container, after samples.

## Main statements

* `keep_containerQueries_iff`: the samples that the catalog asks for.
* `get?_foldl_fillNamed`: a raw metric after any number of samples.
* `addSeries_completes`: what series leave of raw groups.
-/

namespace NodeTelemetry.Kubelet

variable {s : Sample} {id : String}

/-! ### The container that a sample names -/

/-- The text of a label, or of its older spelling where it is empty. -/
def labelOr (s : Sample) (name older : String) : String :=
  if s.label name = "" then s.label older else s.label name

theorem firstLabel_pair (s : Sample) (name older : String) : firstLabel s [name, older] = labelOr s name older := by
  rw [firstLabel, labelOr]
  by_cases hname : s.label name = ""
  · by_cases holder : s.label older = ""
    · simp [hname, holder]
    · simp [hname, holder]
  · simp [hname]

def podName (s : Sample) : String := labelOr s "pod" "pod_name"

def containerName (s : Sample) : String := labelOr s "container" "container_name"

/-- A sample has names for the namespace, the pod and the container that make up a raw ID. -/
structure Names (s : Sample) (id : String) : Prop where
  namespace_ne : s.label "namespace" ≠ ""
  pod_ne : podName s ≠ ""
  container_ne : containerName s ≠ ""
  id_eq : id = s.label "namespace" ++ "_" ++ podName s ++ "_" ++ containerName s

theorem containerOf?_eq_some_iff : containerOf? s = some id ↔ Names s id := by
  rw [containerOf?, firstLabel_pair, firstLabel_pair]
  constructor
  · intro h
    split at h
    · cases h
    · next hne =>
      simp only [not_or] at hne
      exact ⟨hne.1, hne.2.1, hne.2.2, (Option.some.inj h).symm⟩
  · intro h
    have hnamed : ¬(s.label "namespace" = "" ∨ podName s = "" ∨ containerName s = "") := by
      simp [h.namespace_ne, h.pod_ne, h.container_ne]
    rw [h.id_eq]
    exact if_neg hnamed

/-- One of the two queries asks for a label that is not empty, and the other one for its older spelling. -/
theorem keep_containerQueries_iff :
    Query.keep Catalog.containerQueries "container_memory_usage_bytes" s = true ↔ containerName s ≠ "" := by
  have hquery (label : String) :
      ((Query.ofSeries "container_memory_usage_bytes").withLabels .nor [(label, "")]).selects
        "container_memory_usage_bytes" s = true ↔ s.label label ≠ "" := by
    rw [Query.selects_iff]
    constructor
    · exact fun h => h.labels (label, "") (.head _)
    · intro h
      refine ⟨rfl, by simp [Query.withLabels, Query.ofSeries], fun e he => ?_⟩
      obtain rfl := List.mem_singleton.1 he
      exact h
  rw [Query.keep, Catalog.containerQueries]
  simp only [List.map_cons, List.map_nil, List.any_cons, List.any_nil, Bool.or_false, Bool.or_eq_true, hquery]
  rw [containerName, labelOr]
  split
  · next h => simp [h]
  · next h => simp [h]

theorem samples_families_containerQueries (samples : List Sample) :
    (Query.families Catalog.containerQueries
      (samples.map fun s => ("container_memory_usage_bytes", s))).flatMap Family.samples =
        samples.filter fun s => containerName s ≠ "" := by
  have hmatching : Query.matching Catalog.containerQueries
      (samples.map fun s => ("container_memory_usage_bytes", s)) "container_memory_usage_bytes" =
        samples.filter fun s => containerName s ≠ "" := by
    rw [Query.matching, List.filter_map, List.map_map]
    refine (List.map_id _).trans (List.filter_congr fun s _ => ?_)
    have hkept : Query.Matched Catalog.containerQueries ("container_memory_usage_bytes", s) ↔ containerName s ≠ "" :=
      Query.keep_iff.symm.trans keep_containerQueries_iff
    simp [hkept]
  have hnames : Query.seriesNames Catalog.containerQueries = ["container_memory_usage_bytes"] := by
    decide
  rw [Query.families_eq, hnames, List.map_singleton, hmatching]
  cases samples.filter fun s => containerName s ≠ "" with
  | nil => rfl
  | cons s rest => simp

/-! ### A raw metric after samples -/

/-- The last segment of a path. -/
def lastSegment (path : String) : String :=
  String.ofList ((Text.pieces '/' path.toList).getLast (Text.pieces_ne_nil _ _))

/-- The text that the first sample gives that names a container and has one. -/
def firstText? (text : Sample → String) (id : String) (samples : List Sample) : Option RawValue :=
  (samples.find? fun s => containerOf? s = some id ∧ text s ≠ "").map fun s => .scalar (.str (text s))

/-- A raw metric of a container before and after samples: it is kept where it is there, and where it is missing the
first text of a sample that names the container fills it. -/
structure Filled (text : Sample → String) (samples : List Sample) (id : String) (before after : Option RawValue) :
    Prop where
  kept : ∀ v, before = some v → after = some v
  first : before = none → ∀ s, IsFirst (fun s => Names s id ∧ text s ≠ "") samples s →
    after = some (.scalar (.str (text s)))
  missing : before = none → (∀ s ∈ samples, Names s id → text s = "") → after = none

theorem filled_or_firstText? (text : Sample → String) (samples : List Sample) (id : String)
    (before : Option RawValue) : Filled text samples id before (before.or (firstText? text id samples)) where
  kept := by
    rintro v rfl
    rfl
  first := by
    rintro rfl s hfirst
    have hsame (t : Sample) : Names t id ∧ text t ≠ "" ↔ containerOf? t = some id ∧ text t ≠ "" := by
      rw [containerOf?_eq_some_iff]
    rw [Option.none_or, firstText?, find?_decide_eq_some_iff.2 (hfirst.congr hsame)]
    rfl
  missing := by
    rintro rfl hnone
    rw [Option.none_or, firstText?, Option.map_eq_none_iff, List.find?_eq_none]
    intro s hs h
    obtain ⟨hid, htext⟩ := of_decide_eq_true h
    exact htext (hnone s hs (containerOf?_eq_some_iff.1 hid))

/-- The raw metrics of a container with the IDs of a sample that names it. -/
def fillNamed (id : String) (metrics : RawMetrics) (s : Sample) : RawMetrics :=
  if containerOf? s = some id then fillIds s metrics else metrics

theorem firstText?_cons (text : Sample → String) (id : String) (s : Sample) (samples : List Sample) :
    firstText? text id (s :: samples) =
      (if containerOf? s = some id ∧ text s ≠ "" then some (.scalar (.str (text s))) else none).or
        (firstText? text id samples) := by
  rw [firstText?, List.find?_cons]
  by_cases h : containerOf? s = some id ∧ text s ≠ ""
  · simp [h]
  · rw [if_neg h, decide_eq_false h, Option.none_or, firstText?]

/-- A raw metric after samples, if each one fills it with its text. -/
theorem get?_foldl_fillNamed {key : String} {text : Sample → String}
    (h : ∀ s m, (fillIds s m).get? key =
      (m.get? key).or (if text s = "" then none else some (.scalar (.str (text s)))))
    (samples : List Sample) (metrics : RawMetrics) :
    (samples.foldl (fillNamed id) metrics).get? key = (metrics.get? key).or (firstText? text id samples) := by
  induction samples generalizing metrics with
  | nil => exact (Option.or_none).symm
  | cons s rest ih =>
    rw [List.foldl_cons, ih, firstText?_cons, ← Option.or_assoc]
    congr 1
    rw [fillNamed]
    by_cases hid : containerOf? s = some id
    · by_cases htext : text s = ""
      · simp [hid, h, htext]
      · simp [hid, h, htext]
    · simp [hid]

theorem get?_foldl_fillNamed_of_ne {key : String} (hid : key ≠ "containerID") (himage : key ≠ "containerImageID")
    (samples : List Sample) (metrics : RawMetrics) :
    (samples.foldl (fillNamed id) metrics).get? key = metrics.get? key := by
  induction samples generalizing metrics with
  | nil => rfl
  | cons s rest ih =>
    rw [List.foldl_cons, ih, fillNamed]
    split
    · simp [fillIds, get?_fillMissing, hid, himage]
    · rfl

theorem get?_fillIds_containerId (s : Sample) (m : RawMetrics) : (fillIds s m).get? "containerID" =
    (m.get? "containerID").or
      (if lastSegment (s.label "id") = "" then none else some (.scalar (.str (lastSegment (s.label "id"))))) := by
  rw [lastSegment, Text.getLast_pieces]
  simp [fillIds, get?_fillMissing]

theorem get?_fillIds_imageId (s : Sample) (m : RawMetrics) : (fillIds s m).get? "containerImageID" =
    (m.get? "containerImageID").or
      (if s.label "image" = "" then none else some (.scalar (.str (s.label "image")))) := by
  simp [fillIds, get?_fillMissing]

/-! ### Containers after series -/

/-- The raw metrics of a container before and after samples. -/
structure Completed (samples : List Sample) (id : String) (before after : RawMetrics) : Prop where
  containerId : Filled (fun s => lastSegment (s.label "id")) samples id (before.get? "containerID")
    (after.get? "containerID")
  imageId : Filled (fun s => s.label "image") samples id (before.get? "containerImageID")
    (after.get? "containerImageID")
  others : ∀ key, key ≠ "containerID" → key ≠ "containerImageID" → after.get? key = before.get? key

theorem completed_foldl_fillNamed (samples : List Sample) (id : String) (metrics : RawMetrics) :
    Completed samples id metrics (samples.foldl (fillNamed id) metrics) where
  containerId := by
    rw [get?_foldl_fillNamed get?_fillIds_containerId]
    exact filled_or_firstText? _ samples id _
  imageId := by
    rw [get?_foldl_fillNamed get?_fillIds_imageId]
    exact filled_or_firstText? _ samples id _
  others := fun _ hid himage => get?_foldl_fillNamed_of_ne hid himage samples metrics

theorem get?_updateExisting_of_ne {groups : RawGroups} {group g : String} (h : g ≠ group) (id : String)
    (f : RawMetrics → RawMetrics) : (groups.updateExisting group id f).get? g = groups.get? g := by
  rw [RawGroups.updateExisting]
  split
  · rfl
  · split
    · rfl
    · exact TextMap.get?_insert_of_ne _ _ h

theorem get?_addSample_of_ne {group : String} (h : group ≠ "container") (groups : RawGroups) (s : Sample) :
    (addSample groups s).get? group = groups.get? group := by
  rw [addSample]
  split
  · exact get?_updateExisting_of_ne h _ _
  · rfl

theorem isSome_get?_addSample (groups : RawGroups) (s : Sample) (group : String) :
    ((addSample groups s).get? group).isSome = (groups.get? group).isSome := by
  rw [addSample]
  split
  · exact RawGroups.isSome_get?_updateExisting ..
  · rfl

theorem entity?_addSample (groups : RawGroups) (s : Sample) (id : String) :
    (addSample groups s).entity? "container" id =
      (groups.entity? "container" id).map fun metrics => fillNamed id metrics s := by
  rw [addSample]
  split
  · next place hplace =>
    rw [RawGroups.entity?_updateExisting]
    by_cases hid : id = place
    · subst hid
      simp [fillNamed, hplace]
    · simp [fillNamed, hplace, hid, Ne.symm hid]
  · next hnone => simp [fillNamed, hnone]

theorem entity?_foldl_addSample (samples : List Sample) (groups : RawGroups) (id : String) :
    (samples.foldl addSample groups).entity? "container" id =
      (groups.entity? "container" id).map fun metrics => samples.foldl (fillNamed id) metrics := by
  induction samples generalizing groups with
  | nil => simp
  | cons s rest ih =>
    rw [List.foldl_cons, ih, entity?_addSample, Option.map_map]
    rfl

/-- The catalog asks for the samples with a name for the container. Of raw groups, series leave everything as it is but
containers that are there; and of those the two IDs where they are missing. Each is filled by the first sample that
names the container and carries it, if there is one. -/
theorem addSeries_completes (groups : RawGroups) (families : List Family) :
    (∀ samples : List Sample,
      (Query.families Catalog.containerQueries
        (samples.map fun s => ("container_memory_usage_bytes", s))).flatMap Family.samples =
          samples.filter fun s => containerName s ≠ "") ∧
    (∀ group, group ≠ "container" → (addSeries groups families).get? group = groups.get? group) ∧
    ((addSeries groups families).get? "container").isSome = (groups.get? "container").isSome ∧
    ∀ id, Option.Rel (Completed (families.flatMap Family.samples) id) (groups.entity? "container" id)
      ((addSeries groups families).entity? "container" id) := by
  refine ⟨samples_families_containerQueries, fun group hgroup => ?_, ?_, fun id => ?_⟩
  · exact List.foldlRecOn (motive := fun g => g.get? group = groups.get? group) _ _ rfl
      fun g hg s _ => (get?_addSample_of_ne hgroup g s).trans hg
  · exact List.foldlRecOn (motive := fun g => (g.get? "container").isSome = (groups.get? "container").isSome) _ _ rfl
      fun g hg s _ => (isSome_get?_addSample g s "container").trans hg
  · rw [addSeries, entity?_foldl_addSample]
    cases groups.entity? "container" id with
    | none => exact .none
    | some metrics => exact .some (completed_foldl_fillNamed _ id metrics)

/-- Raw groups of a container whose image is known, and its ID not. -/
def startingContainer : RawGroups :=
  put .empty "container" "shop_web-1_app" (Facts.text "containerImageID" "nginx")

/-- A sample in the older spelling that carries no ID. -/
def olderSample : Sample :=
  ⟨4096.0, .ofList [("namespace", "shop"), ("pod_name", "web-1"), ("container_name", "app"), ("id", "/kubepods/"),
    ("image", "apache")]⟩

def newerSample : Sample :=
  ⟨8192.0, .ofList [("namespace", "shop"), ("pod", "web-1"), ("container", "app"), ("id", "/kubepods/4f2a")]⟩

/-- The ID comes from the second sample, and the image stays. -/
theorem addSeries_completes_starting :
    let after := addSeries startingContainer [⟨"container_memory_usage_bytes", [olderSample, newerSample]⟩]
    after.get? "pod" = none ∧
      ∃ metrics, after.entity? "container" "shop_web-1_app" = some metrics ∧
        metrics.get? "containerID" = some (.scalar (.str "4f2a")) ∧
        metrics.get? "containerImageID" = some (.scalar (.str "nginx")) := by
  intro after
  obtain ⟨-, hothers, -, hcontainers⟩ :=
    addSeries_completes startingContainer [⟨"container_memory_usage_bytes", [olderSample, newerSample]⟩]
  have hrel := hcontainers "shop_web-1_app"
  have hbefore : startingContainer.entity? "container" "shop_web-1_app" =
      some (TextMap.insertAll .empty (Facts.text "containerImageID" "nginx")) := rfl
  rw [hbefore] at hrel
  refine ⟨hothers "pod" (by decide), ?_⟩
  cases hafter : after.entity? "container" "shop_web-1_app" with
  | none =>
    rw [hafter] at hrel
    cases hrel
  | some metrics =>
    rw [hafter] at hrel
    cases hrel with
    | some hcompleted =>
      have hnames : Names newerSample "shop_web-1_app" := ⟨by decide, by decide, by decide, by decide⟩
      refine ⟨metrics, rfl, hcompleted.containerId.first rfl newerSample ⟨[olderSample], [], rfl, ?_, ?_⟩,
        hcompleted.imageId.kept _ rfl⟩
      · exact ⟨hnames, by decide⟩
      · intro s hs h
        obtain rfl := List.mem_singleton.1 hs
        exact h.2 (by decide)

end NodeTelemetry.Kubelet
