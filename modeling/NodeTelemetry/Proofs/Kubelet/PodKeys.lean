import NodeTelemetry.Proofs.Kubelet.Kinds
import NodeTelemetry.Proofs.Populate.Unique
import NodeTelemetry.Proofs.Text.Joined

/-!
# The keys of listed pods

A listed pod has its key for itself. Its raw ID is the namespace and the name with an underscore between them, from
which both can be read back if neither holds an underscore; and of the types of entities only those of pods end in
the label of pods.

## Main definitions

* `Kubelet.Lists`: a pod that a list has.

## Main statements

* `Kubelet.Subject.eq_pod_of_key_eq`: no other subject has the key of a pod.
* `Kubelet.setsOf_pod`: the sets that a run gives to the key of a listed pod.
-/

namespace NodeTelemetry.Kubelet

/-! ### Keys -/

section Keys

variable {cluster ns name : String} {groups : RawGroups} {l : List Subject} {s : Subject}

/-- Only a pod has a key of which the type ends in the label of pods. -/
theorem Subject.eq_pod_of_key_eq (h : s.key cluster = (Subject.pod ns name).key cluster) :
    s = .pod ns name := by
  obtain ⟨hname, htype⟩ := EntityKey.mk.inj h
  cases s with
  | pod ns' name' =>
    have hspace : ns' = ns := by
      simpa [entityType, ← String.toList_inj] using htype
    exact congr (congrArg Subject.pod hspace) hname
  | container ns' p name' => exact absurd htype (append_ne_append rfl rfl (by decide))
  | volume ns' p name' => exact absurd htype (append_ne_append rfl rfl (by decide))
  | node name' => exact absurd htype (append_ne_append rfl rfl (by decide))

/-- A key that a raw entity of a subject has is the key of the subject. -/
theorem key_eq_of_keyOf {m : RawMetrics} {key : EntityKey}
    (hm : groups.entity? s.group s.rawId = some m) (hmarks : s.MarkedBy m)
    (h : (Catalog.populator cluster).keyOf s.specs s.group s.rawId groups = .ok key) :
    s.key cluster = key := by
  obtain ⟨hname, htype, -, -⟩ := Populator.keyOf_eq_ok_iff.1 h
  have hname' := (nameOf_of_marked hm hmarks).symm.trans hname
  have htype' := (typeOf_of_marked cluster hm hmarks).symm.trans htype
  exact congr (congrArg EntityKey.mk (Except.ok.inj hname')) (Except.ok.inj htype')

/-- Every subject that was put has an entity at its place, whatever was put there since. -/
theorem Grouped.isSome_entity? (h : Grouped groups l) (hs : s ∈ l) :
    (groups.entity? s.group s.rawId).isSome := by
  induction h with
  | empty => cases hs
  | put t h hmark hfit ih =>
    rw [Kubelet.put, RawGroups.entity?_update]
    split
    · rfl
    · next hplace =>
      rcases List.mem_append.1 hs with hold | hnew
      · exact ih hold
      · obtain rfl := List.mem_singleton.1 hnew
        exact absurd ⟨rfl, rfl⟩ hplace
  | change group id h hf ih =>
    rw [RawGroups.entity?_updateExisting]
    split
    · next hplace =>
      rw [Option.isSome_map, ← hplace.1, ← hplace.2]
      exact ih hs
    · exact ih hs

/-- The entity at the place of a pod is about this pod, if its names hold no separator. Whatever the names of other
subjects are, they make no such ID. -/
theorem Grouped.exists_marked_pod (h : Grouped groups l) (hns : '_' ∉ ns.toList)
    (hname : '_' ∉ name.toList) (hpod : .pod ns name ∈ l) :
    ∃ m, groups.entity? "pod" (podId ns name) = some m ∧ (Subject.pod ns name).MarkedBy m := by
  obtain ⟨m, hm⟩ := Option.isSome_iff_exists.1 (h.isSome_entity? hpod)
  obtain ⟨s, hs, hplace, hmarks, -⟩ := h.founded _ _ m hm
  obtain ⟨hgroup, hid⟩ := Prod.mk.inj hplace
  refine ⟨m, hm, ?_⟩
  cases s with
  | pod ns' name' =>
    obtain ⟨rfl, rfl⟩ := eq_of_joined_eq hns hname hid.symm
    exact hmarks
  | container ns' p name' => simp [Subject.group] at hgroup
  | volume ns' p name' => simp [Subject.group] at hgroup
  | node name' => simp [Subject.group] at hgroup

/-- A pod that was put gets one set from a run, and no other raw entity adds to its key. -/
theorem setsOf_pod (cluster : String) (h : Grouped groups l) (hns : '_' ∉ ns.toList)
    (hname : '_' ∉ name.toList) (hne : name ≠ "") (hpod : .pod ns name ∈ l) :
    ((Catalog.populator cluster).populate groups Catalog.kubeletSpecs .empty).2.setsOf
        ((Subject.pod ns name).key cluster) =
      [(Subject.pod ns name).metricSet cluster groups] := by
  obtain ⟨m, hm, hmarks⟩ := h.exists_marked_pod hns hname hpod
  have hkey := keyOf_of_marked cluster hm hmarks hne
  refine Populator.setsOf_populate_of_unique (get?_kubeletSpecs (.pod ns name))
    (h.isSome_entity? hpod) ?_ ?_
  · exact Populator.report_step_append hkey (eventType_group _) (isAccepted_of_marked hm hmarks)
  · -- another raw entity belongs to a subject too, and by its key this subject is the pod
    intro g i spec hspec hsome hother
    obtain ⟨m', hm'⟩ := Option.isSome_iff_exists.1 hsome
    obtain ⟨s, -, hplace, hmarks', -⟩ := h.founded g i m' hm'
    obtain ⟨rfl, rfl⟩ := Prod.mk.inj hplace
    rw [get?_kubeletSpecs] at hspec
    obtain rfl := Option.some.inj hspec
    obtain rfl := Subject.eq_pod_of_key_eq (key_eq_of_keyOf hm' hmarks' hother)
    exact ⟨rfl, rfl⟩

end Keys

/-! ### Listed pods -/

/-- A list has a pod of a namespace and a name. -/
def Lists (pods : List Cluster.Pod) (ns name : String) : Prop :=
  ∃ pod ∈ pods, pod.metadata.space = some ns ∧ pod.metadata.name = some name

theorem lists_iff_mem {pods : List Cluster.Pod} {ns name : String} : Lists pods ns name ↔
    (some ns, some name) ∈ pods.map fun pod => (pod.metadata.space, pod.metadata.name) := by
  simp [Lists]

/-- The pods that documents report on are those of the list. -/
theorem pod_mem_reported_iff {pods : List Cluster.Pod} {summary : Summary} {ns name : String} :
    .pod ns name ∈ reported pods summary ↔ Lists pods ns name := by
  have hnode : .pod ns name ∉ Subject.ofNode summary.node := by
    rw [Subject.ofNode]
    split <;> simp
  have husage : .pod ns name ∉ summary.pods.flatMap Subject.ofUsage := by
    simp [Subject.ofUsage]
  rw [reported, List.mem_append, List.mem_append, or_iff_left husage, or_iff_left hnode,
    List.mem_flatMap, Lists]
  refine exists_congr fun pod => and_congr_right fun _ => ?_
  rw [Subject.ofPod]
  split
  · next ns' name' hspace hname =>
    cases pod.spec <;> simp [hspace, hname, eq_comm]
  · next hmissing =>
    simp only [List.not_mem_nil, false_iff]
    rintro ⟨hspace, hname⟩
    exact hmissing ns name hspace hname

end NodeTelemetry.Kubelet
