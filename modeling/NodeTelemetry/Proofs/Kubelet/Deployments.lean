import NodeTelemetry.Proofs.Kubelet.PodKeys
import NodeTelemetry.Proofs.Kubelet.Recovery
import NodeTelemetry.Proofs.Kubelet.Usage
import NodeTelemetry.Proofs.StateMetrics.Placements

/-!
# Deployments of listed pods

A pod belongs to the deployment that its first owner implies, and its containers belong to it with the pod. The list of
pods says so under the same name at the place of the pod and at the places of its containers. No other pod of the list
has one of these places, as long as no name holds the separator and each pod is listed once; and neither the summary
nor series nor the labels of the node touch what the list says of a deployment.

## Main definitions

* `PodIdentity.deployment?`: the deployment of a pod, if there is one.
* `ListedOnce`: lists in which each pod is the only one of its namespace and name.

## Main statements

* `raw?_addPod`: what one more pod of the list says about deployments.
* `raw?_ofPods`: the deployment of a pod and its containers after the whole list.
* `raw?_groupsOf`: their deployment in the raw groups of the kubelet.
-/

namespace NodeTelemetry.Kubelet

open Facts

variable {groups : RawGroups} {pod : Cluster.Pod} {pods : List Cluster.Pod} {p : PodIdentity} {s : Subject}
  {g i key : String}

/-! ### Facts about deployments -/

/-- The deployment of a pod and its containers, if there is one. -/
def PodIdentity.deployment? (p : PodIdentity) : Option String :=
  if p.deployment = "" then none else some p.deployment

/-- The raw metric that says to which deployment a pod or a container belongs. -/
def PodIdentity.deploymentValue? (p : PodIdentity) : Option RawValue :=
  p.deployment?.map fun d => .scalar (.str d)

/-- The deployment is the one that the first owner implies. -/
theorem deployment_of_ofPod? (hp : PodIdentity.ofPod? pod = some p) :
    p.deployment = (pod.metadata.owners.head?.map fun owner => deploymentOfCreator owner.kind owner.name).getD "" := by
  rw [PodIdentity.ofPod?] at hp
  obtain ⟨ns, -, hp⟩ := Option.bind_eq_some_iff.1 hp
  obtain ⟨name, -, hp⟩ := Option.bind_eq_some_iff.1 hp
  obtain rfl := Option.some.inj hp
  cases pod.metadata.owners <;> rfl

theorem Facts.find?_nonempty (key k : String) (value : Option String) :
    (nonempty k value).find? key =
      if key = k then (value.filter (· ≠ "")).map fun s => .scalar (.str s) else none := by
  cases value with
  | none => simp [nonempty]
  | some s =>
    by_cases hs : s = ""
    · simp [nonempty, hs, Option.filter_some]
    · simp [nonempty, hs, Option.filter_some]

theorem find?_facts (p : PodIdentity) : p.facts.find? "deploymentName" = p.deploymentValue? := by
  have hlabels : (Facts.labels "labels" p.labels).find? "deploymentName" = none :=
    (fit_labels p.labels (List.mem_singleton_self _)).find?_eq_none (by simp)
  by_cases hd : p.deployment = ""
  · simp [PodIdentity.facts, find?_nonempty, hlabels, PodIdentity.deploymentValue?, PodIdentity.deployment?, hd]
  · simp [PodIdentity.facts, find?_nonempty, hlabels, PodIdentity.deploymentValue?, PodIdentity.deployment?, hd]

theorem find?_podFacts (p : PodIdentity) (pod : Cluster.Pod) :
    (podFacts p pod).find? "deploymentName" = p.deploymentValue? := by
  obtain ⟨rest, hpod, hfit⟩ := podFacts_eq p pod
  rw [hpod, find?_append_of_fit hfit (by simp [podStateSchema]), find?_facts]

theorem find?_containerFacts (p : PodIdentity) (c : Cluster.Container) (status : Option Cluster.ContainerStatus) :
    (containerFacts p c status).find? "deploymentName" = p.deploymentValue? := by
  obtain ⟨rest, hcontainer, hfit⟩ := containerFacts_eq p c status
  rw [hcontainer, find?_append_of_fit hfit (by simp [containerStateSchema]), find?_append, find?_facts]
  simp

/-! ### One pod of the list -/

theorem raw?_put (groups : RawGroups) (group id : String) (facts : Facts) (g i key : String) :
    (put groups group id facts).raw? g i key =
      if (g, i) = (group, id) then (facts.find? key).or (groups.raw? g i key) else groups.raw? g i key := by
  simp only [RawGroups.raw?, put, RawGroups.entity?_update, Prod.mk.injEq]
  split
  · next hplace =>
    obtain ⟨rfl, rfl⟩ := hplace
    rw [Option.bind_some, Facts.get?_insertAll]
    cases groups.entity? g i <;> simp
  · rfl

/-- Where facts that agree about a name are put at several places, they count at these places. -/
theorem raw?_foldl_put {α : Type} {facts : α → Facts} {value : Option RawValue} (place : α → String × String)
    (h : ∀ x, (facts x).find? key = value) (xs : List α) (groups : RawGroups) (g i : String) :
    (xs.foldl (fun groups x => put groups (place x).1 (place x).2 (facts x)) groups).raw? g i key =
      if (g, i) ∈ xs.map place then value.or (groups.raw? g i key) else groups.raw? g i key := by
  induction xs generalizing groups with
  | nil => simp
  | cons x rest ih =>
    simp only [List.foldl_cons, ih, raw?_put, h, List.map_cons, List.mem_cons]
    by_cases hx : (g, i) = place x
    · -- facts that are put at one place again change nothing
      simp only [hx, if_true, true_or, ← Option.or_assoc, Option.or_self, ite_self]
    · simp only [hx, if_false, false_or]

/-- A pod is put with its deployment at its own place and at those of its containers. -/
theorem raw?_addPod (hp : PodIdentity.ofPod? pod = some p) (groups : RawGroups) (g i : String) :
    (addPod groups pod).raw? g i "deploymentName" =
      if (g, i) ∈ (Subject.ofPod pod).map Subject.place then
        p.deploymentValue?.or (groups.raw? g i "deploymentName")
      else groups.raw? g i "deploymentName" := by
  let place (c : Cluster.Container) : String × String := ("container", partId p.space p.name c.name)
  have hplaces : (Subject.ofPod pod).map Subject.place =
      ("pod", podId p.space p.name) :: (Grouped.containersOf pod).map place := by
    rw [Grouped.ofPod_eq_cons hp, ← List.map_eq_flatMap, List.map_cons, List.map_map]
    rfl
  rw [addPod, hp]
  refine (raw?_foldl_put place (fun c => find?_containerFacts p c _) (Grouped.containersOf pod) _ g i).trans ?_
  simp only [hplaces, raw?_put, find?_podFacts, List.mem_cons]
  by_cases hpod : (g, i) = ("pod", podId p.space p.name)
  · simp only [hpod, if_true, true_or, ← Option.or_assoc, Option.or_self, ite_self]
  · simp only [hpod, if_false, false_or]

/-! ### The list of pods -/

/-- Each pod of a list is the only one of its namespace and its name. -/
def ListedOnce (pods : List Cluster.Pod) : Prop :=
  ((pods.filterMap PodIdentity.ofPod?).map fun p => (p.space, p.name)).Nodup

instance (pods : List Cluster.Pod) : Decidable (ListedOnce pods) :=
  inferInstanceAs (Decidable (List.Nodup _))

theorem exists_identity_of_mem_ofPod (hs : s ∈ Subject.ofPod pod) : ∃ p, PodIdentity.ofPod? pod = some p := by
  cases hp : PodIdentity.ofPod? pod with
  | none => simp [Grouped.ofPod_eq_nil hp] at hs
  | some p => exact ⟨p, rfl⟩

/-- The subjects of a pod are the pod and its containers. -/
theorem mem_ofPod_iff (hp : PodIdentity.ofPod? pod = some p) : s ∈ Subject.ofPod pod ↔
    s = .pod p.space p.name ∨ ∃ c ∈ Grouped.containersOf pod, s = .container p.space p.name c.name := by
  rw [Grouped.ofPod_eq_cons hp, List.mem_cons, List.mem_flatMap]
  simp only [List.mem_singleton]

/-- They have the namespace and the name of the pod in front of their names. -/
theorem take_names_of_mem_ofPod (hp : PodIdentity.ofPod? pod = some p) (hs : s ∈ Subject.ofPod pod) :
    s.names.take 2 = [p.space, p.name] := by
  rcases (mem_ofPod_iff hp).1 hs with rfl | ⟨c, -, rfl⟩ <;> rfl

theorem group_of_mem_ofPod (hs : s ∈ Subject.ofPod pod) : s.group ∈ listedGroups := by
  obtain ⟨p, hp⟩ := exists_identity_of_mem_ofPod hs
  rcases (mem_ofPod_iff hp).1 hs with rfl | ⟨c, -, rfl⟩ <;> simp [Subject.group, listedGroups]

/-- Pods at other places say nothing about a place. -/
theorem raw?_foldl_addPod (h : ∀ pod ∈ pods, (g, i) ∉ (Subject.ofPod pod).map Subject.place) (groups : RawGroups) :
    (pods.foldl addPod groups).raw? g i "deploymentName" = groups.raw? g i "deploymentName" := by
  induction pods generalizing groups with
  | nil => rfl
  | cons pod rest ih =>
    obtain ⟨hpod, hrest⟩ := List.forall_mem_cons.1 h
    rw [List.foldl_cons, ih hrest]
    cases hp : PodIdentity.ofPod? pod with
    | none => rw [addPod, hp]
    | some p => rw [raw?_addPod hp, if_neg hpod]

/-- In a list without a pod twice, a place of a pod is no place of another pod. -/
theorem ListedOnce.place_not_mem {before after : List Cluster.Pod} {q : Cluster.Pod}
    (h : ListedOnce (before ++ pod :: after)) (hq : q ∈ before ++ after)
    (hnames : ∀ r ∈ before ++ pod :: after, ∀ t ∈ Subject.ofPod r, t.Separable) (hs : s ∈ Subject.ofPod pod) :
    (s.group, s.rawId) ∉ (Subject.ofPod q).map Subject.place := by
  intro hmem
  obtain ⟨t, ht, hplace⟩ := List.mem_map.1 hmem
  have hlisted : q ∈ before ++ pod :: after := by
    simp only [List.mem_append, List.mem_cons] at hq ⊢
    tauto
  obtain rfl : t = s := Subject.place_injective (hnames q hlisted t ht) (hnames pod (by simp) s hs) hplace
  -- then the other pod has the same namespace and name
  obtain ⟨p, hp⟩ := exists_identity_of_mem_ofPod hs
  obtain ⟨p', hp'⟩ := exists_identity_of_mem_ofPod ht
  have hsame : (p'.space, p'.name) = (p.space, p.name) := by
    have hnames := (take_names_of_mem_ofPod hp' ht).symm.trans (take_names_of_mem_ofPod hp hs)
    simpa using hnames
  rw [ListedOnce, List.filterMap_append, List.filterMap_cons_some hp, List.map_append, List.map_cons,
    List.nodup_middle, List.nodup_cons, ← List.map_append, ← List.filterMap_append] at h
  exact h.1 (List.mem_map.2 ⟨p', List.mem_filterMap.2 ⟨q, hq, hp'⟩, hsame⟩)

/-- After the whole list, a pod and its containers have the deployment of the pod. -/
theorem raw?_ofPods (hlisted : ListedOnce pods) (hnames : ∀ pod ∈ pods, ∀ s ∈ Subject.ofPod pod, s.Separable)
    (hpod : pod ∈ pods) (hp : PodIdentity.ofPod? pod = some p) (hs : s ∈ Subject.ofPod pod) :
    (ofPods pods).raw? s.group s.rawId "deploymentName" = p.deploymentValue? := by
  obtain ⟨before, after, rfl⟩ := List.append_of_mem hpod
  have hothers (q : Cluster.Pod) (hq : q ∈ before ++ after) := hlisted.place_not_mem hq hnames hs
  have hbefore := raw?_foldl_addPod (fun q hq => hothers q (List.mem_append_left _ hq)) .empty
  have hafter := raw?_foldl_addPod (fun q hq => hothers q (List.mem_append_right _ hq))
    (addPod (before.foldl addPod .empty) pod)
  have hplace : (s.group, s.rawId) ∈ (Subject.ofPod pod).map Subject.place := List.mem_map.2 ⟨s, hs, rfl⟩
  rw [ofPods, List.foldl_append, List.foldl_cons, hafter, raw?_addPod hp, if_pos hplace, hbefore]
  exact Option.or_none

/-! ### The groups of the kubelet -/

/-- What usage does not report is as the list of pods has it. -/
theorem Overlaid.raw?_eq {before after : RawGroups} {group id : String} (h : Overlaid before after)
    (hgroup : group ∈ listedGroups) (hamount : key ∉ amountNames group) (hid : key ∉ idNames group) :
    after.raw? group id key = before.raw? group id key := by
  have hentity := h group hgroup id
  rw [RawGroups.raw?, RawGroups.raw?]
  generalize before.entity? group id = x at hentity
  generalize after.entity? group id = y at hentity
  cases hentity with
  | none => rfl
  | some hoverlays =>
    rcases hoverlays key with hsame | hmem | ⟨-, hmem⟩
    · exact hsame
    · exact absurd hmem hamount
    · exact absurd hmem hid

/-- Without series the raw groups are those of no series. -/
theorem groupsOf_error (w : Surroundings) (timeout : Time.Span) (pods : List Cluster.Pod) (summary : Summary)
    (e : GroupError) : groupsOf w timeout pods summary (.error e) = groupsOf w timeout pods summary (.ok []) := by
  rw [groupsOf, groupsOf, groups_completeNode, groups_completeNode]
  rfl

/-- In the raw groups of the kubelet a listed pod and its containers have the deployment of the pod. -/
theorem raw?_groupsOf (w : Surroundings) (timeout : Time.Span) (summary : Summary)
    (series : Except GroupError (List Family)) (hlisted : ListedOnce pods)
    (hnames : ∀ pod ∈ pods, ∀ s ∈ Subject.ofPod pod, s.Separable)
    (hpod : pod ∈ pods) (hp : PodIdentity.ofPod? pod = some p) (hs : s ∈ Subject.ofPod pod) :
    (groupsOf w timeout pods summary series).raw? s.group s.rawId "deploymentName" = p.deploymentValue? := by
  have hgroup := group_of_mem_ofPod hs
  have hamount : ∀ group ∈ listedGroups, "deploymentName" ∉ amountNames group := by
    decide
  have hid : ∀ group ∈ listedGroups, "deploymentName" ∉ idNames group := by
    decide
  have hfamilies (families : List Family) :
      (groupsOf w timeout pods summary (.ok families)).raw? s.group s.rawId "deploymentName" = p.deploymentValue? := by
    rw [(overlaid_groupsOf w timeout pods summary families).raw?_eq hgroup (hamount _ hgroup) (hid _ hgroup)]
    exact raw?_ofPods hlisted hnames hpod hp hs
  cases series with
  | ok families => exact hfamilies families
  | error e =>
    rw [groupsOf_error]
    exact hfamilies []

/-! ### Entities of listed pods -/

/-- The subjects of pods and containers are those of the list. -/
theorem mem_ofPod_of_mem_reported {summary : Summary} (hs : s ∈ reported pods summary)
    (hgroup : s.group ∈ listedGroups) : ∃ pod ∈ pods, s ∈ Subject.ofPod pod := by
  rw [reported, List.mem_append, List.mem_append, List.mem_flatMap, List.mem_flatMap] at hs
  rcases hs with (hpod | hnode) | ⟨usage, -, hvolume⟩
  · exact hpod
  · rw [Subject.ofNode] at hnode
    split at hnode
    · cases hnode
    · obtain rfl := List.mem_singleton.1 hnode
      exact absurd hgroup (by simp [Subject.group, listedGroups])
  · obtain ⟨v, -, rfl⟩ := List.mem_map.1 hvolume
    exact absurd hgroup (by simp [Subject.group, listedGroups])

/-- The raw entity at a place of a listed pod is recognised as that subject. -/
theorem exists_marked_of_mem_ofPod {summary : Summary} (h : Grouped groups (reported pods summary))
    (hnames : ∀ pod ∈ pods, ∀ s ∈ Subject.ofPod pod, s.Separable) (hpod : pod ∈ pods)
    (hs : s ∈ Subject.ofPod pod) :
    ∃ m, groups.entity? s.group s.rawId = some m ∧ s.MarkedBy m := by
  have hreported : s ∈ reported pods summary :=
    List.mem_append_left _ (List.mem_append_left _ (List.mem_flatMap.2 ⟨pod, hpod, hs⟩))
  obtain ⟨m, hm⟩ := Option.isSome_iff_exists.1 (h.isSome_entity? hreported)
  obtain ⟨t, ht, hplace, hmarks, -⟩ := h.founded _ _ m hm
  have hgroup : t.group ∈ listedGroups := by
    rw [(Prod.mk.inj hplace).1]
    exact group_of_mem_ofPod hs
  obtain ⟨q, hq, htq⟩ := mem_ofPod_of_mem_reported ht hgroup
  obtain rfl : t = s := Subject.place_injective (hnames q hq t htq) (hnames pod hpod s hs) hplace
  exact ⟨m, hm, hmarks⟩

end NodeTelemetry.Kubelet
