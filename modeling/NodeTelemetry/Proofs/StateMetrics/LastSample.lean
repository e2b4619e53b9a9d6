import NodeTelemetry.Proofs.RawGroups.Changes
import NodeTelemetry.Proofs.StateMetrics.Placements

/-!
# Groups as maps of last samples

Grouping by labels goes through groups, families and samples and replaces what it finds in a place. What is left is one
sample in each place that any sample is put in, the last one, and no empty entity and no empty group around it. So the
groups do not depend on the order of the labels or on how often one is given, and on the order of the families only
where two of them have one name.

## Main definitions

* `RawGroups.Full`: no group and no entity is empty.
* `StateMetrics.samplesAt`: the samples that are put in one place.
* `StateMetrics.idLabels`: the labels that raw IDs of a group are made of.

## Main statements

* `RawGroups.Full.ext_raw?`: full groups are determined by their raw metrics.
* `StateMetrics.raw?_groupByLabels`: every look-up in the groups of families.
* `StateMetrics.rawId_eq_iff`: which samples have one raw ID.
* `StateMetrics.groupByLabels_lastSample`: the groups of families are the map of the last samples.
-/

namespace NodeTelemetry

/-! ### Groups without gaps -/

namespace RawGroups

/-- No group and no entity is empty. -/
structure Full (groups : RawGroups) : Prop where
  group : ∀ g entities, groups.get? g = some entities → entities.isEmpty = false
  entity : ∀ g i metrics, groups.entity? g i = some metrics → metrics.isEmpty = false

theorem full_empty : Full .empty where
  group g entities h := by cases h
  entity g i metrics h := by cases h

/-- An update that leaves something in its entity keeps groups full. -/
theorem Full.update {groups : RawGroups} (h : groups.Full) (group id : String)
    {f : RawMetrics → RawMetrics} (hf : ∀ m, (f m).isEmpty = false) :
    (groups.update group id f).Full where
  group g entities hg := by
    rw [RawGroups.update, TextMap.alter, TextMap.get?_insert] at hg
    split at hg
    · rw [← Option.some.inj hg]
      exact TextMap.isEmpty_insert _ _ _
    · exact h.group g entities hg
  entity g i metrics hm := by
    rw [entity?_update] at hm
    split at hm
    · rw [← Option.some.inj hm]
      exact hf _
    · exact h.entity g i metrics hm

/-- A group that is full exists where one of its raw metrics does. -/
theorem Full.isSome_entity?_iff {groups : RawGroups} (h : groups.Full) (g i : String) :
    (groups.entity? g i).isSome ↔ ∃ k, (groups.raw? g i k).isSome := by
  rw [Option.isSome_iff_exists]
  constructor
  · rintro ⟨metrics, hm⟩
    obtain ⟨k, v, hv⟩ := TextMap.exists_get?_of_isEmpty (h.entity g i metrics hm)
    exact ⟨k, by simp [raw?, hm, hv]⟩
  · rintro ⟨k, hk⟩
    cases hm : groups.entity? g i with
    | none => simp [raw?, hm] at hk
    | some metrics => exact ⟨metrics, rfl⟩

theorem Full.isSome_get?_iff {groups : RawGroups} (h : groups.Full) (g : String) :
    (groups.get? g).isSome ↔ ∃ i, (groups.entity? g i).isSome := by
  rw [Option.isSome_iff_exists]
  constructor
  · rintro ⟨entities, hg⟩
    obtain ⟨i, metrics, hm⟩ := TextMap.exists_get?_of_isEmpty (h.group g entities hg)
    exact ⟨i, by simp [entity?, hg, hm]⟩
  · rintro ⟨i, hi⟩
    cases hg : groups.get? g with
    | none => simp [entity?, hg] at hi
    | some entities => exact ⟨entities, rfl⟩

/-- Full groups with the same raw metrics are equal. -/
theorem Full.ext_raw? {a b : RawGroups} (ha : a.Full) (hb : b.Full)
    (h : ∀ g i k, a.raw? g i k = b.raw? g i k) : a = b := by
  have hentity (g i : String) : (a.entity? g i).isSome = (b.entity? g i).isSome := by
    rw [Bool.eq_iff_iff, ha.isSome_entity?_iff, hb.isSome_entity?_iff]
    simp only [h]
  refine ext_entity? (fun g => ?_) fun g i => ?_
  · rw [Bool.eq_iff_iff, ha.isSome_get?_iff, hb.isSome_get?_iff]
    simp only [hentity]
  · have hsome := hentity g i
    have hraw := h g i
    simp only [raw?] at hraw
    cases hm : a.entity? g i with
    | none =>
      cases hm' : b.entity? g i with
      | none => rfl
      | some metrics => simp [hm, hm'] at hsome
    | some metrics =>
      cases hm' : b.entity? g i with
      | none => simp [hm, hm'] at hsome
      | some metrics' =>
        rw [hm, hm'] at hraw
        exact congrArg some (TextMap.ext_get? hraw)

end RawGroups

namespace StateMetrics

/-! ### Places and their samples -/

/-- The samples that are put in one place: those of the series that carry the label of the group and whose labels
make the raw ID, in the order of the families and of their samples. -/
def samplesAt (families : List Family) (group id series : String) : List Sample :=
  (families.filter fun f => f.name = series).flatMap fun f =>
    f.samples.filter fun s => s.labels.contains group = true ∧ rawId group s = id

variable {labels : List String} {families : List Family} {group id series : String}

theorem samplesAt_cons (f : Family) (rest : List Family) :
    samplesAt (f :: rest) group id series =
      (if f.name = series then
        f.samples.filter fun s => s.labels.contains group = true ∧ rawId group s = id
      else []) ++ samplesAt rest group id series := by
  by_cases hname : f.name = series <;> simp [samplesAt, hname]

/-- Of the samples that a label places, those in one place are the samples of the place. -/
theorem filter_placementsIn (families : List Family) (group id series g : String) :
    ((placementsIn g families).filter fun p => group = p.group ∧ id = p.id ∧ series = p.series) =
      if g = group then (samplesAt families group id series).map fun s => ⟨group, id, series, s⟩
      else [] := by
  split
  · next hg =>
    subst hg
    induction families with
    | nil => rfl
    | cons f rest ih =>
      have hcons : placementsIn g (f :: rest) =
          ((f.samples.filter fun s => s.labels.contains g).map fun s => ⟨g, rawId g s, f.name, s⟩) ++
            placementsIn g rest := rfl
      rw [hcons, List.filter_append, ih, List.filter_map, List.filter_filter, samplesAt_cons, List.map_append]
      congr 1
      by_cases hname : f.name = series
      · rw [if_pos hname]
        refine (congrArg _ (List.filter_congr fun s _ => ?_)).trans (List.map_congr_left fun s hs => ?_)
        · rw [Bool.decide_and, Bool.decide_coe, Bool.and_comm]
          simp [hname, eq_comm (a := id)]
        · rw [hname, (of_decide_eq_true (List.mem_filter.1 hs).2).2]
      · rw [if_neg hname, List.map_nil, List.map_eq_nil_iff, List.filter_eq_nil_iff]
        intro s _ hs
        simp [Ne.symm hname] at hs
  · next hg =>
    refine List.filter_eq_nil_iff.2 fun p hp heq => hg ?_
    obtain ⟨f, -, hp⟩ := List.mem_flatMap.1 hp
    obtain ⟨s, -, rfl⟩ := List.mem_map.1 hp
    exact (of_decide_eq_true heq).1.symm

theorem getLast?_flatMap_ite {α : Type} (labels : List String) (group : String) (xs : List α) :
    (labels.flatMap fun g => if g = group then xs else []).getLast? =
      if group ∈ labels then xs.getLast? else none := by
  induction labels with
  | nil => rfl
  | cons g rest ih =>
    rw [List.flatMap_cons, List.getLast?_append, ih]
    by_cases hg : g = group
    · subst hg
      by_cases hmem : g ∈ rest <;> simp [hmem]
    · have hne : group ≠ g := fun h => hg h.symm
      simp [hg, hne]

/-- Under a label that is given, the last sample of a place is stored. -/
theorem raw?_groupByLabels (labels : List String) (families : List Family) (group id series : String) :
    (groupByLabels labels families).raw? group id series =
      if group ∈ labels then (samplesAt families group id series).getLast?.map .sample else none := by
  have hempty : RawGroups.raw? .empty group id series = none := rfl
  rw [groupByLabels, raw?_foldl_apply, hempty, Option.or_none, ← List.head?_filter, List.filter_reverse,
    List.head?_reverse, List.filter_flatMap]
  simp only [filter_placementsIn]
  rw [getLast?_flatMap_ite]
  split
  · rw [List.getLast?_map, Option.map_map]
    rfl
  · rfl

theorem full_groupByLabels (labels : List String) (families : List Family) :
    (groupByLabels labels families).Full := by
  have hrun (ps : List Placement) (groups : RawGroups) (h : groups.Full) :
      (ps.foldl Placement.apply groups).Full := by
    induction ps generalizing groups with
    | nil => exact h
    | cons p rest ih => exact ih _ (h.update p.group p.id fun m => m.isEmpty_insert _ _)
  exact hrun _ _ RawGroups.full_empty

/-! ### Labels and families in another order -/

/-- Groups do not depend on the order of the labels or on how often one is given. -/
theorem groupByLabels_congr {labels' : List String} (h : ∀ g, g ∈ labels' ↔ g ∈ labels)
    (families : List Family) : groupByLabels labels' families = groupByLabels labels families := by
  refine (full_groupByLabels _ _).ext_raw? (full_groupByLabels _ _) fun group id series => ?_
  simp only [raw?_groupByLabels, h]

/-- Of families with different names, at most one is the family of a series. -/
theorem filter_name_of_perm {families' : List Family} (h : families'.Perm families)
    (hnames : (families.map Family.name).Nodup) (series : String) :
    families'.filter (fun f => f.name = series) = families.filter fun f => f.name = series := by
  have hperm := h.filter fun f => f.name = series
  cases hf : families.filter fun f => f.name = series with
  | nil =>
    rw [hf] at hperm
    exact hperm.eq_nil
  | cons f rest =>
    have hnodup : ((f :: rest).map Family.name).Nodup := by
      rw [← hf]
      exact (List.filter_sublist.map Family.name).nodup hnames
    have hname (g : Family) (hg : g ∈ f :: rest) : g.name = series := by
      rw [← hf] at hg
      exact of_decide_eq_true (List.mem_filter.1 hg).2
    -- a second family would have the name of the first
    have hrest : rest = [] := by
      refine List.eq_nil_iff_forall_not_mem.2 fun g hg => (List.nodup_cons.1 hnodup).1 ?_
      rw [hname f (List.mem_cons_self ..), ← hname g (List.mem_cons_of_mem _ hg)]
      exact List.mem_map_of_mem hg
    rw [hf, hrest] at hperm
    rw [hrest]
    exact List.perm_singleton.1 hperm

theorem groupByLabels_perm {families' : List Family} (h : families'.Perm families)
    (hnames : (families.map Family.name).Nodup) (labels : List String) :
    groupByLabels labels families' = groupByLabels labels families := by
  refine (full_groupByLabels _ _).ext_raw? (full_groupByLabels _ _) fun group id series => ?_
  simp only [raw?_groupByLabels, samplesAt, filter_name_of_perm h hnames]

/-! ### Samples with one raw ID -/

/-- The labels that the raw IDs of a group are made of. -/
def idLabels (group : String) : List String :=
  if group = "namespace" then ["namespace"]
  else if group = "container" then ["namespace", "pod", "container"]
  else ["namespace", group]

/-- A raw ID is the values of its labels, with separators between them. -/
theorem rawId_toList (group : String) (s : Sample) :
    (rawId group s).toList = ['_'].intercalate (((idLabels group).map s.label).map String.toList) := by
  unfold rawId
  split
  · simp [idLabels, List.intercalate]
  · simp [idLabels, List.intercalate]
  · next hns hcontainer =>
    rw [idLabels, if_neg hns, if_neg hcontainer]
    simp [List.intercalate]

/-- Samples have one raw ID where the labels that make it are the same in both, as long as these hold no separator. -/
theorem rawId_eq_iff {s t : Sample}
    (h : ∀ name ∈ idLabels group, '_' ∉ (s.label name).toList ∧ '_' ∉ (t.label name).toList) :
    rawId group s = rawId group t ↔ ∀ name ∈ idLabels group, s.label name = t.label name := by
  have hne (u : Sample) : (idLabels group).map u.label ≠ [] := by
    unfold idLabels
    split
    · simp
    · split <;> simp
  rw [← String.toList_inj, rawId_toList, rawId_toList, ← List.map_inj_left]
  constructor
  · refine eq_of_intercalate_eq ?_ ?_ (hne s) (hne t)
    · exact List.forall_mem_map.2 fun name hname => (h name hname).1
    · exact List.forall_mem_map.2 fun name hname => (h name hname).2
  · intro hlabels
    rw [hlabels]

theorem idLabels_subset (group : String) : idLabels group ⊆ ["namespace", "pod", group] := by
  unfold idLabels
  split
  · simp
  · split
    · next hcontainer => simp [hcontainer]
    · simp

theorem mem_samplesAt_iff {s : Sample} :
    s ∈ samplesAt families group id series ↔
      Query.Held families series s ∧ s.labels.contains group = true ∧ rawId group s = id := by
  simp only [samplesAt, Query.Held, List.mem_flatMap, List.mem_filter, decide_eq_true_eq]
  constructor
  · rintro ⟨f, ⟨hf, hname⟩, hs, hplace⟩
    exact ⟨⟨f, hf, hname, hs⟩, hplace⟩
  · rintro ⟨⟨f, hf, hname, hs⟩, hplace⟩
    exact ⟨f, ⟨hf, hname⟩, hs, hplace⟩

/-- The groups of families are the map of the last samples: under a label, a raw ID and a series stands the last of the
samples that are put there, and nothing else is stored. So the order and the number of the labels do not count, nor the
order of families with different names. Which samples are put in one entity is told by the labels that raw IDs
are made of, where none holds the separator. -/
theorem groupByLabels_lastSample (labels : List String) (families : List Family) :
    (∀ group id series, (groupByLabels labels families).raw? group id series =
      if group ∈ labels then (samplesAt families group id series).getLast?.map .sample else none) ∧
    (groupByLabels labels families).Full ∧
    (∀ labels' : List String, (∀ g, g ∈ labels' ↔ g ∈ labels) →
      groupByLabels labels' families = groupByLabels labels families) ∧
    (∀ families' : List Family, families'.Perm families → (families.map Family.name).Nodup →
      groupByLabels labels families' = groupByLabels labels families) ∧
    ∀ group id id' series series' s t, s ∈ samplesAt families group id series →
      t ∈ samplesAt families group id' series' →
      (∀ name ∈ ["namespace", "pod", group], '_' ∉ (s.label name).toList ∧ '_' ∉ (t.label name).toList) →
      (id = id' ↔ ∀ name ∈ idLabels group, s.label name = t.label name) := by
  refine ⟨raw?_groupByLabels labels families, full_groupByLabels labels families,
    fun labels' h => groupByLabels_congr h families,
    fun families' h hnames => groupByLabels_perm h hnames labels, ?_⟩
  intro group id id' series series' s t hs ht hlabels
  obtain ⟨-, -, rfl⟩ := mem_samplesAt_iff.1 hs
  obtain ⟨-, -, rfl⟩ := mem_samplesAt_iff.1 ht
  exact rawId_eq_iff fun name hname => hlabels name (idLabels_subset group hname)

/-- A pod that was started again, with a sample from each start and one without its namespace. -/
def restarted : List Family :=
  [⟨"kube_pod_info", [⟨1.0, .ofList [("namespace", "shop"), ("pod", "web"), ("uid", "1")]⟩,
      ⟨1.0, .ofList [("namespace", "shop"), ("pod", "web"), ("uid", "2")]⟩,
      ⟨1.0, .ofList [("pod", "web"), ("uid", "3")]⟩]⟩,
    ⟨"kube_namespace_labels", [⟨1.0, .ofList [("namespace", "shop")]⟩]⟩]

theorem groupByLabels_lastSample_restarted :
    (∃ s, (groupByLabels ["namespace", "pod"] restarted).raw? "pod" "shop_web" "kube_pod_info" =
      some (.sample s) ∧ s.label "uid" = "2") ∧
    groupByLabels ["pod", "namespace", "pod"] restarted = groupByLabels ["namespace", "pod"] restarted ∧
    groupByLabels ["namespace", "pod"] restarted.reverse = groupByLabels ["namespace", "pod"] restarted ∧
    ∃ s ∈ samplesAt restarted "pod" "shop_web" "kube_pod_info",
      ∃ t ∈ samplesAt restarted "pod" "_web" "kube_pod_info",
        ¬ ∀ name ∈ idLabels "pod", s.label name = t.label name := by
  obtain ⟨hraw, -, hlabels, hfamilies, hsame⟩ := groupByLabels_lastSample ["namespace", "pod"] restarted
  refine ⟨⟨_, hraw _ _ _, by decide +kernel⟩, hlabels _ ?_, hfamilies _ (List.reverse_perm _) (by decide), ?_⟩
  · intro g
    simp only [List.mem_cons, List.not_mem_nil, or_false]
    tauto
  · have hs : _ ∈ samplesAt restarted "pod" "shop_web" "kube_pod_info" := List.mem_cons_self ..
    have ht : _ ∈ samplesAt restarted "pod" "_web" "kube_pod_info" := List.mem_cons_self ..
    refine ⟨_, hs, _, ht, ?_⟩
    rw [← hsame _ _ _ _ _ _ _ hs ht (by decide +kernel)]
    decide

end StateMetrics

end NodeTelemetry
