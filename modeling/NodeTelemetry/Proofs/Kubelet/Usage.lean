import NodeTelemetry.Proofs.Kubelet.Kinds
import NodeTelemetry.Proofs.RawGroups.Changes

/-!
# Usage only adds

The list of pods says which pods and containers there are. The summary adds amounts to them, and series add IDs that
the list does not give. An amount counts again each time it is reported, so on the way `Overlays` is kept: amounts may
change, IDs are filled in once, and nothing else is touched. The list gives no amounts, so in the end everything that
it says is still there.

Amounts and IDs have different names, and the summary puts other groups alone. So the two may come in either order;
and series that are read again find every ID in its place.

## Main definitions

* `amountNames`, `idNames`: the raw metrics that a summary and series write.
* `Overlays`, `Enriches`: raw metrics with amounts and IDs added.

## Main statements

* `overlaid_groupsOf`: what summary, series and labels leave of pods and containers.
* `commute_addSample_addSummary`: series and summary can come in either order.
* `enriches_groupsOf`: usage only adds, in any order and any number of times.
-/

namespace NodeTelemetry.Kubelet

open Facts

/-! ### Pods and containers under usage -/

/-- The amounts that a summary reports of an entity. -/
def amountNames (group : String) : List String :=
  match group with
  | "pod" => ["rxBytes", "txBytes", "errors"]
  | "container" =>
    ["usageBytes", "workingSetBytes", "usageNanoCores", "fsAvailableBytes", "fsCapacityBytes",
      "fsUsedBytes", "fsInodesFree", "fsInodes", "fsInodesUsed"]
  | _ => []

/-- The IDs that series carry of an entity. -/
def idNames (group : String) : List String :=
  match group with
  | "container" => ["containerID", "containerImageID"]
  | _ => []

/-- The groups of entities that only the list of pods creates. -/
def listedGroups : List String := ["pod", "container"]

/-- Raw metrics that differ from others in amounts, and in IDs that were missing. -/
def Overlays (group : String) (m m' : RawMetrics) : Prop :=
  ∀ key, m'.get? key = m.get? key ∨ key ∈ amountNames group ∨
    (m.get? key = none ∧ key ∈ idNames group)

namespace Overlays

variable {group : String} {m m' m'' : RawMetrics}

theorem refl (group : String) (m : RawMetrics) : Overlays group m m := fun _ => .inl rfl

theorem trans (h : Overlays group m m') (h' : Overlays group m' m'') : Overlays group m m'' := by
  intro key
  rcases h key with hsame | hamount | hid
  · rcases h' key with hsame' | hamount' | ⟨hnone, hid'⟩
    · exact .inl (hsame'.trans hsame)
    · exact .inr (.inl hamount')
    · exact .inr (.inr ⟨hsame.symm.trans hnone, hid'⟩)
  · exact .inr (.inl hamount)
  · exact .inr (.inr hid)

/-- Facts about amounts change amounts. -/
theorem insertAll {schema : Schema} {facts : Facts} (hfit : facts.Fit schema)
    (hnames : ∀ f ∈ schema, f.1 ∈ amountNames group) (m : RawMetrics) :
    Overlays group m (m.insertAll facts) := by
  intro key
  by_cases hkey : key ∈ amountNames group
  · exact .inr (.inl hkey)
  · have hnone : facts.find? key = none := hfit.find?_eq_none fun kind hmem => hkey (hnames _ hmem)
    rw [Facts.get?_insertAll, hnone, Option.none_or]
    exact .inl rfl

end Overlays

/-- Raw groups that have the pods and containers of others, with amounts and missing IDs. -/
def Overlaid (before after : RawGroups) : Prop :=
  ∀ group ∈ listedGroups, ∀ id,
    Option.Rel (Overlays group) (before.entity? group id) (after.entity? group id)

namespace Overlaid

variable {before middle after groups : RawGroups} {group id : String}

theorem refl (groups : RawGroups) : Overlaid groups groups := by
  intro group _ id
  cases groups.entity? group id with
  | none => exact .none
  | some m => exact .some (.refl group m)

theorem trans (h : Overlaid before middle) (h' : Overlaid middle after) : Overlaid before after := by
  intro group hgroup id
  have hfirst := h group hgroup id
  have hsecond := h' group hgroup id
  generalize before.entity? group id = x at hfirst ⊢
  generalize middle.entity? group id = y at hfirst hsecond
  generalize after.entity? group id = z at hsecond ⊢
  cases hfirst with
  | none => exact hsecond
  | some hxy =>
    cases hsecond with
    | some hyz => exact .some (hxy.trans hyz)

theorem foldl {α : Type} {step : RawGroups → α → RawGroups}
    (h : ∀ groups x, Overlaid groups (step groups x)) (xs : List α) (groups : RawGroups) :
    Overlaid groups (xs.foldl step groups) :=
  List.foldlRecOn xs step (refl groups) fun _ hb x _ => hb.trans (h _ x)

/-- Facts about an entity of another group leave pods and containers alone. -/
theorem put (hgroup : group ∉ listedGroups) (facts : Facts) (groups : RawGroups) :
    Overlaid groups (put groups group id facts) := by
  intro g hg i
  have hne : ¬(g = group ∧ i = id) := by
    rintro ⟨rfl, rfl⟩
    exact hgroup hg
  rw [Kubelet.put, RawGroups.entity?_update, if_neg hne]
  exact refl groups g hg i

/-- A change of an existing entity creates no pod and no container. -/
theorem updateExisting {f : RawMetrics → RawMetrics}
    (hf : group ∈ listedGroups → ∀ m, Overlays group m (f m)) (groups : RawGroups) :
    Overlaid groups (groups.updateExisting group id f) := by
  intro g hg i
  rw [RawGroups.entity?_updateExisting]
  split
  · next hplace =>
    obtain ⟨rfl, rfl⟩ := hplace
    cases groups.entity? g i with
    | none => exact .none
    | some m => exact .some (hf hg m)
  · exact refl groups g hg i

end Overlaid

/-! ### IDs that are filled in -/

theorem get?_fillMissing (key value : String) (m : RawMetrics) (k : String) :
    (fillMissing key value m).get? k =
      if k = key then (m.get? key).or (if value = "" then none else some (.scalar (.str value)))
      else m.get? k := by
  rw [fillMissing, TextMap.contains]
  by_cases hvalue : value = ""
  · rw [if_pos (.inl hvalue), if_pos hvalue, Option.or_none]
    split <;> simp_all
  · cases hkey : m.get? key with
    | none =>
      rw [if_neg (by simp [hvalue]), TextMap.get?_insert, if_neg hvalue, Option.none_or]
    | some v =>
      rw [if_pos (.inr rfl), Option.some_or]
      split <;> simp_all

theorem fillMissing_eq_self_iff {key value : String} {m : RawMetrics} :
    fillMissing key value m = m ↔ value = "" ∨ (m.get? key).isSome := by
  constructor
  · intro h
    have hkey := congrArg (fun m : RawMetrics => m.get? key) h
    simp only [get?_fillMissing, if_true] at hkey
    by_cases hvalue : value = ""
    · exact .inl hvalue
    · rw [if_neg hvalue] at hkey
      rw [← hkey]
      exact .inr (by simp)
  · exact fun h => if_pos h

theorem overlays_fillMissing {group key : String} (value : String) (hkey : key ∈ idNames group)
    (m : RawMetrics) : Overlays group m (fillMissing key value m) := by
  intro k
  rw [get?_fillMissing]
  split
  · next hk =>
    subst hk
    cases hold : m.get? k with
    | none => exact .inr (.inr ⟨rfl, hkey⟩)
    | some v => exact .inl rfl
  · exact .inl rfl

theorem overlays_fillIds (s : Sample) (m : RawMetrics) : Overlays "container" m (fillIds s m) :=
  (overlays_fillMissing _ (by simp [idNames]) m).trans (overlays_fillMissing _ (by simp [idNames]) _)

/-- Raw metrics with the IDs of a sample. -/
theorem fillIds_eq_self_iff {s : Sample} {m : RawMetrics} :
    fillIds s m = m ↔
      (String.ofList (Text.afterLast '/' (s.label "id").toList) = "" ∨
        (m.get? "containerID").isSome) ∧
      (s.label "image" = "" ∨ (m.get? "containerImageID").isSome) := by
  rw [← fillMissing_eq_self_iff, ← fillMissing_eq_self_iff]
  constructor
  · intro h
    have hget := fun k => congrArg (fun m : RawMetrics => m.get? k) h
    simp only [fillIds, get?_fillMissing] at hget
    constructor <;> refine TextMap.ext_get? fun k => ?_
    · have := hget "containerID"
      rw [get?_fillMissing]
      split <;> simp_all
    · have := hget "containerImageID"
      rw [get?_fillMissing]
      split <;> simp_all
  · rintro ⟨hid, himage⟩
    rw [fillIds, hid, himage]

/-- No raw metric is lost when IDs are filled in. -/
theorem isSome_get?_fillIds {s : Sample} {m : RawMetrics} {key : String}
    (h : (m.get? key).isSome) : ((fillIds s m).get? key).isSome := by
  simp only [fillIds, get?_fillMissing]
  split <;> split <;> simp_all

theorem fillIds_fillIds_self (s : Sample) (m : RawMetrics) :
    fillIds s (fillIds s m) = fillIds s m := by
  rw [fillIds_eq_self_iff]
  simp only [fillIds, get?_fillMissing]
  constructor
  · by_cases h : String.ofList (Text.afterLast '/' (s.label "id").toList) = "" <;> simp [h]
  · by_cases h : s.label "image" = "" <;> simp [h]

/-- IDs that are there stay there. -/
theorem fillIds_eq_self_fillIds {s t : Sample} {m : RawMetrics} (h : fillIds s m = m) :
    fillIds s (fillIds t m) = fillIds t m := by
  rw [fillIds_eq_self_iff] at h ⊢
  exact ⟨h.1.imp_right isSome_get?_fillIds, h.2.imp_right isSome_get?_fillIds⟩

/-- Facts that do not give an ID may be put before or after it is filled in. -/
theorem commute_fillMissing_insertAll {key : String} {facts : Facts} (value : String)
    (h : facts.find? key = none) :
    Function.Commute (fillMissing key value) fun m : RawMetrics => m.insertAll facts := by
  intro m
  refine TextMap.ext_get? fun k => ?_
  simp only [get?_fillMissing, Facts.get?_insertAll]
  by_cases hk : k = key
  · subst hk
    simp [h]
  · simp [hk]

/-- Facts that give no ID may be put before or after the IDs of a sample are filled in. -/
theorem commute_fillIds_insertAll {schema : Schema} {facts : Facts} (s : Sample)
    (hfit : facts.Fit schema) (hnames : ∀ f ∈ schema, f.1 ∈ amountNames "container") :
    Function.Commute (fillIds s) fun m : RawMetrics => m.insertAll facts := by
  have hnone : ∀ key ∈ idNames "container", facts.find? key = none := by
    intro key hkey
    refine hfit.find?_eq_none fun kind hmem => ?_
    have hdisjoint : ∀ key ∈ idNames "container", key ∉ amountNames "container" := by decide
    exact hdisjoint key hkey (hnames _ hmem)
  have himage := commute_fillMissing_insertAll (s.label "image")
    (hnone "containerImageID" (by decide))
  have hid := commute_fillMissing_insertAll
    (String.ofList (Text.afterLast '/' (s.label "id").toList)) (hnone "containerID" (by decide))
  exact himage.comp_left hid

/-! ### What each document leaves -/

theorem containerUsage_names : ∀ f ∈ containerUsageSchema, f.1 ∈ amountNames "container" := by
  decide

theorem network_names : ∀ f ∈ networkSchema, f.1 ∈ amountNames "pod" := by
  decide

theorem overlaid_addPodUsage (groups : RawGroups) (p : PodStats) :
    Overlaid groups (addPodUsage groups p) := by
  rw [addPodUsage]
  refine Overlaid.trans (Overlaid.trans ?_ (Overlaid.foldl (fun groups c => ?_) p.containers _))
    (Overlaid.foldl (fun groups v => ?_) p.volumes _)
  · exact Overlaid.updateExisting
      (fun _ m => .insertAll (fit_factsOf p.network fit_networkFacts) network_names m) groups
  · exact Overlaid.updateExisting
      (fun _ m => .insertAll (fit_containerUsageFacts c) containerUsage_names m) groups
  · exact Overlaid.put (by decide) (volumeFacts p.pod v) groups

theorem overlaid_addSummary (groups : RawGroups) (summary : Summary) :
    Overlaid groups (addSummary groups summary) := by
  have hnode : Overlaid groups (addNode groups summary.node) := by
    rw [addNode]
    split
    · exact .refl groups
    · exact Overlaid.put (by decide) _ groups
  exact hnode.trans (Overlaid.foldl overlaid_addPodUsage summary.pods _)

theorem overlaid_addSeries (groups : RawGroups) (families : List Family) :
    Overlaid groups (addSeries groups families) := by
  refine Overlaid.foldl (fun groups s => ?_) _ groups
  rw [addSample]
  split
  · exact Overlaid.updateExisting (fun _ => overlays_fillIds s) groups
  · exact .refl groups

/-- The raw groups with the labels of a node, if the API knows them in time. -/
def withNodeLabels (w : Surroundings) (timeout : Time.Span) (name : String) (groups : RawGroups) :
    RawGroups :=
  (completeNode w timeout name ⟨groups, []⟩).value.groups

theorem overlaid_withNodeLabels (w : Surroundings) (timeout : Time.Span) (name : String)
    (groups : RawGroups) : Overlaid groups (withNodeLabels w timeout name groups) := by
  rw [withNodeLabels, completeNode]
  split
  · exact .refl groups
  · rw [Traced.value_bind]
    split
    · refine Overlaid.updateExisting (fun hnode => ?_) groups
      exact absurd hnode (by decide)
    · exact .refl groups

theorem groupsOf_ok (w : Surroundings) (timeout : Time.Span) (pods : List Cluster.Pod)
    (summary : Summary) (families : List Family) :
    groupsOf w timeout pods summary (.ok families) =
      withNodeLabels w timeout summary.node.nodeName
        (addSeries (addSummary (ofPods pods) summary) families) :=
  rfl

/-- The pods and containers of the list are all there are, with amounts and missing IDs. -/
theorem overlaid_groupsOf (w : Surroundings) (timeout : Time.Span) (pods : List Cluster.Pod)
    (summary : Summary) (families : List Family) :
    Overlaid (ofPods pods) (groupsOf w timeout pods summary (.ok families)) := by
  have hsummary := overlaid_addSummary (ofPods pods) summary
  have hseries := hsummary.trans (overlaid_addSeries _ families)
  rw [groupsOf_ok]
  exact hseries.trans (overlaid_withNodeLabels w timeout summary.node.nodeName _)

/-! ### Series before or after the summary -/

/-- The IDs of a sample and facts about another group may come in either order. -/
theorem commute_addSample_put {group : String} (h : group ≠ "container") (s : Sample) (id : String)
    (facts : Facts) : Function.Commute (addSample · s) (put · group id facts) := by
  intro groups
  simp only [addSample]
  cases containerOf? s with
  | none => rfl
  | some place => exact RawGroups.commute_updateExisting_update h.symm groups

/-- The IDs of a sample and facts about what exists may come in either order, if the facts give no ID. -/
theorem commute_addSample_putExisting {group : String} {facts : Facts} (s : Sample) (id : String)
    (h : group = "container" →
      Function.Commute (fillIds s) fun m : RawMetrics => m.insertAll facts) :
    Function.Commute (addSample · s) (putExisting · group id facts) := by
  intro groups
  simp only [addSample]
  cases containerOf? s with
  | none => rfl
  | some place =>
    exact RawGroups.commute_updateExisting (fun hgroup _ => h hgroup.symm) groups

theorem commute_addSample_addPodUsage (s : Sample) (p : PodStats) :
    Function.Commute (addSample · s) (addPodUsage · p) := by
  have hpod : Function.Commute (addSample · s)
      (putExisting · "pod" (podId p.pod.space p.pod.name) (factsOf networkFacts p.network)) :=
    commute_addSample_putExisting s _ fun h => absurd h (by decide)
  have hcontainers :
      Function.Commute (addSample · s) (p.containers.foldl (addContainerUsage p.pod) ·) :=
    commute_foldl p.containers fun c => commute_addSample_putExisting s _ fun _ =>
      commute_fillIds_insertAll s (fit_containerUsageFacts c) containerUsage_names
  have hvolumes : Function.Commute (addSample · s) (p.volumes.foldl (addVolume p.pod) ·) :=
    commute_foldl p.volumes fun v =>
      commute_addSample_put (by decide) s (partId p.pod.space p.pod.name v.name) (volumeFacts p.pod v)
  exact hvolumes.comp_right (hcontainers.comp_right hpod)

theorem commute_addSample_addSummary (s : Sample) (summary : Summary) :
    Function.Commute (addSample · s) (addSummary · summary) := by
  have hnode : Function.Commute (addSample · s) (addNode · summary.node) := by
    intro groups
    simp only [addNode]
    split
    · rfl
    · exact commute_addSample_put (by decide) s _ _ groups
  exact (commute_foldl summary.pods (commute_addSample_addPodUsage s)).comp_right hnode

theorem addSummary_addSeries (groups : RawGroups) (summary : Summary) (families : List Family) :
    addSummary (addSeries groups families) summary =
      addSeries (addSummary groups summary) families :=
  commute_foldl _ (fun s => (commute_addSample_addSummary s summary).symm) groups

/-! ### Series that are read again -/

theorem addSample_eq_self_iff {groups : RawGroups} {s : Sample} :
    addSample groups s = groups ↔
      ∀ id, containerOf? s = some id → ∀ m, groups.entity? "container" id = some m →
        fillIds s m = m := by
  rw [addSample]
  cases containerOf? s with
  | none => simp
  | some place => simp [RawGroups.updateExisting_eq_self_iff]

theorem addSample_addSample_self (groups : RawGroups) (s : Sample) :
    addSample (addSample groups s) s = addSample groups s := by
  rw [addSample_eq_self_iff]
  intro id hid m hm
  rw [addSample, hid, RawGroups.entity?_updateExisting, if_pos ⟨rfl, rfl⟩] at hm
  obtain ⟨before, -, rfl⟩ := Option.map_eq_some_iff.1 hm
  exact fillIds_fillIds_self s before

/-- A sample whose IDs are there has nothing to add later. -/
theorem addSample_eq_self_addSample {groups : RawGroups} {s : Sample} (t : Sample)
    (h : addSample groups s = groups) : addSample (addSample groups t) s = addSample groups t := by
  rw [addSample_eq_self_iff] at h ⊢
  intro id hid m hm
  cases ht : containerOf? t with
  | none =>
    rw [addSample, ht] at hm
    exact h id hid m hm
  | some place =>
    rw [addSample, ht, RawGroups.entity?_updateExisting] at hm
    split at hm
    · next hplace =>
      obtain ⟨before, hbefore, rfl⟩ := Option.map_eq_some_iff.1 hm
      exact fillIds_eq_self_fillIds (h id hid before (hplace.2 ▸ hbefore))
    · exact h id hid m hm

theorem addSeries_addSeries_self (groups : RawGroups) (families : List Family) :
    addSeries (addSeries groups families) families = addSeries groups families :=
  foldl_foldl_self addSample_addSample_self (fun _ _ t => addSample_eq_self_addSample t) _ groups

/-! ### The list of pods -/

/-- Raw groups in which the entities of a group have the raw metrics that subjects are put with, and no others. -/
def Unadorned (group : String) (groups : RawGroups) : Prop :=
  ∀ id m, groups.entity? group id = some m → Conforms m (ownSchema group)

namespace Unadorned

variable {group g id : String} {groups : RawGroups}

theorem empty (group : String) : Unadorned group .empty := by
  intro id m hm
  simp [RawGroups.entity?_empty] at hm

theorem put {facts : Facts} (h : Unadorned group groups) (hfit : facts.Fit (ownSchema g)) :
    Unadorned group (put groups g id facts) := by
  intro i m hm
  rw [Kubelet.put, RawGroups.entity?_update] at hm
  split at hm
  · next hplace =>
    obtain ⟨rfl, rfl⟩ := hplace
    obtain rfl := Option.some.inj hm
    cases hbefore : groups.entity? group i with
    | none => exact (conforms_empty _).insertAll hfit
    | some before => exact (h i before hbefore).insertAll hfit
  · exact h i m hm

/-- A change in another group adds nothing here. -/
theorem updateExisting {f : RawMetrics → RawMetrics} (h : Unadorned group groups) (hne : group ≠ g) :
    Unadorned group (groups.updateExisting g id f) := by
  intro i m hm
  rw [RawGroups.entity?_updateExisting, if_neg fun hplace => hne hplace.1] at hm
  exact h i m hm

end Unadorned

theorem unadorned_ofPods (group : String) (pods : List Cluster.Pod) :
    Unadorned group (ofPods pods) := by
  refine List.foldlRecOn pods addPod (.empty group) fun groups h pod _ => ?_
  rw [addPod]
  split
  · exact h
  · next identity _ =>
    refine List.foldlRecOn _ _ (h.put (fit_podFacts identity pod)) fun groups h c _ => ?_
    exact h.put (fit_containerFacts identity c _)

/-- The list of pods gives no amount. -/
theorem ownSchema_names : ∀ group ∈ listedGroups, ∀ f ∈ ownSchema group,
    f.1 ∉ amountNames group := by
  decide

/-! ### Usage only adds -/

/-- Raw metrics that say everything that others say, and more under some names. -/
structure Enriches (names : List String) (m m' : RawMetrics) : Prop where
  kept : ∀ key v, m.get? key = some v → m'.get? key = some v
  added : ∀ key, m.get? key = none → (m'.get? key).isSome → key ∈ names

theorem Overlays.enriches {group : String} {m m' : RawMetrics} (h : Overlays group m m')
    (hgroup : group ∈ listedGroups) (hm : Conforms m (ownSchema group)) :
    Enriches (amountNames group ++ idNames group) m m' where
  kept := by
    intro key v hv
    rcases h key with hsame | hamount | ⟨hnone, -⟩
    · rw [hsame, hv]
    · exact absurd hamount (ownSchema_names group hgroup _ (hm key v hv))
    · rw [hnone] at hv
      exact absurd hv (by simp)
  added := by
    intro key hnone hsome
    rcases h key with hsame | hamount | ⟨-, hid⟩
    · rw [hsame, hnone] at hsome
      exact absurd hsome (by simp)
    · exact List.mem_append_left _ hamount
    · exact List.mem_append_right _ hid

theorem Overlaid.enriches {before after : RawGroups} (h : Overlaid before after)
    (hbefore : ∀ group, Unadorned group before) :
    ∀ group ∈ listedGroups, ∀ id,
      Option.Rel (Enriches (amountNames group ++ idNames group)) (before.entity? group id)
        (after.entity? group id) := by
  intro group hgroup id
  have hrel := h group hgroup id
  have hown := hbefore group id
  generalize before.entity? group id = x at hrel hown ⊢
  generalize after.entity? group id = y at hrel ⊢
  cases hrel with
  | none => exact .none
  | some hover => exact .some (hover.enriches hgroup (hown _ rfl))

/-- Usage only adds to the list of pods. The pods and containers are those of the list, each says everything that the
list says of it, and what is new are amounts and IDs. Series may be merged before the summary, and merged twice. -/
theorem enriches_groupsOf (w : Surroundings) (timeout : Time.Span) (pods : List Cluster.Pod)
    (summary : Summary) (families : List Family) :
    let listed := ofPods pods
    let final := groupsOf w timeout pods summary (.ok families)
    let complete := withNodeLabels w timeout summary.node.nodeName
    (∀ group ∈ ["pod", "container"], ∀ id,
      Option.Rel (Enriches (amountNames group ++ idNames group)) (listed.entity? group id)
        (final.entity? group id)) ∧
      complete (addSummary (addSeries listed families) summary) = final ∧
      complete (addSeries (addSeries (addSummary listed summary) families) families) = final := by
  intro listed final complete
  refine ⟨fun group hgroup id => ?_, ?_, ?_⟩
  · exact (overlaid_groupsOf w timeout pods summary families).enriches (unadorned_ofPods · pods)
      group hgroup id
  · exact congrArg complete (addSummary_addSeries listed summary families)
  · exact congrArg complete (addSeries_addSeries_self (addSummary listed summary) families)

end NodeTelemetry.Kubelet
