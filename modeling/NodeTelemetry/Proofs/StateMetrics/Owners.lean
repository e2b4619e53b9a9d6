import NodeTelemetry.Proofs.StateMetrics.LastSample

/-!
# Owners of raw entities

An entity inherits labels from its owner in another group, and the owner is looked up under an ID that is made from the
first sample of the entity with labels for it, in the order of the series. Grouping has put this sample in the owner's
group too, under an ID of its own making. The two IDs agree in every group but that of containers, where grouping puts
the pod between the namespace and the container and the look-up does not.

## Main definitions

* `StateMetrics.ownerIdLabels`, `StateMetrics.ownerId`: the ID under which an owner is looked up.
* `StateMetrics.IsFirstWith`: the first sample of an entity that has some labels.

## Main statements

* `StateMetrics.parentId_of_isFirstWith`: the first sample with labels for the owner decides.
* `StateMetrics.entity?_container_eq_none`: no container has the ID under which it is looked up.
* `StateMetrics.owner_of_grouped`: the owner of an entity and what can be missing in it.
-/

namespace NodeTelemetry.StateMetrics

variable {groups : RawGroups} {labels : List String} {families : List Family}
  {group parent id series : String} {s : Sample}

/-! ### The ID of an owner -/

/-- The labels that the ID of an owner is looked up by. -/
def ownerIdLabels (parent : String) : List String :=
  if parent = "namespace" then ["namespace"] else ["namespace", parent]

/-- The ID under which an owner is looked up: the namespace itself, or the namespace and the name of the owner. -/
def ownerId (parent : String) (s : Sample) : String :=
  if parent = "namespace" then s.label "namespace" else s.label "namespace" ++ "_" ++ s.label parent

/-- A sample has labels of some names. -/
def Carries (names : List String) (s : Sample) : Prop :=
  ∀ name ∈ names, s.labels.contains name = true

instance (names : List String) (s : Sample) : Decidable (Carries names s) :=
  inferInstanceAs (Decidable (∀ name ∈ names, _))

theorem ownerId?_of_carries (h : Carries (ownerIdLabels parent) s) :
    s.ownerId? parent = some (ownerId parent s) := by
  have get (name : String) (hname : name ∈ ownerIdLabels parent) :
      s.labels.get? name = some (s.label name) := by
    obtain ⟨value, hvalue⟩ := Option.isSome_iff_exists.1 (h name hname)
    rw [hvalue, label_eq_of_get? hvalue]
  rw [Sample.ownerId?, ownerId]
  by_cases hparent : parent = "namespace"
  · rw [get "namespace" (by simp [ownerIdLabels, hparent])]
    simp [hparent]
  · rw [get "namespace" (by simp [ownerIdLabels, hparent]), get parent (by simp [ownerIdLabels, hparent])]
    simp [hparent]

theorem ownerId?_of_not_carries (h : ¬ Carries (ownerIdLabels parent) s) : s.ownerId? parent = none := by
  rw [Sample.ownerId?]
  cases hns : s.labels.get? "namespace" with
  | none => rfl
  | some ns =>
    by_cases hparent : parent = "namespace"
    · refine absurd (fun name hname => ?_) h
      obtain rfl : name = "namespace" := by simpa [ownerIdLabels, hparent] using hname
      simp [TextMap.contains, hns]
    · cases hname : s.labels.get? parent with
      | none => simp [hparent]
      | some value =>
        refine absurd (fun name hmem => ?_) h
        simp only [ownerIdLabels, hparent, if_false, List.mem_cons, List.not_mem_nil, or_false] at hmem
        rcases hmem with rfl | rfl
        · simp [TextMap.contains, hns]
        · simp [TextMap.contains, hname]

/-- But for containers, owners are looked up under the IDs that grouping makes. -/
theorem rawId_eq_ownerId (h : parent ≠ "container") (s : Sample) : rawId parent s = ownerId parent s := by
  unfold rawId ownerId
  split
  · rw [if_pos rfl]
  · exact absurd rfl h
  · next hns _ => rw [if_neg hns]

theorem ownerIdLabels_subset (parent : String) : ownerIdLabels parent ⊆ idLabels parent := by
  unfold ownerIdLabels idLabels
  split
  · simp
  · split
    · next hcontainer => simp [hcontainer]
    · simp

theorem mem_ownerIdLabels (parent : String) : parent ∈ ownerIdLabels parent := by
  unfold ownerIdLabels
  split
  · next hns => simp [hns]
  · simp

/-! ### The sample that decides -/

/-- The first sample of an entity, in the order of the series, that has labels of some names. -/
structure IsFirstWith (groups : RawGroups) (group id : String) (names : List String) (series : String)
    (s : Sample) : Prop where
  stored : groups.sample group id series = .ok s
  carries : Carries names s
  first : ∀ series' t, series' < series → groups.sample group id series' = .ok t → ¬ Carries names t

/-- What stands before an entry of a map has a smaller key, and what stands behind it a larger one. -/
theorem lt_of_split {α : Type} {m : TextMap α} {before after : List (String × α)} {e : String × α}
    (h : m.entries = before ++ e :: after) : (∀ b ∈ before, b.1 < e.1) ∧ ∀ a ∈ after, e.1 < a.1 := by
  have hsorted := m.sorted
  rw [h, List.pairwise_append, List.pairwise_cons] at hsorted
  exact ⟨fun b hb => hsorted.2.2 b hb e (List.mem_cons_self ..), hsorted.2.1.1⟩

theorem sample_eq_ok_iff_mem {metrics : RawMetrics} (hm : groups.entity? group id = some metrics) :
    groups.sample group id series = .ok s ↔ (series, RawValue.sample s) ∈ metrics.entries := by
  rw [sample_eq_ok_iff, RawGroups.raw?, hm, Option.bind_some, TextMap.get?_eq_some_iff]

/-- Where some sample has the labels, there is a first one. -/
theorem exists_isFirstWith {names : List String} (hs : groups.sample group id series = .ok s)
    (hcarries : Carries names s) : ∃ series s, IsFirstWith groups group id names series s := by
  classical
  obtain ⟨metrics, hm, -⟩ := Option.bind_eq_some_iff.1 (sample_eq_ok_iff.1 hs)
  have hsome : (metrics.entries.find? fun e => ∃ t, e.2 = .sample t ∧ Carries names t).isSome :=
    List.find?_isSome.2 ⟨_, (sample_eq_ok_iff_mem hm).1 hs, decide_eq_true ⟨s, rfl, hcarries⟩⟩
  obtain ⟨⟨first, v⟩, hfind⟩ := Option.isSome_iff_exists.1 hsome
  obtain ⟨hfits, before, after, hsplit, hbefore⟩ := List.find?_eq_some_iff_append.1 hfind
  obtain ⟨t, rfl, ht⟩ := of_decide_eq_true hfits
  refine ⟨first, t, (sample_eq_ok_iff_mem hm).2 (by simp [hsplit]), ht, ?_⟩
  intro earlier u hlt hu hcarried
  have hmem := (sample_eq_ok_iff_mem hm).1 hu
  rw [hsplit, List.mem_append, List.mem_cons] at hmem
  rcases hmem with hmem | heq | hmem
  · have hnot := hbefore _ hmem
    simp [hcarried] at hnot
  · obtain ⟨rfl, -⟩ := Prod.mk.inj heq
    exact String.lt_irrefl _ hlt
  · exact String.lt_irrefl _ (String.lt_trans hlt ((lt_of_split hsplit).2 _ hmem))

/-- An owner in another group is looked up by the first sample with labels for its ID. -/
theorem parentId_of_isFirstWith (hne : parent ≠ group)
    (h : IsFirstWith groups group id (ownerIdLabels parent) series s) :
    parentId parent group id groups = .ok (ownerId parent s) := by
  obtain ⟨metrics, hm, -⟩ := Option.bind_eq_some_iff.1 (sample_eq_ok_iff.1 h.stored)
  obtain ⟨before, after, hsplit⟩ := List.append_of_mem ((sample_eq_ok_iff_mem hm).1 h.stored)
  have hfind (owner : RawValue → Option String) (hsample : ∀ t, owner (.sample t) = t.ownerId? parent)
      (hother : ∀ v, (∀ t, v ≠ .sample t) → owner v = none) :
      metrics.values.findSome? owner = some (ownerId parent s) := by
    have hbefore : before.findSome? (owner ∘ Prod.snd) = none := by
      refine List.findSome?_eq_none_iff.2 fun e he => ?_
      obtain ⟨earlier, v⟩ := e
      have hmem : (earlier, v) ∈ metrics.entries := by simp [hsplit, he]
      cases v with
      | scalar v => exact hother _ (by simp)
      | labels v => exact hother _ (by simp)
      | sample t =>
        have hlt := (lt_of_split hsplit).1 _ he
        have hnot := h.first earlier t hlt ((sample_eq_ok_iff_mem hm).2 hmem)
        exact (hsample t).trans (ownerId?_of_not_carries hnot)
    have hdecides : (owner ∘ Prod.snd) (series, RawValue.sample s) = some (ownerId parent s) :=
      (hsample s).trans (ownerId?_of_carries h.carries)
    rw [TextMap.values, List.findSome?_map, hsplit, List.findSome?_append, hbefore, Option.none_or,
      List.findSome?_cons, hdecides]
  rw [parentId, if_neg hne, RawGroups.entity, hm]
  simp only
  rw [hfind _ (fun t => rfl) fun v hv => ?_]
  cases v with
  | scalar v => rfl
  | labels v => rfl
  | sample t => exact absurd rfl (hv t)

/-! ### Owners in the groups of families -/

/-- The labels that are inherited are those of a sample of the owner. -/
theorem inheritLabels_eq {owner : String} (howner : parentId parent group id groups = .ok owner) (metric : String) :
    Fetch.inheritLabels parent metric group id groups =
      (groups.sample parent owner metric).map fun s => .multi s.objectLabels := by
  rw [Fetch.inheritLabels, howner]

theorem sample_of_entity?_eq_none (h : groups.entity? group id = none) :
    groups.sample group id series = .error (.entityNotFound group id) := by
  rw [RawGroups.sample, RawGroups.metric, RawGroups.entity, h]

/-- No container has the ID under which it is looked up, as long as namespaces and containers have names without the
separator: there is a pod in between. -/
theorem entity?_container_eq_none (labels : List String) (families : List Family)
    (hns : '_' ∉ (s.label "namespace").toList) (hname : '_' ∉ (s.label "container").toList) :
    (groupByLabels labels families).entity? "container" (ownerId "container" s) = none := by
  rw [← Option.not_isSome_iff_eq_none, (full_groupByLabels labels families).isSome_entity?_iff]
  rintro ⟨series, hsome⟩
  obtain ⟨v, hv⟩ := Option.isSome_iff_exists.1 hsome
  obtain ⟨t, rfl, -, -, hid⟩ := exists_of_raw?_groupByLabels hv
  have hjoined : s.label "namespace" ++ "_" ++ s.label "container" =
      t.label "namespace" ++ "_" ++ t.label "pod" ++ "_" ++ t.label "container" := hid.symm
  obtain ⟨hspace, -⟩ := eq_of_joined_eq hns hname hjoined
  rw [hspace] at hns
  simp at hns

/-- Where a raw entity has a sample with the labels that IDs of another group are made of, it has an owner there. The
owner is looked up by the first sample with labels for it, in the order of the series. This is the ID under which
grouping has put the same sample, so the owner exists, and all that can be missing is the series in it. It is not so for
containers: they are looked up without the name of the pod, and as long as no name holds the separator there is
none. -/
theorem owner_of_grouped (labels : List String) (families : List Family) {child parent id series : String}
    {s : Sample} (hparent : parent ∈ labels) (hne : parent ≠ child)
    (hs : (groupByLabels labels families).sample child id series = .ok s) (hcarries : Carries (idLabels parent) s) :
    let groups := groupByLabels labels families
    ∃ series s, IsFirstWith groups child id (ownerIdLabels parent) series s ∧
      parentId parent child id groups = .ok (ownerId parent s) ∧
      (parent ≠ "container" → s ∈ samplesAt families parent (ownerId parent s) series ∧
        (groups.entity? parent (ownerId parent s)).isSome ∧
        ∀ metric e, Fetch.inheritLabels parent metric child id groups = .error e →
          e = .metricNotFound parent (ownerId parent s) metric) ∧
      (parent = "container" → '_' ∉ (s.label "namespace").toList → '_' ∉ (s.label "container").toList →
        groups.entity? parent (ownerId parent s) = none ∧
        ∀ metric, Fetch.inheritLabels parent metric child id groups =
          .error (.entityNotFound parent (ownerId parent s))) := by
  intro groups
  have hlabels : Carries (ownerIdLabels parent) s := fun name hname =>
    hcarries name (ownerIdLabels_subset parent hname)
  obtain ⟨first, t, hfirst⟩ := exists_isFirstWith hs hlabels
  have howner := parentId_of_isFirstWith hne hfirst
  refine ⟨first, t, hfirst, howner, fun hother => ?_, ?_⟩
  · -- the sample has been put in the group of the owner, since it has the label
    obtain ⟨_, ht, hheld, -, -⟩ := exists_of_raw?_groupByLabels (sample_eq_ok_iff.1 hfirst.stored)
    obtain rfl := RawValue.sample.inj ht
    have hlabel := hfirst.carries parent (mem_ownerIdLabels parent)
    have hid := rawId_eq_ownerId hother t
    have hsome : (groups.entity? parent (ownerId parent t)).isSome := by
      rw [← hid]
      exact isSome_entity?_groupByLabels hparent hheld hlabel
    refine ⟨mem_samplesAt_iff.2 ⟨hheld, hlabel, hid⟩, hsome, fun metric e he => ?_⟩
    rw [inheritLabels_eq howner] at he
    rcases sample_groupByLabels_cases hsome metric with ⟨u, hu⟩ | hmissing
    · rw [hu] at he
      cases he
    · rw [hmissing] at he
      exact (Except.error.inj he).symm
  · rintro rfl hns hname
    have hnone : groups.entity? "container" (ownerId "container" t) = none :=
      entity?_container_eq_none labels families hns hname
    refine ⟨hnone, fun metric => ?_⟩
    rw [inheritLabels_eq howner, sample_of_entity?_eq_none hnone]
    rfl

/-- A pod on a node. -/
def onNode : List Family :=
  [⟨"kube_pod_created", [⟨1.0, .ofList [("namespace", "shop"), ("pod", "web")]⟩]⟩,
    ⟨"kube_pod_info", [⟨1.0, .ofList [("namespace", "shop"), ("pod", "web"), ("node", "node-a"),
      ("label_zone", "a")]⟩]⟩]

theorem owner_of_grouped_onNode :
    let groups := groupByLabels ["namespace", "node", "pod"] onNode
    (∃ s, groups.sample "pod" "shop_web" "kube_pod_info" = .ok s ∧ Carries (idLabels "node") s) ∧
    parentId "node" "pod" "shop_web" groups = .ok "shop_node-a" ∧
    ∀ metric e, Fetch.inheritLabels "node" metric "pod" "shop_web" groups = .error e →
      e = .metricNotFound "node" "shop_node-a" metric := by
  intro groups
  have hs : groups.sample "pod" "shop_web" "kube_pod_info" = .ok ⟨1.0, .ofList [("namespace", "shop"),
      ("pod", "web"), ("node", "node-a"), ("label_zone", "a")]⟩ := by
    rfl
  have hid : parentId "node" "pod" "shop_web" groups = .ok "shop_node-a" := by
    rfl
  have hparent : "node" ∈ ["namespace", "node", "pod"] := by
    decide
  obtain ⟨series, s, -, howner, hother, -⟩ :=
    owner_of_grouped ["namespace", "node", "pod"] onNode hparent (by decide) hs (by decide)
  obtain ⟨-, -, herrors⟩ := hother (by decide)
  have hname : "shop_node-a" = ownerId "node" s := Except.ok.inj (hid.symm.trans howner)
  rw [← hname] at herrors
  exact ⟨⟨_, hs, by decide⟩, hid, herrors⟩

/-- A container of a pod. -/
def webApp : List Family :=
  [⟨"kube_pod_container_info", [⟨1.0, .ofList [("namespace", "shop"), ("pod", "web"), ("container", "app"),
    ("label_tier", "front")]⟩]⟩]

/-- The pod is put in the group of containers too, but its container is not found there. -/
theorem container_of_grouped :
    let groups := groupByLabels ["pod", "container"] webApp
    (∃ s, groups.sample "pod" "shop_web" "kube_pod_container_info" = .ok s ∧
      Carries (idLabels "container") s ∧
      groups.sample "container" "shop_web_app" "kube_pod_container_info" = .ok s) ∧
    Fetch.inheritLabels "container" "kube_pod_container_info" "pod" "shop_web" groups =
      .error (.entityNotFound "container" "shop_app") :=
  ⟨⟨_, rfl, by decide, rfl⟩, by rfl⟩

end NodeTelemetry.StateMetrics
