import NodeTelemetry.Proofs.Kubelet.Entities
import NodeTelemetry.Proofs.Populate.Typing
import NodeTelemetry.Proofs.Value.Doubles

/-!
# The kinds of what the kubelet reports

Grouping writes raw metrics of few kinds, and the specifications of the kubelet read them back. `Founded` says of
raw groups that every entity belongs to a subject that was put, carries its marks and has raw metrics of
the schema of its group; every step of grouping keeps this, also where two subjects share a place. `Typed`
says of a specification that on raw metrics of a schema it gives values of its declared type, or fails because
a raw metric is missing or has no meaning.

## Main definitions

* `Conforms`: raw metrics with the names and kinds of a schema.
* `Founded`: raw groups in which every entity belongs to a subject.
* `Typed`: a specification that reads raw metrics of a schema as they are.

## Main statements

* `Grouped.founded`: raw groups that come about by the steps of grouping are founded.
* `typed_of_mem_specs`: the specifications of the kubelet are typed.
* `cause_of_groupsOf`: what can be recorded when documents are populated.
-/

namespace NodeTelemetry.Kubelet

open Facts

/-! ### Names and kinds -/

/-- The raw metrics that entities of a group can have. -/
def groupSchema (group : String) : Schema := ownSchema group ++ lateSchema group

/-- Raw metrics with the names and kinds of a schema. -/
def Conforms (m : RawMetrics) (schema : Schema) : Prop :=
  ∀ key v, m.get? key = some v → (key, v.kind) ∈ schema

theorem conforms_empty (schema : Schema) : Conforms .empty schema := by
  intro key v hv
  simp at hv

theorem Conforms.insertAll {m : RawMetrics} {schema : Schema} {facts : Facts}
    (h : Conforms m schema) (hfit : facts.Fit schema) : Conforms (m.insertAll facts) schema := by
  intro key v hv
  rw [Facts.get?_insertAll] at hv
  cases hfact : facts.find? key with
  | none =>
    rw [hfact, Option.none_or] at hv
    exact h key v hv
  | some x =>
    rw [hfact, Option.some_or] at hv
    obtain rfl := Option.some.inj hv
    have hmem := List.mem_reverse.1 (TextMap.mem_of_lookup_eq_some hfact)
    exact hfit (key, x) hmem

/-- Raw groups in which every entity belongs to a subject of a list. -/
def Founded (groups : RawGroups) (l : List Subject) : Prop :=
  ∀ g id m, groups.entity? g id = some m →
    ∃ s ∈ l, s.place = (g, id) ∧ s.MarkedBy m ∧ Conforms m (groupSchema g)

namespace Founded

variable {groups : RawGroups} {l : List Subject}

theorem put {s : Subject} {facts : Facts} (h : Founded groups l) (hmark : facts.Mark s)
    (hfit : facts.Fit (ownSchema s.group)) :
    Founded (Kubelet.put groups s.group s.rawId facts) (l ++ [s]) := by
  intro g id m hm
  rw [Kubelet.put, RawGroups.entity?_update] at hm
  split at hm
  · next hplace =>
    obtain ⟨rfl, rfl⟩ := hplace
    obtain rfl := Option.some.inj hm
    -- what stood at this place before belongs to a subject of the same group
    have hold : Conforms ((groups.entity? s.group s.rawId).getD .empty) (groupSchema s.group) := by
      cases hbefore : groups.entity? s.group s.rawId with
      | none => exact conforms_empty _
      | some before =>
        obtain ⟨t, -, -, -, hconforms⟩ := h _ _ _ hbefore
        exact hconforms
    refine ⟨s, by simp, rfl, hmark.markedBy _, hold.insertAll ?_⟩
    exact hfit.mono (List.subset_append_left _ _)
  · obtain ⟨t, ht, hfounded⟩ := h g id m hm
    exact ⟨t, List.mem_append_left _ ht, hfounded⟩

theorem change {group id : String} {f : RawMetrics → RawMetrics} (h : Founded groups l)
    (hf : Adds (lateSchema group) f) : Founded (groups.updateExisting group id f) l := by
  intro g i m hm
  rw [RawGroups.entity?_updateExisting] at hm
  split at hm
  · next hplace =>
    obtain ⟨rfl, rfl⟩ := hplace
    obtain ⟨before, hbefore, rfl⟩ := Option.map_eq_some_iff.1 hm
    obtain ⟨s, hs, hplace, hmarks, hconforms⟩ := h _ _ _ hbefore
    obtain ⟨facts, hfacts, hfit⟩ := hf before
    refine ⟨s, hs, hplace, hmarks.adds hf, ?_⟩
    rw [hfacts]
    exact hconforms.insertAll (hfit.mono (List.subset_append_right _ _))
  · exact h g i m hm

end Founded

theorem Grouped.founded {groups : RawGroups} {l : List Subject} (h : Grouped groups l) :
    Founded groups l := by
  induction h with
  | empty =>
    intro g id m hm
    simp [RawGroups.entity?_empty] at hm
  | put s h hmark hfit ih => exact ih.put hmark hfit
  | change group id h hf ih => exact ih.change hf

/-! ### Specifications on raw metrics of a schema -/

/-- A raw metric of the entity is missing, or a transform found no meaning in its value. -/
def IsGap (group id : String) : FetchError → Prop
  | .metricNotFound g i _ => g = group ∧ i = id
  | .transform _ => True
  | _ => False

/-- A specification that gives values of its declared type on every entity with raw metrics of a schema. -/
def Typed (schema : Schema) (spec : Spec) : Prop :=
  ∀ (groups : RawGroups) (group id : String) (m : RawMetrics), groups.entity? group id = some m →
    Conforms m schema →
      Accepts (fun _ => False) (IsGap group id) spec (spec.fetch group id groups)

/-- In a schema a name only has some kinds. -/
def Only (schema : Schema) (key : String) (kinds : List String) : Prop :=
  ∀ f ∈ schema, f.1 = key → f.2 ∈ kinds

instance (schema : Schema) (key : String) (kinds : List String) : Decidable (Only schema key kinds) :=
  inferInstanceAs (Decidable (∀ f ∈ schema, f.1 = key → f.2 ∈ kinds))

/-- The form of a value of a kind. -/
def OfKind (kind : String) (v : RawValue) : Prop :=
  match kind with
  | "int" => ∃ n, v = .scalar (.int n)
  | "uint" => ∃ n, v = .scalar (.uint n)
  | "string" => ∃ s, v = .scalar (.str s)
  | "bool" => ∃ b, v = .scalar (.bool b)
  | "timestamp" => ∃ t, v = .scalar (.timestamp t)
  | "labels" => ∃ labels, v = .labels labels
  | _ => True

theorem ofKind_kind (v : RawValue) : OfKind v.kind v := by
  cases v with
  | scalar v =>
    cases v with
    | float x => trivial
    | int n => exact ⟨n, rfl⟩
    | uint n => exact ⟨n, rfl⟩
    | str s => exact ⟨s, rfl⟩
    | bool b => exact ⟨b, rfl⟩
    | timestamp t => exact ⟨t, rfl⟩
  | labels labels => exact ⟨labels, rfl⟩
  | sample s => trivial

section Typed

variable {schema : Schema} {name key : String}

/-- A raw metric has one of the kinds of its name, or is missing. -/
theorem metric_cases {groups : RawGroups} {group id : String} {m : RawMetrics} {kinds : List String}
    (hm : groups.entity? group id = some m) (hconforms : Conforms m schema)
    (hkinds : Only schema key kinds) :
    (∃ v, groups.metric group id key = .ok v ∧ ∃ kind ∈ kinds, OfKind kind v) ∨
      groups.metric group id key = .error (.metricNotFound group id key) := by
  cases hv : m.get? key with
  | none => exact .inr (by simp [RawGroups.metric, RawGroups.entity, hm, hv])
  | some v =>
    have hkind := hkinds _ (hconforms key v hv) rfl
    exact .inl ⟨v, RawGroups.metric_eq_ok hm hv, v.kind, hkind, ofKind_kind v⟩

/-- A raw metric through a function is typed if what the function makes of each of its kinds is accepted. -/
theorem typed_thenApply {type : MetricType} {f : Fetched → Except FetchError Fetched}
    {kinds : List String} (hkinds : Only schema key kinds)
    (hf : ∀ kind ∈ kinds, ∀ v, OfKind kind v → ∀ group id,
      Accepts (fun _ => False) (IsGap group id) ⟨name, Fetch.thenApply (Fetch.raw key) f, type⟩
        (f v.fetched)) :
    Typed schema ⟨name, Fetch.thenApply (Fetch.raw key) f, type⟩ := by
  intro groups group id m hm hconforms
  simp only [Fetch.thenApply, Fetch.raw]
  rcases metric_cases hm hconforms hkinds with ⟨v, hv, kind, hkind, hof⟩ | hmissing
  · rw [hv]
    exact hf kind hkind v hof group id
  · rw [hmissing]
    exact ⟨rfl, rfl⟩

theorem raw_eq_thenApply (key : String) : Fetch.raw key = Fetch.thenApply (Fetch.raw key) .ok := by
  funext group id groups
  rw [Fetch.thenApply]
  cases Fetch.raw key group id groups <;> rfl

/-- Amounts and whole numbers are written as they are. -/
theorem typed_number {type : MetricType} (htype : type ≠ .attr) (hname : Unreserved name)
    (hkinds : Only schema key ["uint", "int"]) : Typed schema ⟨name, Fetch.raw key, type⟩ := by
  rw [raw_eq_thenApply]
  refine typed_thenApply hkinds fun kind hkind v hv group id => ?_
  simp only [List.mem_cons, List.not_mem_nil, or_false] at hkind
  rcases hkind with rfl | rfl
  · obtain ⟨n, rfl⟩ := hv
    exact accepts_number hname htype rfl
  · obtain ⟨n, rfl⟩ := hv
    exact accepts_number hname htype rfl

theorem typed_rawGauge (hname : Unreserved name) (hkinds : Only schema key ["uint", "int"]) :
    Typed schema (Catalog.rawGauge name key) :=
  typed_number (by decide) hname hkinds

theorem typed_rawRate (hname : Unreserved name) (hkinds : Only schema key ["uint", "int"]) :
    Typed schema (Catalog.rawRate name key) :=
  typed_number (by decide) hname hkinds

theorem typed_rawAttribute (hname : Unreserved name) (hkinds : Only schema name ["string"]) :
    Typed schema (Catalog.rawAttribute name) := by
  rw [Catalog.rawAttribute, raw_eq_thenApply]
  refine typed_thenApply hkinds fun kind hkind v hv group id => ?_
  obtain rfl := List.mem_singleton.1 hkind
  obtain ⟨s, rfl⟩ := hv
  exact accepts_text hname s

theorem typed_ownLabels (hkinds : Only schema "labels" ["labels"]) :
    Typed schema Catalog.ownLabels := by
  refine typed_thenApply hkinds fun kind hkind v hv group id => ?_
  obtain rfl := List.mem_singleton.1 hkind
  obtain ⟨labels, rfl⟩ := hv
  refine accepts_labels fun x hx => ?_
  obtain ⟨⟨label, value⟩, hmem, rfl⟩ := List.mem_map.1 (TextMap.mem_of_mem_entries_ofList hx)
  obtain ⟨⟨label', text⟩, -, heq⟩ := List.mem_map.1 hmem
  obtain ⟨rfl, rfl⟩ := Prod.mk.inj heq
  exact ⟨label', text, rfl⟩

/-! ### Transforms -/

theorem numeric_float {x : Float} (hx : x.isFinite = true) :
    Numeric (.ok (.scalar (.float x))) :=
  ⟨.float x, if_pos hx⟩

theorem typed_gaugeThrough {f : Fetched → Except FetchError Fetched} {kinds : List String}
    (hname : Unreserved name) (hkinds : Only schema key kinds)
    (hf : ∀ kind ∈ kinds, ∀ v, OfKind kind v → Numeric (f v.fetched)) :
    Typed schema (Catalog.gaugeThrough name key f) :=
  typed_thenApply hkinds fun kind hkind v hv _ _ =>
    accepts_of_numeric hname (fun _ => trivial) (hf kind hkind v hv)

theorem typed_gaugeThrough_single {f : Fetched → Except FetchError Fetched} {kind : String}
    (hname : Unreserved name) (hkind : Only schema key [kind])
    (hf : ∀ v, OfKind kind v → Numeric (f v.fetched)) :
    Typed schema (Catalog.gaugeThrough name key f) := by
  refine typed_gaugeThrough hname hkind fun kind' hmem v hv => ?_
  obtain rfl := List.mem_singleton.1 hmem
  exact hf v hv

theorem typed_toSeconds (hname : Unreserved name) (hkind : Only schema key ["timestamp"]) :
    Typed schema (Catalog.gaugeThrough name key Transform.toSeconds) := by
  refine typed_gaugeThrough_single hname hkind ?_
  rintro _ ⟨t, rfl⟩
  exact ⟨_, rfl⟩

theorem typed_toNumericBoolean (hname : Unreserved name)
    (hkinds : Only schema key ["string", "bool"]) :
    Typed schema (Catalog.gaugeThrough name key Transform.toNumericBoolean) := by
  refine typed_gaugeThrough hname hkinds fun kind hkind v hv => ?_
  simp only [List.mem_cons, List.not_mem_nil, or_false] at hkind
  rcases hkind with rfl | rfl
  · obtain ⟨s, rfl⟩ := hv
    exact numeric_toNumericBoolean _
  · obtain ⟨b, rfl⟩ := hv
    exact numeric_toNumericBoolean _

theorem typed_toCoresFromNano (hname : Unreserved name) (hkind : Only schema key ["uint"]) :
    Typed schema (Catalog.gaugeThrough name key Transform.toCoresFromNano) := by
  refine typed_gaugeThrough_single hname hkind ?_
  rintro _ ⟨n, rfl⟩
  exact numeric_float (Double.isFinite_div_billion n)

theorem typed_toMilliFromNano (hname : Unreserved name) (hkind : Only schema key ["uint"]) :
    Typed schema (Catalog.gaugeThrough name key Transform.toMilliFromNano) := by
  refine typed_gaugeThrough_single hname hkind ?_
  rintro _ ⟨n, rfl⟩
  exact numeric_float (Double.isFinite_div_million n)

theorem typed_toCores (hname : Unreserved name) (hkind : Only schema key ["int"]) :
    Typed schema (Catalog.gaugeThrough name key Transform.toCores) := by
  refine typed_gaugeThrough_single hname hkind ?_
  rintro _ ⟨n, rfl⟩
  exact numeric_float (Double.isFinite_div_thousand n)

/-! ### Fetches of their own -/

theorem typed_persistentVolume (hname : Unreserved name) :
    Typed schema ⟨name, Fetch.persistentVolume, .attr⟩ :=
  fun _ _ _ _ _ _ => accepts_text hname _

theorem typed_fileSystemUse (hused : Only schema "fsUsedBytes" ["uint"])
    (havailable : Only schema "fsAvailableBytes" ["uint"]) :
    Typed schema Catalog.fileSystemUse := by
  intro groups group id m hm hconforms
  simp only [Catalog.fileSystemUse, Fetch.complementPercentage, Fetch.raw]
  rcases metric_cases hm hconforms havailable with ⟨v, hv, kind, hkind, hof⟩ | hmissing
  · obtain rfl := List.mem_singleton.1 hkind
    obtain ⟨available, rfl⟩ := hof
    rcases metric_cases hm hconforms hused with ⟨v, hv', kind, hkind, hof⟩ | hmissing
    · obtain rfl := List.mem_singleton.1 hkind
      obtain ⟨used, rfl⟩ := hof
      refine accepts_of_numeric (by decide) (fun _ => trivial) ?_
      rw [hv, hv']
      change Numeric (if Fetch.saturatingTotal used available = 0 then _ else _)
      split
      · exact ⟨_, rfl⟩
      · next htotal => exact numeric_float (Double.isFinite_percentage used available htotal)
    · rw [hv, hmissing]
      exact ⟨rfl, rfl⟩
  · rw [hmissing]
    exact ⟨rfl, rfl⟩

end Typed

/-! ### The specifications of the kubelet -/

theorem typed_networkSpecs {schema : Schema}
    (hkinds : ∀ key ∈ ["rxBytes", "txBytes", "errors"], Only schema key ["uint", "int"]) :
    ∀ spec ∈ Catalog.networkSpecs, Typed schema spec := by
  simp only [Catalog.networkSpecs, List.forall_mem_cons, List.not_mem_nil, false_implies,
    implies_true, and_true] at hkinds ⊢
  obtain ⟨hreceived, hsent, herrors⟩ := hkinds
  exact ⟨typed_rawRate (by decide) hreceived, typed_rawRate (by decide) hsent,
    typed_rawRate (by decide) herrors⟩

theorem typed_fileSystemSpecs {schema : Schema} (which : String)
    (h : ∀ name ∈ ["AvailableBytes", "CapacityBytes", "UsedBytes", "InodesFree", "Inodes",
      "InodesUsed"], Unreserved (which ++ name) ∧ Only schema (which ++ name) ["uint", "int"]) :
    ∀ spec ∈ Catalog.fileSystemSpecs which, Typed schema spec := by
  intro spec hspec
  obtain ⟨name, hname, rfl⟩ := List.mem_map.1 hspec
  obtain ⟨hfree, hkinds⟩ := h name hname
  exact typed_rawGauge hfree hkinds

theorem typed_podSpecs : ∀ spec ∈ Catalog.podSpecs.specs, Typed (groupSchema "pod") spec := by
  simp only [Catalog.podSpecs, List.forall_mem_append, List.forall_mem_cons, List.not_mem_nil,
    false_implies, implies_true, and_true]
  exact ⟨typed_networkSpecs (by decide), typed_toSeconds (by decide) (by decide),
    typed_toSeconds (by decide) (by decide), typed_rawAttribute (by decide) (by decide),
    typed_rawAttribute (by decide) (by decide), typed_rawAttribute (by decide) (by decide),
    typed_rawAttribute (by decide) (by decide), typed_rawAttribute (by decide) (by decide),
    typed_rawAttribute (by decide) (by decide), typed_toNumericBoolean (by decide) (by decide),
    typed_rawAttribute (by decide) (by decide), typed_toNumericBoolean (by decide) (by decide),
    typed_rawAttribute (by decide) (by decide), typed_ownLabels (by decide)⟩

theorem typed_containerSpecs :
    ∀ spec ∈ Catalog.containerSpecs.specs, Typed (groupSchema "container") spec := by
  simp only [Catalog.containerSpecs, List.forall_mem_append, List.forall_mem_cons, List.not_mem_nil,
    false_implies, implies_true, and_true]
  refine ⟨⟨⟨?_, ?_, ?_⟩, typed_fileSystemSpecs "fs" (by decide)⟩, ?_⟩
  · exact typed_rawGauge (by decide) (by decide)
  · exact typed_rawGauge (by decide) (by decide)
  · exact typed_toCoresFromNano (by decide) (by decide)
  · exact ⟨typed_fileSystemUse (by decide) (by decide), typed_rawAttribute (by decide) (by decide),
      typed_rawAttribute (by decide) (by decide), typed_rawAttribute (by decide) (by decide),
      typed_rawAttribute (by decide) (by decide), typed_rawAttribute (by decide) (by decide),
      typed_rawAttribute (by decide) (by decide), typed_rawAttribute (by decide) (by decide),
      typed_rawAttribute (by decide) (by decide), typed_rawAttribute (by decide) (by decide),
      typed_rawGauge (by decide) (by decide), typed_toCores (by decide) (by decide),
      typed_toCores (by decide) (by decide), typed_rawGauge (by decide) (by decide),
      typed_rawGauge (by decide) (by decide), typed_rawAttribute (by decide) (by decide),
      typed_toNumericBoolean (by decide) (by decide), typed_rawAttribute (by decide) (by decide),
      typed_toSeconds (by decide) (by decide), typed_ownLabels (by decide)⟩

theorem typed_nodeSpecs : ∀ spec ∈ Catalog.nodeSpecs.specs, Typed (groupSchema "node") spec := by
  simp only [Catalog.nodeSpecs, List.forall_mem_append, List.forall_mem_cons, List.not_mem_nil,
    false_implies, implies_true, and_true]
  refine ⟨⟨⟨⟨?_, typed_networkSpecs (by decide)⟩, typed_fileSystemSpecs "fs" (by decide)⟩,
    typed_fileSystemSpecs "runtime" (by decide)⟩, typed_ownLabels (by decide)⟩
  exact ⟨typed_rawAttribute (by decide) (by decide), typed_toCoresFromNano (by decide) (by decide),
    typed_toMilliFromNano (by decide) (by decide), typed_rawGauge (by decide) (by decide),
    typed_rawGauge (by decide) (by decide), typed_rawGauge (by decide) (by decide),
    typed_rawGauge (by decide) (by decide), typed_rawGauge (by decide) (by decide),
    typed_rawRate (by decide) (by decide)⟩

theorem typed_volumeSpecs :
    ∀ spec ∈ Catalog.volumeSpecs.specs, Typed (groupSchema "volume") spec := by
  simp only [Catalog.volumeSpecs, List.forall_mem_append, List.forall_mem_cons, List.not_mem_nil,
    false_implies, implies_true, and_true]
  refine ⟨⟨?_, typed_fileSystemSpecs "fs" (by decide)⟩,
    typed_fileSystemUse (by decide) (by decide)⟩
  exact ⟨typed_rawAttribute (by decide) (by decide), typed_rawAttribute (by decide) (by decide),
    typed_rawAttribute (by decide) (by decide), typed_persistentVolume (by decide),
    typed_rawAttribute (by decide) (by decide), typed_rawAttribute (by decide) (by decide)⟩

theorem typed_of_mem_specs (s : Subject) :
    ∀ spec ∈ s.specs.specs, Typed (groupSchema s.group) spec := by
  cases s with
  | pod ns name => exact typed_podSpecs
  | container ns p name => exact typed_containerSpecs
  | volume ns p name => exact typed_volumeSpecs
  | node name => exact typed_nodeSpecs

/-! ### What can be recorded -/

/-- A raw entity that belongs to a subject has a key, unless the name of its entity is empty. -/
theorem cause_of_keyOf_error {cluster : String} {groups : RawGroups} {s : Subject} {m : RawMetrics}
    {cause : PopulateCause} (hm : groups.entity? s.group s.rawId = some m) (hmarks : s.MarkedBy m)
    (h : (Catalog.populator cluster).keyOf s.specs s.group s.rawId groups = .error cause) :
    cause = .entity .missingKey ∧ s.entityName = "" := by
  have hname := nameOf_of_marked hm hmarks
  have htype := typeOf_of_marked cluster hm hmarks
  rcases Populator.keyOf_eq_error_iff.1 h with ⟨e, he, -⟩ | ⟨_, e, -, he, -⟩ |
    ⟨name, type, hname', htype', hempty, rfl⟩
  · rw [hname] at he
    simp at he
  · rw [show (Catalog.populator cluster).cluster = cluster from rfl, htype] at he
    simp at he
  · rw [hname] at hname'
    rw [show (Catalog.populator cluster).cluster = cluster from rfl, htype] at htype'
    obtain rfl := Except.ok.inj hname'
    obtain rfl := Except.ok.inj htype'
    exact ⟨rfl, hempty.resolve_right (s.entityType_ne_empty cluster)⟩

/-- What is recorded for a subject is the empty name of its entity, or a gap in what is reported. -/
theorem cause_of_founded {cluster : String} {groups : RawGroups} {s : Subject} {m : RawMetrics}
    {cause : PopulateCause} (hm : groups.entity? s.group s.rawId = some m) (hmarks : s.MarkedBy m)
    (hconforms : Conforms m (groupSchema s.group))
    (h : cause ∈ ((Catalog.populator cluster).report s.specs s.group s.rawId groups).causes) :
    (cause = .entity .missingKey ∧ s.entityName = "") ∨
      ∃ metric e, cause = .fetch metric e ∧ IsGap s.group s.rawId e := by
  have hgroup : s.group ≠ "" := by
    cases s <;> simp [Subject.group]
  have haccepts := fun spec hspec =>
    typed_of_mem_specs s spec hspec groups s.group s.rawId m hm hconforms
  rcases Catalog.cause_of_accepts hgroup haccepts h with hkey | hgap | ⟨w, e, -, -, hrefused⟩
  · exact .inl (cause_of_keyOf_error hm hmarks hkey)
  · exact .inr hgap
  · exact hrefused.elim

/-- The specifications of the kubelet agree with what its grouping produces, whatever the documents, the series and
the labels of the node are: a raw metric can be missing or have no meaning, an entity can have an empty name,
and nothing else is ever recorded. -/
theorem cause_of_groupsOf (cluster : String) (w : Surroundings) (timeout : Time.Span)
    (pods : List Cluster.Pod) (summary : Summary) (series : Except GroupError (List Family))
    (store : EntityStore) :
    ∀ e ∈ ((Catalog.populator cluster).populate (groupsOf w timeout pods summary series)
        Catalog.kubeletSpecs store).1.errors,
      (∃ metric key, e.cause = .fetch metric (.metricNotFound e.group e.id key)) ∨
        (∃ metric reason, e.cause = .fetch metric (.transform reason)) ∨
        e.cause = .entity .missingKey ∧ ∃ s ∈ reported pods summary, s.place = (e.group, e.id) ∧
          ((∃ ns, s = .pod ns "") ∨ ∃ ns pod, s = .container ns pod "") := by
  rintro ⟨group, id, cause⟩ he
  obtain ⟨spec, hspec, hsome, hcause⟩ := Populator.mem_errors_iff.1 he
  obtain ⟨m, hm⟩ := Option.isSome_iff_exists.1 hsome
  obtain ⟨s, hs, hplace, hmarks, hconforms⟩ :=
    (grouped_groupsOf w timeout pods summary series).founded group id m hm
  obtain ⟨rfl, rfl⟩ := Prod.mk.inj hplace
  obtain rfl := Option.some.inj ((get?_kubeletSpecs s).symm.trans hspec)
  rcases cause_of_founded hm hmarks hconforms hcause with ⟨rfl, hempty⟩ | ⟨metric, e, rfl, hgap⟩
  · refine .inr (.inr ⟨rfl, s, hs, rfl, ?_⟩)
    -- volumes and the node always have a name
    cases s with
    | pod ns name => exact .inl ⟨ns, congrArg (Subject.pod ns) hempty⟩
    | container ns p name => exact .inr ⟨ns, p, congrArg (Subject.container ns p) hempty⟩
    | volume ns p name => exact absurd hempty (partId_ne_empty ns p name)
    | node name => exact absurd hempty (node_ne_empty hs)
  · cases e with
    | metricNotFound g i key =>
      obtain ⟨rfl, rfl⟩ := hgap
      exact .inl ⟨metric, key, rfl⟩
    | transform reason => exact .inr (.inl ⟨metric, reason, rfl⟩)
    | entityNotFound g i => exact hgap.elim
    | labelNotFound key label => exact hgap.elim
    | incompatibleType key expected found => exact hgap.elim

/-- A pod with a container that has no name. -/
def namelessPod : Cluster.Pod :=
  { shopPod with spec := some ⟨some "node-a", [⟨"", none, .empty, .empty⟩]⟩ }

theorem cause_of_nameless :
    (⟨"container", "shop_web-1_", .entity .missingKey⟩ : PopulateError) ∈
        ((Catalog.populator "prod").populate
          (groupsOf .unreachable (.ofSeconds 5) [namelessPod] shopSummary (.ok []))
          Catalog.kubeletSpecs .empty).1.errors ∧
      ∃ ns pod, Subject.container ns pod "" ∈ reported [namelessPod] shopSummary := by
  have he : (⟨"container", "shop_web-1_", .entity .missingKey⟩ : PopulateError) ∈
      ((Catalog.populator "prod").populate
        (groupsOf .unreachable (.ofSeconds 5) [namelessPod] shopSummary (.ok []))
        Catalog.kubeletSpecs .empty).1.errors := by
    decide +kernel
  refine ⟨he, ?_⟩
  rcases cause_of_groupsOf "prod" .unreachable (.ofSeconds 5) [namelessPod] shopSummary (.ok [])
      .empty _ he with ⟨metric, key, h⟩ | ⟨metric, reason, h⟩ | ⟨-, s, hs, hplace, hnameless⟩
  · simp at h
  · simp at h
  · rcases hnameless with ⟨ns, rfl⟩ | ⟨ns, pod, rfl⟩
    · simp [Subject.place, Subject.group] at hplace
    · exact ⟨ns, pod, hs⟩

end NodeTelemetry.Kubelet
