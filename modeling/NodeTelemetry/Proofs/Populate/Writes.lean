import NodeTelemetry.Proofs.Populate.Steps
import NodeTelemetry.Proofs.Text.ByteOrder

/-!
# The writes behind a metric set

A metric set is made by writes alone: first those of the manipulators, each of which is given the set as the
manipulators before it left it, and then those of the specifications. A refused write changes nothing, and an
accepted one replaces what stood under its name. So under every name the set has what the last accepted write
stored there.

## Main definitions

* `Refused`, `LastAccepted`: what a list of writes leaves under a name.
* `Populator.manipulations`: what the manipulators do, one after the other.
* `Spec.writes`, `Populator.writes`: the writes of a specification, and all writes of a raw entity.

## Main statements

* `MetricSet.has_foldl_attempt_iff`: a set after a list of writes.
* `Populator.metricSet_eq`: the metric set of a raw entity, by its writes.
* `Populator.metrics_of_appended`: the metrics of every set that a run adds.
-/

namespace NodeTelemetry

/-! ### A list of writes -/

/-- Every write under a name is refused. -/
def Refused (writes : List Write) (name : String) : Prop :=
  ∀ w ∈ writes, w.name = name → ∃ e, w.stored = .error e

/-- The last accepted write under a name stores a metric. -/
def LastAccepted (writes : List Write) (name : String) (m : Metric) : Prop :=
  ∃ before w after, writes = before ++ w :: after ∧
    w.name = name ∧ w.stored = .ok m.value ∧ w.type = m.type ∧ Refused after name

theorem refused_cons_iff {w : Write} {rest : List Write} {name : String} :
    Refused (w :: rest) name ↔ (w.name = name → ∃ e, w.stored = .error e) ∧ Refused rest name :=
  List.forall_mem_cons

theorem LastAccepted.not_refused {writes : List Write} {name : String} {m : Metric}
    (h : LastAccepted writes name m) : ¬ Refused writes name := by
  obtain ⟨before, w, after, rfl, hname, hstored, -⟩ := h
  intro hrefused
  obtain ⟨e, he⟩ := hrefused w (by simp) hname
  rw [hstored] at he
  cases he

/-- Under every name all writes are refused, or one of them is the last accepted one. -/
theorem refused_or_lastAccepted (writes : List Write) (name : String) :
    Refused writes name ∨ ∃ m, LastAccepted writes name m := by
  induction writes with
  | nil => exact .inl fun w hw => by cases hw
  | cons w rest ih =>
    rcases ih with hrest | ⟨m, before, w', after, rfl, hlast⟩
    · by_cases hw : w.name = name → ∃ e, w.stored = .error e
      · exact .inl (refused_cons_iff.2 ⟨hw, hrest⟩)
      · obtain ⟨hname, hnot⟩ := Classical.not_imp.1 hw
        cases hv : w.stored with
        | error e => exact absurd ⟨e, hv⟩ hnot
        | ok v => exact .inr ⟨⟨v, w.type⟩, [], w, rest, rfl, hname, hv, rfl, hrest⟩
    · exact .inr ⟨m, w :: before, w', after, rfl, hlast⟩

namespace MetricSet

/-! ### One write -/

/-- An accepted write puts its value into one map and its type into the other. -/
theorem has_attempt_of_ok (s : MetricSet) {w : Write} {v : MetricValue} (h : w.stored = .ok v) :
    (s.attempt w).Has w.name ⟨v, w.type⟩ := by
  rw [s.attempt_of_ok h]
  exact ⟨TextMap.get?_insert_self _ _ _, TextMap.get?_insert_self _ _ _⟩

/-- A write changes nothing under other names, and nothing at all if it is refused. -/
theorem lookups_attempt_of_refused (s : MetricSet) {w : Write} {name : String}
    (h : w.name = name → ∃ e, w.stored = .error e) :
    (s.attempt w).value? name = s.value? name ∧ (s.attempt w).type? name = s.type? name := by
  cases hw : w.stored with
  | error e =>
    rw [s.attempt_of_error hw]
    exact ⟨rfl, rfl⟩
  | ok v =>
    have hne : name ≠ w.name := by
      intro hname
      obtain ⟨e, he⟩ := h hname.symm
      rw [hw] at he
      cases he
    rw [s.attempt_of_ok hw]
    exact ⟨TextMap.get?_insert_of_ne _ _ hne, TextMap.get?_insert_of_ne _ _ hne⟩

theorem has_attempt_iff_of_refused (s : MetricSet) {w : Write} {name : String} {m : Metric}
    (h : w.name = name → ∃ e, w.stored = .error e) : (s.attempt w).Has name m ↔ s.Has name m := by
  obtain ⟨hvalue, htype⟩ := s.lookups_attempt_of_refused h
  rw [Has, Has, hvalue, htype]

/-! ### A list of writes -/

variable {writes : List Write} {s : MetricSet} {name : String} {m : Metric}

/-- Where all writes are refused a name keeps what it has. -/
theorem lookups_foldl_of_refused (h : Refused writes name) :
    (writes.foldl attempt s).value? name = s.value? name ∧
      (writes.foldl attempt s).type? name = s.type? name := by
  induction writes generalizing s with
  | nil => exact ⟨rfl, rfl⟩
  | cons w rest ih =>
    obtain ⟨hw, hrest⟩ := refused_cons_iff.1 h
    obtain ⟨hvalue, htype⟩ := s.lookups_attempt_of_refused hw
    obtain ⟨hvalues, htypes⟩ := ih (s := s.attempt w) hrest
    exact ⟨hvalues.trans hvalue, htypes.trans htype⟩

/-- The last accepted write leaves its metric, whatever the writes behind it ask for. -/
theorem has_foldl_of_lastAccepted (h : LastAccepted writes name m) : (writes.foldl attempt s).Has name m := by
  obtain ⟨before, w, after, rfl, rfl, hstored, htype, hafter⟩ := h
  obtain ⟨hvalue', htype'⟩ :=
    lookups_foldl_of_refused (s := (before.foldl attempt s).attempt w) hafter
  obtain ⟨hvalue, hdeclared⟩ := (before.foldl attempt s).has_attempt_of_ok hstored
  rw [List.foldl_append, List.foldl_cons]
  exact ⟨hvalue'.trans hvalue, htype'.trans (hdeclared.trans (congrArg some htype))⟩

/-- After writes a name has what the last accepted write stored, or what it had if none was accepted. -/
theorem has_foldl_attempt_iff : (writes.foldl attempt s).Has name m ↔
    LastAccepted writes name m ∨ (Refused writes name ∧ s.Has name m) := by
  rcases refused_or_lastAccepted writes name with hrefused | ⟨m', hlast⟩
  · obtain ⟨hvalue, htype⟩ := lookups_foldl_of_refused (s := s) hrefused
    have hnot : ¬ LastAccepted writes name m := fun h => h.not_refused hrefused
    rw [Has, Has, hvalue, htype]
    simp [hnot, hrefused]
  · have hhas : (writes.foldl attempt s).Has name m' := has_foldl_of_lastAccepted hlast
    constructor
    · intro h
      obtain ⟨v, type⟩ := m
      obtain ⟨v', type'⟩ := m'
      obtain rfl : v' = v := Option.some.inj (hhas.1.symm.trans h.1)
      obtain rfl : type' = type := Option.some.inj (hhas.2.symm.trans h.2)
      exact .inl hlast
    · rintro (h | ⟨hrefused, -⟩)
      · exact has_foldl_of_lastAccepted h
      · exact absurd hrefused hlast.not_refused

/-- After writes a name has no value where none was accepted and it had none before. -/
theorem value?_foldl_attempt_eq_none_iff :
    (writes.foldl attempt s).value? name = none ↔ Refused writes name ∧ s.value? name = none := by
  rcases refused_or_lastAccepted writes name with hrefused | ⟨m', hlast⟩
  · rw [(lookups_foldl_of_refused hrefused).1, and_iff_right hrefused]
  · simp [(has_foldl_of_lastAccepted (s := s) hlast).1, hlast.not_refused]

/-- After writes a name has no type where none was accepted and it had none before. -/
theorem type?_foldl_attempt_eq_none_iff :
    (writes.foldl attempt s).type? name = none ↔ Refused writes name ∧ s.type? name = none := by
  rcases refused_or_lastAccepted writes name with hrefused | ⟨m', hlast⟩
  · rw [(lookups_foldl_of_refused hrefused).2, and_iff_right hrefused]
  · simp [(has_foldl_of_lastAccepted (s := s) hlast).2, hlast.not_refused]

end MetricSet

/-! ### The writes of a raw entity -/

/-- The writes of a specification: one where one value is fetched, one for each of several values in the order of their
names, and none where the fetch fails. -/
def Spec.writes (spec : Spec) (group id : String) (groups : RawGroups) : List Write :=
  match spec.fetch group id groups with
  | .ok (.scalar v) => [⟨spec.name, v, spec.type⟩]
  | .ok (.multi values) => values.entries.map fun x => ⟨x.1, x.2, spec.type⟩
  | .error _ => []

section Specs

variable {spec : Spec} {group id : String} {groups : RawGroups}

theorem Spec.writes_of_ok {v : Fetched} (h : spec.fetch group id groups = .ok v) :
    spec.writes group id groups = (v.values spec.name).map fun x => ⟨x.1, x.2, spec.type⟩ := by
  rw [writes, h]
  cases v <;> rfl

theorem Spec.writes_of_error {e : FetchError} (h : spec.fetch group id groups = .error e) :
    spec.writes group id groups = [] := by
  rw [writes, h]

/-- Several values are written under their own names. -/
theorem Spec.mem_writes_multi_iff {values : TextMap Scalar} {w : Write}
    (h : spec.fetch group id groups = .ok (.multi values)) :
    w ∈ spec.writes group id groups ↔ values.get? w.name = some w.value ∧ w.type = spec.type := by
  obtain ⟨name, value, type⟩ := w
  simp only [writes, h, List.mem_map, TextMap.get?_eq_some_iff, Write.mk.injEq]
  constructor
  · rintro ⟨⟨_, _⟩, hmem, rfl, rfl, rfl⟩
    exact ⟨hmem, rfl⟩
  · rintro ⟨hmem, rfl⟩
    exact ⟨_, hmem, rfl, rfl, rfl⟩

/-- Several values are written in the order of the bytes of their names. -/
theorem Spec.writes_multi_sorted {values : TextMap Scalar}
    (h : spec.fetch group id groups = .ok (.multi values)) :
    (spec.writes group id groups).Pairwise fun w w' => Text.bytes w.name < Text.bytes w'.name := by
  simp only [writes, h, List.pairwise_map]
  exact values.sorted.imp fun hlt => (Text.lt_iff_bytes_lt _ _).1 hlt

/-- The attempts of a specification leave what its writes leave. -/
theorem Attempt.foldl_apply_ofSpec (s : MetricSet) :
    (ofSpec group id groups spec).foldl apply s =
      (spec.writes group id groups).foldl MetricSet.attempt s := by
  rw [ofSpec, Spec.writes]
  cases spec.fetch group id groups with
  | error e => rfl
  | ok v =>
    cases v with
    | scalar v => rfl
    | multi values => simp only [List.foldl_map, apply]

end Specs

namespace Populator

/-- What manipulators do, one after the other: each is given the set as those before it left it. -/
def manipulations (key : EntityKey) (cluster : String) :
    List Manipulator → MetricSet → List Manipulation
  | [], _ => []
  | m :: rest, s =>
    let done := m s key cluster
    done :: manipulations key cluster rest (done.writes.foldl MetricSet.attempt s)

/-- Manipulators leave what their writes leave, and each failure among them counts. -/
theorem manipulate_eq (key : EntityKey) (cluster : String) (ms : List Manipulator) (s : MetricSet) :
    manipulate key cluster ms s =
      let done := manipulations key cluster ms s
      ((done.flatMap Manipulation.writes).foldl MetricSet.attempt s,
        done.filterMap Manipulation.failure) := by
  induction ms generalizing s with
  | nil => rfl
  | cons m rest ih =>
    rw [manipulate, manipulations, ih]
    simp only [List.flatMap_cons, List.foldl_append, List.filterMap_cons]
    cases (m s key cluster).failure <;> rfl

/-- All writes of a raw entity with a key and an event type: those of the manipulators and behind them those of the
specifications. -/
def writes (p : Populator) (specs : SpecGroup) (group id : String) (groups : RawGroups)
    (key : EntityKey) (eventType : String) : List Write :=
  (manipulations key p.cluster p.manipulators (.ofEventType eventType)).flatMap Manipulation.writes ++
    specs.specs.flatMap fun spec => spec.writes group id groups

/-- The metric set of a raw entity is what its writes make of a fresh set. -/
theorem metricSet_eq (p : Populator) (specs : SpecGroup) (group id : String) (groups : RawGroups)
    (key : EntityKey) (eventType : String) :
    p.metricSet specs group id groups key eventType =
      (p.writes specs group id groups key eventType).foldl MetricSet.attempt
        (.ofEventType eventType) := by
  rw [metricSet, manipulate_eq, writes, List.foldl_append, attempts, List.foldl_flatMap,
    List.foldl_flatMap]
  congr 1
  funext s spec
  exact Attempt.foldl_apply_ofSpec s

variable {p : Populator} {groups : RawGroups} {specs : SpecGroups}

/-- The set that a run adds for a raw entity has, under every name, what the last accepted of the writes of that raw
entity stored there, and nothing where none was accepted. -/
theorem metrics_of_appended (p : Populator) (groups : RawGroups) (specs : SpecGroups)
    {group id : String} {key : EntityKey} {set : MetricSet}
    (h : ((group, id), Step.append key set) ∈ p.stepsBy groups specs) :
    (∀ store : EntityStore, store.Built →
      ∃ e ∈ (p.populate groups specs store).2.entities.toList, e.key = key ∧ set ∈ e.sets) ∧
    ∃ spec eventType, specs.get? group = some spec ∧
      p.keyOf spec group id groups = .ok key ∧
      p.eventTyper p.cluster group id groups = .ok eventType ∧ set.eventType = eventType ∧
      (∀ name m, set.Has name m ↔ LastAccepted (p.writes spec group id groups key eventType) name m) ∧
      (∀ name, (set.value? name = none ↔ Refused (p.writes spec group id groups key eventType) name) ∧
        (set.type? name = none ↔ Refused (p.writes spec group id groups key eventType) name)) ∧
      ∀ s ∈ spec.specs, ∀ values, s.fetch group id groups = .ok (.multi values) →
        ((s.writes group id groups).Pairwise fun w w' => Text.bytes w.name < Text.bytes w'.name) ∧
        ∀ w, w ∈ s.writes group id groups ↔ values.get? w.name = some w.value ∧ w.type = s.type := by
  obtain ⟨spec, hspec, -, hstep⟩ := mem_stepsBy_iff.1 h
  obtain ⟨hkey, ⟨eventType, htype, hset⟩, -⟩ := report_step_append_iff.1 hstep
  have hwrites := p.metricSet_eq spec group id groups key eventType
  rw [← hset] at hwrites
  refine ⟨fun store hstore => ?_, spec, eventType, hspec, hkey, htype, ?_, fun name m => ?_,
    fun name => ?_, fun s _ values hfetch => ?_⟩
  · exact mem_sets_of_mem_stepsBy hstore.indexed h
  · rw [hset, eventType_metricSet]
  · rw [hwrites, MetricSet.has_foldl_attempt_iff]
    simp [MetricSet.Has]
  · rw [hwrites, MetricSet.value?_foldl_attempt_eq_none_iff, MetricSet.type?_foldl_attempt_eq_none_iff]
    simp
  · exact ⟨Spec.writes_multi_sorted hfetch, fun w => Spec.mem_writes_multi_iff hfetch⟩

/-- A raw pod with a name to display, and a number of replicas. -/
def namedPod : RawGroups :=
  .ofList [("pod", .ofList [("a", .ofList [("alias", .scalar (.str "Shop")),
    ("replicas", .scalar (.uint 2))])])]

/-- Specifications of pods of which two write under a name that a manipulator writes under, the second in vain. -/
def overlappingPod : SpecGroup :=
  ⟨none, some fun _ _ _ cluster => .ok cluster,
    [⟨"displayName", Fetch.raw "alias", .attr⟩, ⟨"displayName", Fetch.raw "replicas", .attr⟩,
      ⟨"label.*", fun _ _ _ => .ok (.multi (.ofList [("label.app", .str "web")])), .attr⟩]⟩

theorem metrics_of_appended_overlapping :
    ∃ set, (("pod", "a"), Step.append ⟨"a", "prod"⟩ set) ∈
        (Catalog.populator "prod").stepsBy namedPod (.ofList [("pod", overlappingPod)]) ∧
      set.Has "displayName" ⟨.text "Shop", .attr⟩ ∧ set.Has "label.app" ⟨.text "web", .attr⟩ ∧
      set.value? "label.*" = none ∧ set.type? "label.*" = none := by
  have hkey : (Catalog.populator "prod").keyOf overlappingPod "pod" "a" namedPod =
      .ok ⟨"a", "prod"⟩ := rfl
  have htype : (Catalog.populator "prod").eventTyper "prod" "pod" "a" namedPod =
      .ok "K8sPodSample" := rfl
  have haccepted : (attempts overlappingPod "pod" "a" namedPod).any Attempt.isAccepted = true := by
    decide +kernel
  have hstep := report_step_append hkey htype haccepted
  have hspecs : (TextMap.ofList [("pod", overlappingPod)]).get? "pod" = some overlappingPod := rfl
  have hmem := mem_stepsBy_iff.2 ⟨overlappingPod, hspecs, rfl, hstep⟩
  have hwrites : (Catalog.populator "prod").writes overlappingPod "pod" "a" namedPod ⟨"a", "prod"⟩
      "K8sPodSample" = [⟨"clusterName", .str "prod", .attr⟩, ⟨"displayName", .str "a", .attr⟩,
        ⟨"entityName", .str "prod:a", .attr⟩, ⟨"displayName", .str "Shop", .attr⟩,
        ⟨"displayName", .uint 2, .attr⟩, ⟨"label.app", .str "web", .attr⟩] := rfl
  obtain ⟨-, spec, eventType, hspec, -, htype', -, hsome, hnone, -⟩ := metrics_of_appended _ _ _ hmem
  obtain rfl : overlappingPod = spec := Option.some.inj hspec
  obtain rfl : "K8sPodSample" = eventType := Except.ok.inj htype'
  rw [hwrites] at hsome hnone
  refine ⟨_, hmem, (hsome _ _).2 ?_, (hsome _ _).2 ?_, (hnone _).1.2 ?_, (hnone _).2.2 ?_⟩
  · refine ⟨_ :: _ :: _ :: [], _, _, rfl, rfl, rfl, rfl, ?_⟩
    simp [Refused, Write.stored, Write.textual?, eventTypeKey, metricTypesKey]
  · refine ⟨_ :: _ :: _ :: _ :: _ :: [], _, _, rfl, rfl, rfl, rfl, ?_⟩
    simp [Refused]
  all_goals simp [Refused]

end Populator

end NodeTelemetry
