import Mathlib.Data.List.Nodup
import NodeTelemetry.Proofs.EntityStore
import NodeTelemetry.Proofs.RawGroups

/-!
# What population makes of raw entities

The raw entities that are populated are those of the groups with specifications, each once. A raw entity with
a key and an accepted write gives one metric set, of the event type of its group.

## Main statements

* `Populator.mem_subjects_iff`, `Populator.nodup_subjects`: which raw entities are populated.
* `Populator.report_step_append`: the step of a raw entity with a key and an accepted write.
* `Populator.mem_entities_iff`, `Populator.mem_sets_iff`: the entities and the sets of a store after a run.
* `Populator.populate_entities`: a run from the empty store in which every raw entity gives a set under a
  key of its own.
-/

namespace NodeTelemetry

/-! ### Event types -/

namespace MetricSet

@[simp] theorem eventType_attempt (s : MetricSet) (w : Write) :
    (s.attempt w).eventType = s.eventType := by
  cases hw : w.stored with
  | error e => rw [s.attempt_of_error hw]
  | ok v => rw [s.attempt_of_ok hw]

theorem eventType_foldl_attempt (writes : List Write) (s : MetricSet) :
    (writes.foldl attempt s).eventType = s.eventType := by
  induction writes generalizing s with
  | nil => rfl
  | cons w rest ih => rw [List.foldl_cons, ih, eventType_attempt]

end MetricSet

theorem Attempt.eventType_foldl_apply (tried : List Attempt) (s : MetricSet) :
    (tried.foldl Attempt.apply s).eventType = s.eventType := by
  induction tried generalizing s with
  | nil => rfl
  | cons a rest ih =>
    rw [List.foldl_cons, ih]
    cases a with
    | write w => exact s.eventType_attempt w
    | failed metric e => rfl

namespace Populator

/-- Manipulators keep the event type. -/
theorem eventType_manipulate (key : EntityKey) (cluster : String) (ms : List Manipulator)
    (s : MetricSet) : (manipulate key cluster ms s).1.eventType = s.eventType := by
  induction ms generalizing s with
  | nil => rfl
  | cons m rest ih =>
    rw [manipulate]
    simp only
    rw [ih, MetricSet.eventType_foldl_attempt]

/-! ### The metric set of a raw entity -/

/-- The metric set of a raw entity with a key and an event type: the manipulators write first, and then the
specifications. -/
def metricSet (p : Populator) (specs : SpecGroup) (group id : String) (groups : RawGroups)
    (key : EntityKey) (eventType : String) : MetricSet :=
  (attempts specs group id groups).foldl Attempt.apply
    (manipulate key p.cluster p.manipulators (.ofEventType eventType)).1

theorem eventType_metricSet (p : Populator) (specs : SpecGroup) (group id : String)
    (groups : RawGroups) (key : EntityKey) (eventType : String) :
    (p.metricSet specs group id groups key eventType).eventType = eventType := by
  rw [metricSet, Attempt.eventType_foldl_apply, eventType_manipulate]
  rfl

/-- A raw entity with a key, an event type and an accepted write appends its metric set. -/
theorem report_step_append {p : Populator} {specs : SpecGroup} {group id : String}
    {groups : RawGroups} {key : EntityKey} {eventType : String}
    (hkey : p.keyOf specs group id groups = .ok key)
    (htype : p.eventTyper p.cluster group id groups = .ok eventType)
    (haccepted : (attempts specs group id groups).any Attempt.isAccepted = true) :
    (p.report specs group id groups).step =
      some (.append key (p.metricSet specs group id groups key eventType)) := by
  simp only [report, hkey, htype, haccepted, if_true]
  rfl

/-- A specification that fetches a text for an attribute makes an accepted write. -/
theorem isAccepted_of_fetch {specs : SpecGroup} {group id : String} {groups : RawGroups}
    {fetch : Fetch} {name s : String} (hspec : ⟨name, fetch, .attr⟩ ∈ specs.specs)
    (hfetch : fetch group id groups = .ok (.scalar (.str s)))
    (hname : ¬ (name = eventTypeKey ∨ name = metricTypesKey)) :
    (attempts specs group id groups).any Attempt.isAccepted = true := by
  rw [List.any_eq_true]
  refine ⟨.write ⟨name, .str s, .attr⟩, List.mem_flatMap.2 ⟨_, hspec, ?_⟩, ?_⟩
  · simp [Attempt.ofSpec, hfetch]
  · simp [Attempt.isAccepted, Write.stored, hname, Write.textual?, Except.isOk, Except.toBool]

/-- A raw metric that is a text makes an accepted write for the attribute of its name. -/
theorem isAccepted_of_text {specs : SpecGroup} {group id : String} {groups : RawGroups}
    (name s : String)
    (hspec : ⟨name, Fetch.raw name, .attr⟩ ∈ specs.specs)
    (hmetric : groups.metric group id name = .ok (.scalar (.str s)))
    (hname : ¬ (name = eventTypeKey ∨ name = metricTypesKey)) :
    (attempts specs group id groups).any Attempt.isAccepted = true := by
  refine isAccepted_of_fetch (s := s) hspec ?_ hname
  rw [Fetch.raw, hmetric]
  rfl

/-! ### The raw entities that are populated -/

theorem subjects_eq (groups : RawGroups) (specs : SpecGroups) :
    subjects groups specs = groups.entries.flatMap fun e =>
      (specs.get? e.1).toList.flatMap fun spec => e.2.keys.map fun id => (e.1, id, spec) := by
  rw [subjects]
  congr 1
  funext e
  obtain ⟨group, entities⟩ := e
  cases h : specs.get? group <;> simp [h]

/-- The raw entities that are populated are those that exist in a group with specifications. -/
theorem mem_subjects_iff {groups : RawGroups} {specs : SpecGroups} {group id : String}
    {spec : SpecGroup} :
    (group, id, spec) ∈ subjects groups specs ↔
      specs.get? group = some spec ∧ (groups.entity? group id).isSome := by
  simp only [subjects_eq, List.mem_flatMap, Option.mem_toList, List.mem_map, Prod.mk.injEq]
  constructor
  · rintro ⟨⟨g, entities⟩, hentry, sp, hspec, i, hi, rfl, rfl, rfl⟩
    rw [RawGroups.entity?, TextMap.get?_eq_some_iff.2 hentry]
    exact ⟨hspec, TextMap.mem_keys_iff.1 hi⟩
  · rintro ⟨hspec, hsome⟩
    obtain ⟨m, hm⟩ := Option.isSome_iff_exists.1 hsome
    obtain ⟨entities, hgroup, hid⟩ := Option.bind_eq_some_iff.1 hm
    refine ⟨(group, entities), TextMap.get?_eq_some_iff.1 hgroup, spec, hspec, id, ?_, rfl, rfl, rfl⟩
    exact TextMap.mem_keys_iff.2 (by rw [hid]; rfl)

/-- No raw entity is populated twice. -/
theorem nodup_subjects (groups : RawGroups) (specs : SpecGroups) :
    ((subjects groups specs).map fun x => (x.1, x.2.1)).Nodup := by
  rw [subjects_eq, List.map_flatMap, List.nodup_flatMap]
  constructor
  · rintro ⟨group, entities⟩ -
    cases specs.get? group with
    | none => exact List.nodup_nil
    | some spec =>
      simp only [Option.toList_some, List.flatMap_singleton, List.map_map]
      exact entities.nodup_keys.map fun a b heq => (Prod.mk.inj heq).2
  · refine (List.pairwise_map.1 (List.nodup_iff_pairwise_ne.1 groups.nodup_keys)).imp ?_
    rintro ⟨group, entities⟩ ⟨group', entities'⟩ hne x hx hx'
    simp only [List.mem_map, List.mem_flatMap] at hx hx'
    obtain ⟨_, ⟨spec, -, id, -, rfl⟩, rfl⟩ := hx
    obtain ⟨_, ⟨spec', -, id', -, rfl⟩, heq⟩ := hx'
    exact hne (Prod.mk.inj heq).1.symm

/-! ### A run from the empty store -/

section Fresh

variable {ι : Type} {p : Populator} {groups : RawGroups} {specs : SpecGroups} {l : List ι}
  {place : ι → String × String × SpecGroup} {key : ι → EntityKey} {set : ι → MetricSet}

/-- Where the raw entities are those of a list and each appends its set, the steps of the run are the steps of the
list, in some order. -/
theorem steps_perm (hplaces : (subjects groups specs).Perm (l.map place))
    (hstep : ∀ i ∈ l, (p.report (place i).2.2 (place i).1 (place i).2.1 groups).step =
      some (.append (key i) (set i))) :
    (PopulateOutcome.steps (p.reports groups specs)).Perm
      (l.map fun i => Step.append (key i) (set i)) := by
  rw [PopulateOutcome.steps, reports, List.filterMap_map]
  refine (hplaces.filterMap _).trans (List.Perm.of_eq ?_)
  rw [List.filterMap_map, List.filterMap_congr (g := some ∘ fun i => Step.append (key i) (set i)),
    List.filterMap_eq_map]
  intro i hi
  exact hstep i hi

/-- Where moreover the keys are different, the store has one entity with one set for each of the list. -/
theorem populate_entities (hplaces : (subjects groups specs).Perm (l.map place))
    (hstep : ∀ i ∈ l, (p.report (place i).2.2 (place i).1 (place i).2.1 groups).step =
      some (.append (key i) (set i)))
    (hkeys : (l.map key).Nodup) :
    (p.populate groups specs .empty).2.entities.toList.Perm
      (l.map fun i => (⟨key i, [set i]⟩ : Entity)) := by
  have hsteps := steps_perm hplaces hstep
  have happ : ∀ step ∈ PopulateOutcome.steps (p.reports groups specs), step.appended ≠ [] := by
    intro step hmem
    obtain ⟨i, _, rfl⟩ := List.mem_map.1 (hsteps.subset hmem)
    simp [Step.appended]
  have hpairs : ((PopulateOutcome.steps (p.reports groups specs)).flatMap Step.appended).Perm
      (l.map fun i => (key i, set i)) := by
    refine (hsteps.flatMap_right _).trans (List.Perm.of_eq ?_)
    rw [List.flatMap_map, List.map_eq_flatMap]
    rfl
  -- a run under different keys makes entities in the order of its steps
  have hfresh := (hpairs.map Prod.fst).nodup_iff.2 (by rwa [List.map_map])
  rw [populate, EntityStore.toList_run_fresh happ hfresh]
  refine (hpairs.map _).trans (List.Perm.of_eq ?_)
  rw [List.map_map]
  rfl

end Fresh

/-- A store that was empty has the entities that the steps of raw entities are about. -/
theorem mem_entities_iff {p : Populator} {groups : RawGroups} {specs : SpecGroups}
    {key : EntityKey} :
    (∃ e ∈ (p.populate groups specs .empty).2.entities.toList, e.key = key) ↔
      ∃ group id spec step, specs.get? group = some spec ∧ (groups.entity? group id).isSome ∧
        (p.report spec group id groups).step = some step ∧ step.key = key := by
  have hkeys := EntityStore.indexed_empty.mem_keys_run
    (PopulateOutcome.steps (p.reports groups specs)) key
  rw [List.mem_map] at hkeys
  rw [populate, hkeys]
  simp only [EntityStore.empty, List.map_nil, List.not_mem_nil, false_or, PopulateOutcome.steps,
    List.mem_filterMap, reports, List.mem_map]
  constructor
  · rintro ⟨step, ⟨_, ⟨⟨group, id, spec⟩, hmem, rfl⟩, hstep⟩, hkey⟩
    obtain ⟨hspec, hsome⟩ := mem_subjects_iff.1 hmem
    exact ⟨group, id, spec, step, hspec, hsome, hstep, hkey⟩
  · rintro ⟨group, id, spec, step, hspec, hsome, hstep, hkey⟩
    exact ⟨step, ⟨_, ⟨(group, id, spec), mem_subjects_iff.2 ⟨hspec, hsome⟩, rfl⟩, hstep⟩, hkey⟩

/-- What a store that was empty holds after a run are the sets that raw entities append. -/
theorem mem_sets_iff {p : Populator} {groups : RawGroups} {specs : SpecGroups} {key : EntityKey}
    {set : MetricSet} :
    (∃ e ∈ (p.populate groups specs .empty).2.entities.toList, e.key = key ∧ set ∈ e.sets) ↔
      ∃ group id spec, specs.get? group = some spec ∧ (groups.entity? group id).isSome ∧
        (p.report spec group id groups).step = some (.append key set) := by
  have hindexed := EntityStore.indexed_empty.run (PopulateOutcome.steps (p.reports groups specs))
  rw [populate, ← hindexed.mem_setsOf_iff, EntityStore.indexed_empty.setsOf_run,
    EntityStore.setsOf_empty, List.nil_append]
  simp only [List.mem_map, List.mem_filter, List.mem_flatMap, PopulateOutcome.steps,
    List.mem_filterMap, reports]
  constructor
  · rintro ⟨⟨k, s⟩, ⟨⟨step, ⟨_, ⟨⟨group, id, spec⟩, hmem, rfl⟩, hstep⟩, happ⟩, hkey⟩, rfl⟩
    obtain ⟨hspec, hsome⟩ := mem_subjects_iff.1 hmem
    obtain rfl : k = key := of_decide_eq_true hkey
    cases step with
    | ensure k' => simp [Step.appended] at happ
    | append k' s' =>
      obtain ⟨rfl, rfl⟩ := Prod.mk.inj (List.mem_singleton.1 happ)
      exact ⟨group, id, spec, hspec, hsome, hstep⟩
  · rintro ⟨group, id, spec, hspec, hsome, hstep⟩
    refine ⟨(key, set), ⟨⟨.append key set, ⟨_, ⟨(group, id, spec), ?_, rfl⟩, hstep⟩, ?_⟩, ?_⟩, rfl⟩
    · exact mem_subjects_iff.2 ⟨hspec, hsome⟩
    · exact List.mem_singleton_self _
    · exact decide_eq_true rfl

end Populator

end NodeTelemetry
