import NodeTelemetry.Proofs.Populate.Writes

/-!
# What a run records

The errors of a run stand in the order of its raw entities, and each raw entity has its own. A raw entity without a
name, a type or an entity records this alone and leaves the store as it is; one without an event type records this
alone and has its entity; any other records the failures of its manipulators and then, for one specification after
the other, the failed fetch or the refused writes. `Populator.Reported` lists these cases. What a raw entity records
and does is the same whatever the others have recorded and done before it.

## Main definitions

* `Spec.causes`: what a specification records.
* `Populator.Reported`: what a raw entity does and records, case by case.
* `Populator.Precedes`: the order of raw entities.

## Main statements

* `Populator.reported_iff`: a raw entity reports one of the cases, and only one.
* `Populator.subjects_ascending`: the raw entities of a run come in the order of the bytes of their places.
* `Populator.populate_records`: the errors of a run, and what each raw entity does to the store.
-/

namespace NodeTelemetry

/-- Whether an entity can be created does not depend on the store. -/
theorem EntityStore.entity_eq_error_iff (store : EntityStore) {name type : String} {e : EntityError} :
    store.entity name type = .error e ↔ EntityKey.ofNames name type = .error e := by
  cases hkey : EntityKey.ofNames name type with
  | error e' => simp [EntityStore.entity, hkey, bind, Except.bind]
  | ok key =>
    obtain ⟨place, hok, -⟩ := store.entity_eq_ok hkey
    simp [hok]

/-! ### One specification -/

/-- What is recorded for a write: nothing where it is accepted. -/
def Write.refusal? (w : Write) : Option PopulateCause :=
  match w.stored with
  | .ok _ => none
  | .error e => some (.setMetric w.name w.value.text e)

/-- What is recorded for a specification: that its fetch fails, or each of its writes that is refused. -/
def Spec.causes (spec : Spec) (group id : String) (groups : RawGroups) : List PopulateCause :=
  match spec.fetch group id groups with
  | .error e => [.fetch spec.name e]
  | .ok _ => (spec.writes group id groups).filterMap Write.refusal?

section Specs

variable {group id : String} {groups : RawGroups}

theorem Attempt.filterMap_cause?_ofSpec (spec : Spec) :
    (ofSpec group id groups spec).filterMap cause? = spec.causes group id groups := by
  rw [ofSpec, Spec.causes, Spec.writes]
  cases spec.fetch group id groups with
  | error e => rfl
  | ok v =>
    cases v with
    | scalar v => rfl
    | multi values =>
      simp only [List.filterMap_map]
      rfl

theorem Attempt.isAccepted_ofSpec_iff (spec : Spec) :
    (ofSpec group id groups spec).any isAccepted = true ↔
      ∃ w ∈ spec.writes group id groups, ∃ v, w.stored = .ok v := by
  have hstored : ∀ w : Write, isAccepted (.write w) = true ↔ ∃ v, w.stored = .ok v := by
    intro w
    rw [isAccepted]
    cases w.stored <;> simp [Except.isOk, Except.toBool]
  rw [ofSpec, Spec.writes, List.any_eq_true]
  cases spec.fetch group id groups with
  | error e => simp [isAccepted]
  | ok v => cases v <;> simp [hstored]

end Specs

namespace Populator

/-! ### One raw entity -/

/-- What manipulators record, in their order. -/
def manipulatorCauses (p : Populator) (key : EntityKey) (eventType : String) : List PopulateCause :=
  (manipulations key p.cluster p.manipulators (.ofEventType eventType)).filterMap fun done =>
    done.failure.map .manipulator

/-- What the specifications of a group record, in their order. -/
def specCauses (specs : SpecGroup) (group id : String) (groups : RawGroups) : List PopulateCause :=
  specs.specs.flatMap fun spec => spec.causes group id groups

/-- Whether a write for a specification is accepted. -/
def HasAccepted (specs : SpecGroup) (group id : String) (groups : RawGroups) : Prop :=
  ∃ spec ∈ specs.specs, ∃ w ∈ spec.writes group id groups, ∃ v, w.stored = .ok v

/-- What a raw entity does and records. -/
inductive Reported (p : Populator) (specs : SpecGroup) (group id : String) (groups : RawGroups) :
    EntityReport → Prop
  | noName {e : FetchError} (hname : specs.nameOf group id groups = .error e) :
      Reported p specs group id groups ⟨none, [.entityId e]⟩
  | noType {name : String} {e : FetchError} (hname : specs.nameOf group id groups = .ok name)
      (htype : specs.typeOf group id groups p.cluster = .error e) :
      Reported p specs group id groups ⟨none, [.entityType e]⟩
  | noEntity {name type : String} {e : EntityError}
      (hname : specs.nameOf group id groups = .ok name)
      (htype : specs.typeOf group id groups p.cluster = .ok type)
      (hentity : ∀ store : EntityStore, store.entity name type = .error e) :
      Reported p specs group id groups ⟨none, [.entity e]⟩
  | noEventType {name type : String} {key : EntityKey} {e : FetchError}
      (hname : specs.nameOf group id groups = .ok name)
      (htype : specs.typeOf group id groups p.cluster = .ok type)
      (hkey : EntityKey.ofNames name type = .ok key)
      (hevent : p.eventTyper p.cluster group id groups = .error e) :
      Reported p specs group id groups ⟨some (.ensure key), [.metricSetType e]⟩
  | unwritten {name type : String} {key : EntityKey} {eventType : String}
      (hname : specs.nameOf group id groups = .ok name)
      (htype : specs.typeOf group id groups p.cluster = .ok type)
      (hkey : EntityKey.ofNames name type = .ok key)
      (hevent : p.eventTyper p.cluster group id groups = .ok eventType)
      (hnone : ¬ HasAccepted specs group id groups) :
      Reported p specs group id groups ⟨some (.ensure key),
        p.manipulatorCauses key eventType ++ specCauses specs group id groups⟩
  | written {name type : String} {key : EntityKey} {eventType : String}
      (hname : specs.nameOf group id groups = .ok name)
      (htype : specs.typeOf group id groups p.cluster = .ok type)
      (hkey : EntityKey.ofNames name type = .ok key)
      (hevent : p.eventTyper p.cluster group id groups = .ok eventType)
      (hsome : HasAccepted specs group id groups) :
      Reported p specs group id groups
        ⟨some (.append key (p.metricSet specs group id groups key eventType)),
          p.manipulatorCauses key eventType ++ specCauses specs group id groups⟩

section Report

variable {p : Populator} {specs : SpecGroup} {group id : String} {groups : RawGroups}

theorem filterMap_cause?_attempts :
    (attempts specs group id groups).filterMap Attempt.cause? = specCauses specs group id groups := by
  rw [attempts, List.filterMap_flatMap, specCauses]
  congr 1
  funext spec
  exact Attempt.filterMap_cause?_ofSpec spec

theorem isAccepted_attempts_iff :
    (attempts specs group id groups).any Attempt.isAccepted = true ↔
      HasAccepted specs group id groups := by
  rw [attempts, List.any_flatMap, List.any_eq_true, HasAccepted]
  simp only [Attempt.isAccepted_ofSpec_iff]

theorem map_manipulate (key : EntityKey) (eventType : String) :
    (manipulate key p.cluster p.manipulators (.ofEventType eventType)).2.map .manipulator =
      p.manipulatorCauses key eventType := by
  rw [manipulate_eq, manipulatorCauses, List.map_filterMap]

/-- The report on a raw entity with an event type, by its writes and its causes. -/
theorem report_eq {key : EntityKey} {eventType : String}
    (hkey : p.keyOf specs group id groups = .ok key)
    (hevent : p.eventTyper p.cluster group id groups = .ok eventType) :
    p.report specs group id groups =
      ⟨some (if (attempts specs group id groups).any Attempt.isAccepted then
          .append key (p.metricSet specs group id groups key eventType)
        else .ensure key),
        p.manipulatorCauses key eventType ++ specCauses specs group id groups⟩ := by
  rw [report_of_eventTyper_ok hkey hevent, map_manipulate, filterMap_cause?_attempts]

theorem Reported.eq_report {r : EntityReport} (h : p.Reported specs group id groups r) :
    r = p.report specs group id groups := by
  cases h with
  | noName hname => rw [report_of_keyOf_error (keyOf_of_name_error hname)]
  | noType hname htype => rw [report_of_keyOf_error (keyOf_of_type_error hname htype)]
  | noEntity hname htype hentity =>
    have hnames := EntityStore.empty.entity_eq_error_iff.1 (hentity .empty)
    rw [report_of_keyOf_error (keyOf_of_ofNames_error hname htype hnames)]
  | noEventType hname htype hnames hevent =>
    have hkey := keyOf_of_ofNames_ok hname htype hnames
    rw [report_of_eventTyper_error hkey hevent]
  | unwritten hname htype hnames hevent hnone =>
    have hkey := keyOf_of_ofNames_ok hname htype hnames
    rw [report_eq hkey hevent, if_neg (mt isAccepted_attempts_iff.1 hnone)]
  | written hname htype hnames hevent hsome =>
    have hkey := keyOf_of_ofNames_ok hname htype hnames
    rw [report_eq hkey hevent, if_pos (isAccepted_attempts_iff.2 hsome)]

/-- Some case applies to every raw entity. -/
theorem exists_reported (p : Populator) (specs : SpecGroup) (group id : String) (groups : RawGroups) :
    ∃ r, p.Reported specs group id groups r := by
  cases hname : specs.nameOf group id groups with
  | error e => exact ⟨_, .noName hname⟩
  | ok name =>
    cases htype : specs.typeOf group id groups p.cluster with
    | error e => exact ⟨_, .noType hname htype⟩
    | ok type =>
      cases hkey : EntityKey.ofNames name type with
      | error e => exact ⟨_, .noEntity hname htype fun store => store.entity_eq_error_iff.2 hkey⟩
      | ok key =>
        cases hevent : p.eventTyper p.cluster group id groups with
        | error e => exact ⟨_, .noEventType hname htype hkey hevent⟩
        | ok eventType =>
          by_cases hsome : HasAccepted specs group id groups
          · exact ⟨_, .written hname htype hkey hevent hsome⟩
          · exact ⟨_, .unwritten hname htype hkey hevent hsome⟩

/-- One of the cases applies to every raw entity, and only one. -/
theorem reported_iff {r : EntityReport} :
    p.Reported specs group id groups r ↔ r = p.report specs group id groups := by
  refine ⟨Reported.eq_report, ?_⟩
  rintro rfl
  obtain ⟨r, hr⟩ := p.exists_reported specs group id groups
  exact hr.eq_report ▸ hr

end Report

/-! ### The order of raw entities -/

/-- One place comes before another in the order of the bytes of the group and, in one group, of those of the raw ID. -/
def Precedes (x y : String × String) : Prop :=
  Text.bytes x.1 < Text.bytes y.1 ∨ x.1 = y.1 ∧ Text.bytes x.2 < Text.bytes y.2

/-- The raw entities of a run come one behind the other in the order of their places. -/
theorem subjects_ascending (groups : RawGroups) (specs : SpecGroups) :
    (subjects groups specs).Pairwise fun x y => Precedes (x.1, x.2.1) (y.1, y.2.1) := by
  rw [subjects_eq, List.pairwise_flatMap]
  constructor
  · rintro ⟨group, entities⟩ -
    cases specs.get? group with
    | none => exact List.Pairwise.nil
    | some spec =>
      simp only [Option.toList_some, List.flatMap_singleton, List.pairwise_map, TextMap.keys]
      exact entities.sorted.imp fun hlt => .inr ⟨rfl, (Text.lt_iff_bytes_lt _ _).1 hlt⟩
  · refine groups.sorted.imp ?_
    rintro ⟨group, entities⟩ ⟨group', entities'⟩ hlt x hx y hy
    simp only [List.mem_flatMap, List.mem_map] at hx hy
    obtain ⟨spec, -, id, -, rfl⟩ := hx
    obtain ⟨spec', -, id', -, rfl⟩ := hy
    exact .inl ((Text.lt_iff_bytes_lt _ _).1 hlt)

/-! ### A run -/

/-- The errors of a run are those of its raw entities one after the other, in ascending order of their places, and the
store after it has what they do in the same order. Each raw entity records and does what the case says that applies
to it, whatever was made and recorded before. -/
theorem populate_records (p : Populator) (groups : RawGroups) (specs : SpecGroups)
    (store : EntityStore) :
    p.populateInPlace groups specs store = p.populate groups specs store ∧
    (∀ group id spec, (group, id, spec) ∈ subjects groups specs ↔
      specs.get? group = some spec ∧ (groups.entity? group id).isSome) ∧
    ((subjects groups specs).Pairwise fun x y => Precedes (x.1, x.2.1) (y.1, y.2.1)) ∧
    (p.populate groups specs store).1.errors = ((subjects groups specs).flatMap fun x =>
      errorsAt x.1 x.2.1 (p.report x.2.2 x.1 x.2.1 groups).causes) ∧
    (p.populate groups specs store).2 = ((subjects groups specs).filterMap fun x =>
      (p.report x.2.2 x.1 x.2.1 groups).step).foldl Step.apply store ∧
    (∀ group id spec r, p.Reported spec group id groups r ↔ r = p.report spec group id groups) ∧
    ∀ group id spec s, p.visit group id groups spec s =
      s.add group id (p.report spec group id groups) := by
  refine ⟨p.populateInPlace_eq groups specs store, fun group id spec => mem_subjects_iff,
    subjects_ascending groups specs, ?_, ?_, fun group id spec r => reported_iff,
    fun group id spec s => p.visit_eq groups spec s⟩
  · simp only [populate, PopulateOutcome.ofReports, reports, List.flatMap_map]
    rfl
  · simp only [populate, PopulateOutcome.steps, reports, List.filterMap_map]
    rfl

end Populator

end NodeTelemetry
