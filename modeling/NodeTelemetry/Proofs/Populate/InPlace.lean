import NodeTelemetry.Proofs.Populate.Causes

/-!
# Population in place

A run can be seen as one pass over the raw entities that changes a store, a list of errors and a flag as it goes. The
entity is looked up, or created, before its event type is known; its metric set is written while errors are
recorded; and the pass leaves a raw entity at the first failure that concerns it as a whole. `Populator.visit`
says this for one raw entity. A visit does to every store what the report on the raw entity says, so the pass is
the run that makes all reports first and applies their steps afterwards.

## Main definitions

* `Populator.Progress`: what a pass changes.
* `Populator.Draft`: a metric set under construction.
* `Populator.visit`, `Populator.populateInPlace`: the pass.

## Main statements

* `Populator.fill_eq`: what is done for one specification, by its attempts.
* `Populator.visit_eq`: a visit adds the report on its raw entity to what was there before.
* `Populator.populateInPlace_eq`: the pass is the run.
-/

namespace NodeTelemetry

/-- Looking an entity up makes sure that it exists, and a set added at its place is added to it. -/
theorem EntityStore.entity_eq_ok (store : EntityStore) {name type : String} {key : EntityKey}
    (hkey : EntityKey.ofNames name type = .ok key) :
    ∃ place, store.entity name type = .ok (store.ensure key, place) ∧
      ∀ set, (store.ensure key).addSet place set = store.append key set := by
  obtain ⟨place, hentity, hplace⟩ := store.entity_of_ofNames hkey
  refine ⟨place, hentity, fun set => ?_⟩
  simp only [EntityStore.append, hplace]

namespace Populator

/-- What a pass has made so far. -/
structure Progress where
  store : EntityStore
  populated : Bool
  errors : List PopulateError

/-- A metric set under construction, whether a specification wrote to it, and the errors of the pass so far. -/
structure Draft where
  set : MetricSet
  written : Bool
  errors : List PopulateError

namespace Draft

section Writing

variable (group id : String)

/-- Records a failure for the raw entity. -/
def fail (d : Draft) (cause : PopulateCause) : Draft :=
  { d with errors := d.errors ++ [⟨group, id, cause⟩] }

/-- Runs a manipulator on the set. -/
def adjust (key : EntityKey) (cluster : String) (d : Draft) (m : Manipulator) : Draft :=
  let done := m d.set key cluster
  let adjusted := { d with set := done.writes.foldl MetricSet.attempt d.set }
  match done.failure with
  | none => adjusted
  | some e => adjusted.fail group id (.manipulator e)

/-- Writes a value for a specification. -/
def write (d : Draft) (w : Write) : Draft :=
  match (MetricSet.setMetric w).run d.set with
  | .ok () set => { d with set, written := true }
  | .error e set => { d with set }.fail group id (.setMetric w.name w.value.text e)

/-- Fetches for a specification and writes what the fetch gives. -/
def fill (groups : RawGroups) (d : Draft) (spec : Spec) : Draft :=
  match spec.fetch group id groups with
  | .error e => d.fail group id (.fetch spec.name e)
  | .ok (.scalar v) => d.write group id ⟨spec.name, v, spec.type⟩
  | .ok (.multi values) =>
    values.entries.foldl (fun d x => d.write group id ⟨x.1, x.2, spec.type⟩) d

end Writing

end Draft

/-- Records a failure for the raw entity. -/
def Progress.fail (group id : String) (s : Progress) (cause : PopulateCause) : Progress :=
  { s with errors := s.errors ++ [⟨group, id, cause⟩] }

/-- Looks after one raw entity. -/
def visit (p : Populator) (group id : String) (groups : RawGroups) (specs : SpecGroup)
    (s : Progress) : Progress :=
  match specs.nameOf group id groups with
  | .error e => s.fail group id (.entityId e)
  | .ok name =>
    match specs.typeOf group id groups p.cluster with
    | .error e => s.fail group id (.entityType e)
    | .ok type =>
      match s.store.entity name type with
      | .error e => s.fail group id (.entity e)
      | .ok (store, place) =>
        match p.eventTyper p.cluster group id groups with
        | .error e => { s with store }.fail group id (.metricSetType e)
        | .ok eventType =>
          let fresh : Draft := ⟨.ofEventType eventType, false, s.errors⟩
          let adjusted := p.manipulators.foldl (Draft.adjust group id ⟨name, type⟩ p.cluster) fresh
          let done := specs.specs.foldl (Draft.fill group id groups) adjusted
          if done.written then ⟨store.addSet place done.set, true, done.errors⟩
          else ⟨store, s.populated, done.errors⟩

/-- Looks after the raw entities of a group, if it has specifications. -/
def visitGroup (p : Populator) (groups : RawGroups) (specs : SpecGroups) (s : Progress)
    (group : String × RawEntities) : Progress :=
  match specs.get? group.1 with
  | none => s
  | some spec => group.2.keys.foldl (fun s id => p.visit group.1 id groups spec s) s

/-- Populates a store in one pass over the groups and the raw entities of each, in ascending order. -/
def populateInPlace (p : Populator) (groups : RawGroups) (specs : SpecGroups)
    (store : EntityStore) : PopulateOutcome × EntityStore :=
  let done := groups.entries.foldl (p.visitGroup groups specs) ⟨store, false, []⟩
  (⟨done.populated, done.errors⟩, done.store)

/-! ### One specification -/

section Visit

variable {group id : String}

/-- The errors of a raw entity with the causes of a list. -/
def errorsAt (group id : String) (causes : List PopulateCause) : List PopulateError :=
  causes.map fun cause => ⟨group, id, cause⟩

@[simp] theorem errorsAt_append (causes causes' : List PopulateCause) :
    errorsAt group id (causes ++ causes') = errorsAt group id causes ++ errorsAt group id causes' :=
  List.map_append

/-- A draft after attempts: each accepted one changes the set, and each other one is recorded. -/
def Draft.after (group id : String) (d : Draft) (tried : List Attempt) : Draft :=
  ⟨tried.foldl Attempt.apply d.set, d.written || tried.any Attempt.isAccepted,
    d.errors ++ errorsAt group id (tried.filterMap Attempt.cause?)⟩

theorem Draft.after_append (d : Draft) (tried tried' : List Attempt) :
    d.after group id (tried ++ tried') = (d.after group id tried).after group id tried' := by
  simp [after, List.foldl_append, List.filterMap_append, Bool.or_assoc]

theorem Draft.write_eq (d : Draft) (w : Write) :
    d.write group id w = d.after group id [.write w] := by
  have hset : (Attempt.write w).apply d.set = d.set.attempt w := rfl
  simp only [Draft.write, after, List.foldl_cons, List.foldl_nil, hset, List.any_cons, List.any_nil,
    Bool.or_false, Attempt.isAccepted]
  cases h : w.stored with
  | ok v =>
    rw [d.set.run_setMetric_of_ok h, d.set.attempt_of_ok h]
    simp [Attempt.cause?, h, Except.isOk, Except.toBool, errorsAt]
  | error e =>
    rw [d.set.run_setMetric_of_error h, d.set.attempt_of_error h]
    simp [Attempt.cause?, h, Except.isOk, Except.toBool, errorsAt, Draft.fail]

theorem Draft.foldl_write (d : Draft) (writes : List Write) :
    writes.foldl (Draft.write group id) d = d.after group id (writes.map .write) := by
  induction writes generalizing d with
  | nil => simp [after, errorsAt]
  | cons w rest ih =>
    rw [List.foldl_cons, ih, Draft.write_eq, ← Draft.after_append]
    rfl

/-- A specification is looked after by its attempts. -/
theorem fill_eq (groups : RawGroups) (d : Draft) (spec : Spec) :
    d.fill group id groups spec = d.after group id (Attempt.ofSpec group id groups spec) := by
  rw [Draft.fill, Attempt.ofSpec]
  cases spec.fetch group id groups with
  | error e =>
    simp [Draft.after, Draft.fail, Attempt.apply, Attempt.isAccepted, Attempt.cause?, errorsAt]
  | ok v =>
    cases v with
    | scalar v => exact d.write_eq _
    | multi values =>
      let writes : List Write := values.entries.map fun x => ⟨x.1, x.2, spec.type⟩
      have hwrites : writes.foldl (Draft.write group id) d = d.after group id (writes.map .write) :=
        d.foldl_write writes
      rw [List.foldl_map, List.map_map] at hwrites
      exact hwrites

theorem foldl_fill (groups : RawGroups) (d : Draft) (specs : List Spec) :
    specs.foldl (Draft.fill group id groups) d =
      d.after group id (specs.flatMap (Attempt.ofSpec group id groups)) := by
  induction specs generalizing d with
  | nil => simp [Draft.after, errorsAt]
  | cons spec rest ih => rw [List.foldl_cons, ih, fill_eq, ← Draft.after_append, List.flatMap_cons]

/-! ### Manipulators -/

theorem foldl_adjust (key : EntityKey) (cluster : String) (d : Draft) (ms : List Manipulator) :
    ms.foldl (Draft.adjust group id key cluster) d =
      { d with
        set := (manipulate key cluster ms d.set).1
        errors := d.errors ++ errorsAt group id
          ((manipulate key cluster ms d.set).2.map PopulateCause.manipulator) } := by
  induction ms generalizing d with
  | nil => simp [manipulate, errorsAt]
  | cons m rest ih =>
    rw [List.foldl_cons, ih, manipulate]
    cases h : (m d.set key cluster).failure with
    | none => simp [Draft.adjust, h]
    | some e => simp [Draft.adjust, Draft.fail, h, errorsAt]

/-! ### One raw entity -/

/-- What was made so far, and the report on one raw entity. -/
def Progress.add (group id : String) (s : Progress) (r : EntityReport) : Progress :=
  ⟨r.step.toList.foldl Step.apply s.store,
    s.populated || r.step.toList.any PopulateOutcome.isAppend,
    s.errors ++ errorsAt group id r.causes⟩

/-- A visit adds the report on its raw entity to what was made before, whatever that was. -/
theorem visit_eq (p : Populator) (groups : RawGroups) (specs : SpecGroup) (s : Progress) :
    p.visit group id groups specs s = s.add group id (p.report specs group id groups) := by
  rw [visit]
  cases hname : specs.nameOf group id groups with
  | error e =>
    rw [report_of_keyOf_error (keyOf_of_name_error hname)]
    simp [Progress.fail, Progress.add, errorsAt]
  | ok name =>
    simp only
    cases htype : specs.typeOf group id groups p.cluster with
    | error e =>
      rw [report_of_keyOf_error (keyOf_of_type_error hname htype)]
      simp [Progress.fail, Progress.add, errorsAt]
    | ok type =>
      simp only
      cases hkey : EntityKey.ofNames name type with
      | error e =>
        rw [report_of_keyOf_error (keyOf_of_ofNames_error hname htype hkey), EntityStore.entity, hkey]
        simp [bind, Except.bind, Progress.fail, Progress.add, errorsAt]
      | ok key =>
        obtain ⟨place, hentity, hadd⟩ := s.store.entity_eq_ok hkey
        have hreport : p.keyOf specs group id groups = .ok key :=
          keyOf_of_ofNames_ok hname htype hkey
        have hnames : (⟨name, type⟩ : EntityKey) = key := by
          rw [EntityKey.ofNames] at hkey
          split at hkey
          · simp at hkey
          · exact Except.ok.inj hkey
        rw [hentity, hnames]
        simp only
        cases htyper : p.eventTyper p.cluster group id groups with
        | error e =>
          rw [report_of_eventTyper_error hreport htyper]
          simp [Progress.fail, Progress.add, Step.apply, PopulateOutcome.isAppend, errorsAt]
        | ok eventType =>
          have htried : specs.specs.flatMap (Attempt.ofSpec group id groups) =
              attempts specs group id groups := rfl
          rw [report_of_eventTyper_ok hreport htyper]
          simp only [foldl_adjust, foldl_fill, htried, Draft.after, Bool.false_or]
          by_cases haccepted : (attempts specs group id groups).any Attempt.isAccepted = true
          · simp [Progress.add, haccepted, hadd, metricSet, Step.apply, PopulateOutcome.isAppend]
          · simp [Progress.add, haccepted, Step.apply, PopulateOutcome.isAppend]

end Visit

/-! ### The pass -/

/-- Visits of raw entities one after the other add their reports in the same order. -/
theorem foldl_visit (p : Populator) (groups : RawGroups) (s : Progress)
    (xs : List (String × String × SpecGroup)) :
    xs.foldl (fun s x => p.visit x.1 x.2.1 groups x.2.2 s) s =
      let reports := xs.map fun x => (x.1, x.2.1, p.report x.2.2 x.1 x.2.1 groups)
      ⟨(PopulateOutcome.steps reports).foldl Step.apply s.store,
        s.populated || (PopulateOutcome.ofReports reports).populated,
        s.errors ++ (PopulateOutcome.ofReports reports).errors⟩ := by
  induction xs generalizing s with
  | nil => simp [PopulateOutcome.steps, PopulateOutcome.ofReports]
  | cons x rest ih =>
    rw [List.foldl_cons, ih, visit_eq]
    cases h : (p.report x.2.2 x.1 x.2.1 groups).step <;>
      simp [Progress.add, PopulateOutcome.steps, PopulateOutcome.ofReports, errorsAt, h, Bool.or_assoc]

/-- The pass visits the raw entities that have specifications. -/
theorem foldl_visitGroup (p : Populator) (groups : RawGroups) (specs : SpecGroups) (s : Progress) :
    groups.entries.foldl (p.visitGroup groups specs) s =
      (subjects groups specs).foldl (fun s x => p.visit x.1 x.2.1 groups x.2.2 s) s := by
  rw [subjects_eq, List.foldl_flatMap]
  congr 1
  funext s e
  simp only [visitGroup]
  cases specs.get? e.1 with
  | none => rfl
  | some spec => rw [Option.toList_some, List.flatMap_singleton, List.foldl_map]

/-- The pass is the run. -/
theorem populateInPlace_eq (p : Populator) (groups : RawGroups) (specs : SpecGroups)
    (store : EntityStore) :
    p.populateInPlace groups specs store = p.populate groups specs store := by
  rw [populateInPlace, foldl_visitGroup, foldl_visit]
  simp only [Bool.false_or, List.nil_append]
  rfl

end Populator

end NodeTelemetry
