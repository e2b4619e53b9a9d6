import NodeTelemetry.Entity.Store
import NodeTelemetry.Spec

/-!
# Population

Population turns raw groups into entities and metric sets. Every raw entity of a group with
specifications is treated by itself: what it does to the store (`Step`) and which errors it records
are computed from the raw groups alone (`Populator.report`), and only then the steps are applied.
A failure never stops the run.

## Main definitions

* `Populator.attempts`: the writes and failed fetches of an entity, in order.
* `Populator.report`: the step and the errors of one raw entity.
* `Populator.populate`: the outcome of a run and the store after it.
-/

namespace NodeTelemetry

/-- Derives the event type of a metric set: name of the cluster, label of the group, raw ID, groups. -/
abbrev EventTyper :=
  (cluster group id : String) → RawGroups → Except FetchError String

/-- What a manipulator does to a fresh metric set: the writes that it attempts, in order, and the failure
that it reports, if it does. It changes the set by writes alone and never puts another set in its place. -/
structure Manipulation where
  writes : List Write
  failure : Option WriteError

/-- Adjusts a fresh metric set before the metrics of the specifications are written: the set as it is, the
key of the entity, the name of the cluster. What becomes of one of its writes is known before it is attempted, by
`Write.stored`, so the writes behind it may depend on that too. -/
abbrev Manipulator := MetricSet → EntityKey → (cluster : String) → Manipulation

/-- The manipulation that attempts writes one after the other and stops at the first that is refused. -/
def Manipulation.ofWrites : List Write → Manipulation
  | [] => ⟨[], none⟩
  | w :: rest =>
    match w.stored with
    | .error e => ⟨[w], some e⟩
    | .ok _ => ⟨w :: (ofWrites rest).writes, (ofWrites rest).failure⟩

/-- What a recorded failure of an entity is about. -/
inductive PopulateCause where
  | entityId (source : FetchError)
  | entityType (source : FetchError)
  | entity (source : EntityError)
  | metricSetType (source : FetchError)
  | manipulator (source : WriteError)
  | fetch (metric : String) (source : FetchError)
  | setMetric (metric value : String) (source : WriteError)
  deriving DecidableEq, Repr

/-- A recorded failure, with the group and the raw ID of its entity. -/
structure PopulateError where
  group : String
  id : String
  cause : PopulateCause
  deriving DecidableEq, Repr

/-- The wording of a recorded failure. -/
def PopulateError.message (e : PopulateError) : String :=
  let place := "[" ++ e.group ++ "] "
  let entity := place ++ "entity id: " ++ e.id ++ ": "
  match e.cause with
  | .entityId source =>
    place ++ "error generating entity ID for: " ++ e.id ++ ": " ++ source.message
  | .entityType source =>
    place ++ "error generating entity type for: " ++ e.id ++ ": " ++ source.message
  | .entity source => entity ++ source.message
  | .metricSetType source => entity ++ "error guessing metric set type: " ++ source.message
  | .manipulator source => entity ++ "metric set manipulator failed: " ++ source.message
  | .fetch metric source =>
    entity ++ "error fetching value for metric " ++ metric ++ ": " ++ source.message
  | .setMetric metric value source =>
    entity ++ "error setting metric " ++ metric ++ " with value " ++ value ++ " in metric set: " ++
      source.message

/-- What one raw entity does to the store. -/
inductive Step where
  /-- The entity exists afterwards. -/
  | ensure (key : EntityKey)
  /-- The entity exists afterwards and has one more metric set. -/
  | append (key : EntityKey) (set : MetricSet)

/-- A store after a step. -/
def Step.apply (s : EntityStore) : Step → EntityStore
  | ensure key => s.ensure key
  | append key set => s.append key set

/-- What one raw entity contributes: a step, unless it has no identity, and the causes of its errors. -/
structure EntityReport where
  step : Option Step
  causes : List PopulateCause

/-- The result of a run. -/
structure PopulateOutcome where
  /-- Whether some metric set was added. -/
  populated : Bool
  errors : List PopulateError

/-- What turns raw groups into entities. -/
structure Populator where
  cluster : String
  eventTyper : EventTyper
  /-- The manipulators in the order in which they run. -/
  manipulators : List Manipulator

/-- One thing that is tried for a metric set of an entity. -/
inductive Attempt where
  | write (w : Write)
  | failed (metric : String) (source : FetchError)

namespace Attempt

/-- The attempts of a specification: one write for one value, one for each of several values in the
order of their names, or the failure of the fetch. -/
def ofSpec (group id : String) (groups : RawGroups) (spec : Spec) : List Attempt :=
  match spec.fetch group id groups with
  | .ok (.scalar v) => [.write ⟨spec.name, v, spec.type⟩]
  | .ok (.multi values) => values.entries.map fun (name, v) => .write ⟨name, v, spec.type⟩
  | .error e => [.failed spec.name e]

/-- The set after an attempt. -/
def apply (s : MetricSet) : Attempt → MetricSet
  | write w => s.attempt w
  | failed _ _ => s

/-- Whether an attempt changes a set. -/
def isAccepted : Attempt → Bool
  | write w => w.stored.isOk
  | failed _ _ => false

/-- The cause of the error that an attempt records. -/
def cause? : Attempt → Option PopulateCause
  | write w =>
    match w.stored with
    | .ok _ => none
    | .error e => some (.setMetric w.name w.value.text e)
  | failed metric e => some (.fetch metric e)

end Attempt

namespace Populator

/-- Runs manipulators in order over a metric set: the set afterwards and the failures. -/
def manipulate (key : EntityKey) (cluster : String) :
    List Manipulator → MetricSet → MetricSet × List WriteError
  | [], s => (s, [])
  | m :: rest, s =>
    let done := m s key cluster
    let (s, failures) := manipulate key cluster rest (done.writes.foldl MetricSet.attempt s)
    (s, done.failure.toList ++ failures)

/-- The key of a raw entity, or why it has none. -/
def keyOf (p : Populator) (specs : SpecGroup) (group id : String) (groups : RawGroups) :
    Except PopulateCause EntityKey := do
  let name ←
    match specs.idGenerator with
    | some generator => (generator group id groups).mapError .entityId
    | none => .ok id
  let type ←
    match specs.typeGenerator with
    | some generator => (generator group id groups p.cluster).mapError .entityType
    | none => .ok ""
  (EntityKey.ofNames name type).mapError .entity

/-- The attempts of all specifications of a group for one entity, in order. -/
def attempts (specs : SpecGroup) (group id : String) (groups : RawGroups) : List Attempt :=
  specs.specs.flatMap (Attempt.ofSpec group id groups)

/-- What one raw entity contributes. It does not depend on the store. -/
def report (p : Populator) (specs : SpecGroup) (group id : String) (groups : RawGroups) :
    EntityReport :=
  match p.keyOf specs group id groups with
  | .error cause => ⟨none, [cause]⟩
  | .ok key =>
    match p.eventTyper p.cluster group id groups with
    | .error e => ⟨some (.ensure key), [.metricSetType e]⟩
    | .ok eventType =>
      let (fresh, failures) :=
        manipulate key p.cluster p.manipulators (.ofEventType eventType)
      let tried := attempts specs group id groups
      let causes := failures.map .manipulator ++ tried.filterMap Attempt.cause?
      if tried.any Attempt.isAccepted then
        ⟨some (.append key (tried.foldl Attempt.apply fresh)), causes⟩
      else ⟨some (.ensure key), causes⟩

/-- The raw entities that have specifications, in ascending order of group and raw ID. -/
def subjects (groups : RawGroups) (specs : SpecGroups) : List (String × String × SpecGroup) :=
  groups.entries.flatMap fun (group, entities) =>
    match specs.get? group with
    | none => []
    | some spec => entities.keys.map fun id => (group, id, spec)

/-- The reports of all raw entities that have specifications, with their groups and raw IDs. -/
def reports (p : Populator) (groups : RawGroups) (specs : SpecGroups) :
    List (String × String × EntityReport) :=
  (subjects groups specs).map fun (group, id, spec) => (group, id, p.report spec group id groups)

end Populator

namespace PopulateOutcome

/-- Whether a step adds a metric set. -/
def isAppend : Step → Bool
  | .append _ _ => true
  | .ensure _ => false

/-- The steps of reports in order. -/
def steps (reports : List (String × String × EntityReport)) : List Step :=
  reports.filterMap fun r => r.2.2.step

/-- The outcome that reports add up to. -/
def ofReports (reports : List (String × String × EntityReport)) : PopulateOutcome :=
  ⟨(steps reports).any isAppend,
    reports.flatMap fun (group, id, r) => r.causes.map fun cause => ⟨group, id, cause⟩⟩

end PopulateOutcome

/-- Populates a store from raw groups. Groups without specifications are ignored. -/
def Populator.populate (p : Populator) (groups : RawGroups) (specs : SpecGroups)
    (store : EntityStore) : PopulateOutcome × EntityStore :=
  let reports := p.reports groups specs
  (.ofReports reports, (PopulateOutcome.steps reports).foldl Step.apply store)

end NodeTelemetry
