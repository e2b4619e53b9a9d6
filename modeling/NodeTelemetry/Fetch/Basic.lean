import NodeTelemetry.Value.Raw

/-!
# Fetches

A fetch takes one value of an entity out of the raw groups. It is given the label of the group and
the raw ID of the entity, and it fails with a cause.

## Main definitions

* `FetchError`: why a value, an entity ID or an entity type can not be derived.
* `RawGroups.metric`, `RawGroups.text`: look-ups of one raw metric.
* `Fetch.raw`, `Fetch.thenApply`: the fetch of a raw metric, and a fetch with its result changed.
-/

namespace NodeTelemetry

/-- Why a value can not be derived from the raw groups. -/
inductive FetchError where
  | entityNotFound (group id : String)
  | metricNotFound (group id metric : String)
  | labelNotFound (metric label : String)
  | incompatibleType (metric expected found : String)
  | transform (reason : String)
  deriving DecidableEq, Repr

/-- The wording of an error. -/
def FetchError.message : FetchError → String
  | entityNotFound group id =>
    "entity not found. SpecGroup: " ++ group ++ ", EntityID: " ++ id
  | metricNotFound group id metric =>
    "metric not found. SpecGroup: " ++ group ++ ", EntityID: " ++ id ++ ", Metric: " ++ metric
  | labelNotFound metric label => "label " ++ label ++ " not found in metric " ++ metric
  | incompatibleType metric expected found =>
    "incompatible value type for " ++ metric ++ ": expected " ++ expected ++ ", found " ++ found
  | transform reason => reason

namespace RawGroups

/-- All raw metrics of an entity. -/
def entity (groups : RawGroups) (group id : String) : Except FetchError RawMetrics :=
  match groups.entity? group id with
  | some metrics => .ok metrics
  | none => .error (.entityNotFound group id)

/-- One raw metric of an entity. -/
def metric (groups : RawGroups) (group id key : String) : Except FetchError RawValue :=
  match groups.entity group id with
  | .error e => .error e
  | .ok metrics =>
    match metrics.get? key with
    | some v => .ok v
    | none => .error (.metricNotFound group id key)

/-- One raw metric of an entity that has to be a text. -/
def text (groups : RawGroups) (group id key : String) : Except FetchError String :=
  match groups.metric group id key with
  | .error e => .error e
  | .ok (.scalar (.str s)) => .ok s
  | .ok v => .error (.incompatibleType key "string" v.kind)

/-- One raw metric of an entity that has to be a sample. -/
def sample (groups : RawGroups) (group id key : String) : Except FetchError Sample :=
  match groups.metric group id key with
  | .error e => .error e
  | .ok (.sample s) => .ok s
  | .ok v => .error (.incompatibleType key "sample" v.kind)

/-- A label of a sample of an entity. -/
def label (groups : RawGroups) (group id key name : String) : Except FetchError String :=
  match groups.sample group id key with
  | .error e => .error e
  | .ok s =>
    match s.labels.get? name with
    | some v => .ok v
    | none => .error (.labelNotFound key name)

end RawGroups

/-- Takes a value of an entity out of the raw groups: label of the group, raw ID, groups. -/
abbrev Fetch := (group id : String) → RawGroups → Except FetchError Fetched

/-- Derives the ID of an entity: label of the group, raw ID, groups. -/
abbrev IdGenerator := (group id : String) → RawGroups → Except FetchError String

/-- Derives the type of an entity: label of the group, raw ID, groups, name of the cluster. -/
abbrev TypeGenerator :=
  (group id : String) → RawGroups → (cluster : String) → Except FetchError String

namespace Fetch

/-- The raw metric of a name as it is. -/
def raw (key : String) : Fetch := fun group id groups =>
  (groups.metric group id key).map RawValue.fetched

/-- A fetch whose result is changed by a function. -/
def thenApply (fetch : Fetch) (f : Fetched → Except FetchError Fetched) : Fetch :=
  fun group id groups =>
    match fetch group id groups with
    | .ok v => f v
    | .error e => .error e

/-- A fetch of one text. -/
def ofText (find : (group id : String) → RawGroups → Except FetchError String) : Fetch :=
  fun group id groups => (find group id groups).map fun s => .scalar (.str s)

end Fetch

end NodeTelemetry
