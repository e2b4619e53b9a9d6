import NodeTelemetry.Value.Scalar

/-!
# Raw groups

What a source reports, brought into one shape: under the label of a group and the ID of an entity
stand the raw metrics of that entity by name.
-/

namespace NodeTelemetry

/-- One sample of a series: a number and the labels of the series. -/
structure Sample where
  value : Float
  labels : TextMap String

/-- The value of a label. A label that is not there reads as the empty text. -/
def Sample.label (s : Sample) (name : String) : String :=
  s.labels.getD name ""

/-- A value as a source reports it. -/
inductive RawValue where
  | scalar (v : Scalar)
  | labels (labels : TextMap String)
  | sample (s : Sample)

namespace RawValue

/-- The name of the kind of value, for messages. -/
def kind : RawValue → String
  | scalar v => v.kind
  | labels _ => "labels"
  | sample _ => "sample"

/-- The value that a fetch gives for a raw value: labels give one value per label, and a sample gives its
number. -/
def fetched : RawValue → Fetched
  | scalar v => .scalar v
  | labels m => .multi (m.map .str)
  | sample s => .scalar (.float s.value)

end RawValue

/-- The raw metrics of one entity by name. -/
abbrev RawMetrics := TextMap RawValue

/-- The raw entities of one group by ID. -/
abbrev RawEntities := TextMap RawMetrics

/-- All groups of a source by label. -/
abbrev RawGroups := TextMap RawEntities

namespace RawGroups

/-- The raw metrics of an entity, if the group and the entity exist. -/
def entity? (groups : RawGroups) (group id : String) : Option RawMetrics :=
  (groups.get? group).bind fun entities => entities.get? id

/-- Changes the raw metrics of an entity. The group and the entity are created where they are missing. -/
def update (groups : RawGroups) (group id : String) (f : RawMetrics → RawMetrics) : RawGroups :=
  groups.alter group fun entities =>
    (entities.getD .empty).alter id fun metrics => f (metrics.getD .empty)

/-- Changes the raw metrics of an entity, if it exists. -/
def updateExisting (groups : RawGroups) (group id : String) (f : RawMetrics → RawMetrics) :
    RawGroups :=
  match groups.get? group with
  | none => groups
  | some entities =>
    match entities.get? id with
    | none => groups
    | some metrics => groups.insert group (entities.insert id (f metrics))

end RawGroups

end NodeTelemetry
