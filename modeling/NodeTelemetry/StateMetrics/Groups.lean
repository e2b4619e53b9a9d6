import NodeTelemetry.SourceGroups

/-!
# The raw groups of kube-state-metrics

Every sample is put into the group of each label that it carries, under an ID made from its labels. A
sample can be in several groups: one of a pod also carries the label of its namespace. In one entity,
the last sample of a series counts.

## Main definitions

* `StateMetrics.rawId`: the ID of the entity that a sample belongs to.
* `StateMetrics.groupByLabels`: the raw groups of families.
* `StateMetrics.collect`: the raw groups of the source.
-/

namespace NodeTelemetry.StateMetrics

/-- The path of the series. -/
def metricsPath : String := "/metrics"

/-- The ID of the entity of a group that a sample belongs to. A missing label reads as the empty text. -/
def rawId (group : String) (s : Sample) : String :=
  match group with
  | "namespace" => s.label group
  | "container" => s.label "namespace" ++ "_" ++ s.label "pod" ++ "_" ++ s.label group
  | _ => s.label "namespace" ++ "_" ++ s.label group

/-- One sample of a series at its place in a group. -/
structure Placement where
  group : String
  id : String
  series : String
  sample : Sample

/-- Puts a sample at its place. -/
def Placement.apply (groups : RawGroups) (p : Placement) : RawGroups :=
  groups.update p.group p.id fun metrics => metrics.insert p.series (.sample p.sample)

/-- The places of all samples in one group: of those that carry its label. -/
def placementsIn (group : String) (families : List Family) : List Placement :=
  families.flatMap fun f =>
    (f.samples.filter fun s => s.labels.contains group).map fun s =>
      ⟨group, rawId group s, f.name, s⟩

/-- The raw groups of families, for the given labels. -/
def groupByLabels (labels : List String) (families : List Family) : RawGroups :=
  (labels.flatMap fun group => placementsIn group families).foldl Placement.apply .empty

/-- The raw groups of kube-state-metrics, for the given labels. -/
def collect (c : SourceClient) (w : Surroundings) (queries : List Query) (labels : List String) :
    Lookup GroupError SourceGroups := do
  let families ← fetchFamilies c w queries metricsPath
  if families.isEmpty then throw (.noData .stateMetrics)
  return ⟨groupByLabels labels families, []⟩

end NodeTelemetry.StateMetrics
