import NodeTelemetry.Fetch.Basic
import NodeTelemetry.MetricSet

/-!
# Specifications

A specification names a metric, says where its value comes from and declares its type. The
specifications of a group, with what derives the identity of its entities, are kept under the label of
the group.
-/

namespace NodeTelemetry

/-- One metric to publish. -/
structure Spec where
  /-- The name of the metric. A fetch of several values names its metrics itself. -/
  name : String
  fetch : Fetch
  type : MetricType

/-- What is published for the entities of a group. -/
structure SpecGroup where
  /-- Derives the ID; without it the raw ID is the ID. -/
  idGenerator : Option IdGenerator
  /-- Derives the type; without it the type is empty. -/
  typeGenerator : Option TypeGenerator
  /-- The metrics in the order in which they are written. -/
  specs : List Spec

/-- The specifications of all groups by label. -/
abbrev SpecGroups := TextMap SpecGroup

end NodeTelemetry
