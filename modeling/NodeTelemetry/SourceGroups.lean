import NodeTelemetry.Exposition
import NodeTelemetry.Query
import NodeTelemetry.SourceClient

/-!
# What a source gives

The raw groups of a source, with the failures on the way that cost only part of the data; or the failure
that costs all of it.

## Main definitions

* `GroupError`: what can fail.
* `SourceGroups`: raw groups with partial failures.
* `fetchFamilies`: the families that queries keep of the series of a source.
-/

namespace NodeTelemetry

/-- What can fail when raw groups are made. -/
inductive GroupError where
  /-- A document of the source can not be had. -/
  | fetch (path : String) (source : RequestError)
  /-- The series of the source can not be had. -/
  | series (path : String) (source : RequestError)
  | nodeLabels (node : String) (source : Cluster.ApiError)
  | noData (source : Source)
  deriving DecidableEq, Repr

/-- The wording of a failure. -/
def GroupError.message : GroupError → String
  | fetch path source => "failed to fetch " ++ path ++ ": " ++ source.message
  | series path source => "failed to fetch metrics from " ++ path ++ ": " ++ source.message
  | nodeLabels node source => "failed to read labels of node " ++ node ++ ": " ++ source.message
  | noData source => "no data was fetched from " ++ source.name

/-- Raw groups with the failures that cost part of the data. -/
structure SourceGroups where
  groups : RawGroups
  errors : List GroupError

/-- The families that queries keep of the series under a path. -/
def fetchFamilies (c : SourceClient) (w : Surroundings) (queries : List Query) (path : String) :
    Lookup GroupError (List Family) := do
  let text ← Lookup.mapError (.series path) (c.text w path)
  return Query.families queries (Exposition.read text)

end NodeTelemetry
