import NodeTelemetry.Catalog.Kubelet
import NodeTelemetry.Catalog.StateMetrics

/-!
# The catalog

What is published from both sources: the specifications by which raw groups are populated, and the queries by
which series are kept.
-/

namespace NodeTelemetry

/-- Specifications and queries for one source. -/
structure SourceCatalog where
  specs : SpecGroups
  queries : List Query

/-- Specifications and queries for both sources. -/
structure Catalog where
  stateMetrics : SourceCatalog
  kubelet : SourceCatalog

/-- The catalog of the collector. -/
def Catalog.standard : Catalog :=
  ⟨⟨stateMetricsSpecs, stateMetricsQueries⟩, ⟨kubeletSpecs, containerQueries⟩⟩

end NodeTelemetry
