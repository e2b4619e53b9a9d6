import NodeTelemetry.Populate
import NodeTelemetry.Text.UpperCase

/-!
# Event types and names

What every metric set of the catalog has: the event type made from the label of its group, the
name of the cluster, and the names of its entity.
-/

namespace NodeTelemetry.Catalog

/-- The event type of a group: its label, with the first character in upper case, between `K8s` and
`Sample`. An empty label has none. -/
def eventType (group : String) : Except FetchError String :=
  match group.toList with
  | [] => .error (.transform "empty group label")
  | label => .ok ("K8s" ++ String.ofList (Text.capitalize label) ++ "Sample")

/-- The event typer of the catalog. -/
def eventTyper : EventTyper := fun _ group _ _ => eventType group

/-- Writes the name of the cluster. -/
def clusterName : Manipulator := fun _ _ cluster =>
  .ofWrites [⟨"clusterName", .str cluster, .attr⟩]

/-- Writes the name of the entity, alone and behind its type. -/
def entityNames : Manipulator := fun _ key _ =>
  .ofWrites [⟨"displayName", .str key.name, .attr⟩,
    ⟨"entityName", .str (key.type ++ ":" ++ key.name), .attr⟩]

/-- The populator of the catalog for a cluster. -/
def populator (cluster : String) : Populator :=
  ⟨cluster, eventTyper, [clusterName, entityNames]⟩

end NodeTelemetry.Catalog
