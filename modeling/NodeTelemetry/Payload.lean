import NodeTelemetry.Entity.Store
import NodeTelemetry.Json.Printer

/-!
# The published document

The document of a store is one line of JSON that ends in a line feed: the name of the integration, the versions of
the protocol and of the integration, and the entities.
-/

namespace NodeTelemetry.Payload

/-- The name of the integration. -/
def integrationName : String := "com.kube-telemetry.kubernetes"

/-- The version of the document's form. -/
def protocolVersion : String := "2"

/-- The document of a store. -/
def json (version : String) (store : EntityStore) : Json :=
  .obj [("name", .str integrationName), ("protocol_version", .str protocolVersion),
    ("integration_version", .str version), ("data", store.json)]

/-- The line that is published. -/
def line (version : String) (store : EntityStore) : String :=
  (json version store).text ++ "\n"

end NodeTelemetry.Payload
