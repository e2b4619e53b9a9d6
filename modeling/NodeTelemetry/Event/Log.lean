import NodeTelemetry.Event
import NodeTelemetry.Json.Printer
import NodeTelemetry.Time.Rfc3339

/-!
# The log

An event is logged as one line of JSON: the time, the level, and the sentence together with the fields.
-/

namespace NodeTelemetry.Event

/-- The document of an event on a node at a time. -/
def json (node : String) (now : Time.Instant) (e : Event) : Json :=
  let fields := ("message", e.message) :: e.fields node
  .obj [("timestamp", .str (now.text "Z")), ("level", .str e.level.name),
    ("fields", .obj (fields.map fun field => (field.1, .str field.2)))]

/-- The line of an event in the log. -/
def line (node : String) (now : Time.Instant) (e : Event) : String :=
  (e.json node now).text

end NodeTelemetry.Event
