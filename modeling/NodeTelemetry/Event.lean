import NodeTelemetry.Endpoint
import NodeTelemetry.Role
import NodeTelemetry.Text.Quoted

/-!
# Events

What the collector reports about its work. Every event has a name, a level, a sentence and fields, among
them the name of the node.

## Main definitions

* `Event`: what is reported.
* `Event.fields`: the fields of an event on a node.
-/

namespace NodeTelemetry

/-- How much an event matters. -/
inductive Level where
  | info
  | warn
  deriving DecidableEq, Repr

/-- The name of a level. -/
def Level.name : Level → String
  | info => "INFO"
  | warn => "WARN"

/-- What is reported. -/
inductive Event where
  | agentStarted (version cluster : String)
  | sourceDiscovered (source : Source) (url nodeIp : String)
  | sourceDiscoveryFailed (source : Source) (error : String)
  | roleResolved (role : Role) (kubeletIp : String) (stateMetricsIp : Option String)
  | sourcePopulated (source : Source) (errors : Nat)
  | sourceEmpty (source : Source) (errors : Nat)
  | sourceFailed (source : Source) (error : String)
  | passCompleted (role : Role) (entities : Nat)
  | agentShutdown (reason : String)
  deriving DecidableEq, Repr

namespace Event

/-- The event of a source after population. -/
def ofPopulation (source : Source) (populated : Bool) (errors : Nat) : Event :=
  if populated then sourcePopulated source errors else sourceEmpty source errors

/-- The name of an event. -/
def name : Event → String
  | agentStarted .. => "agent_started"
  | sourceDiscovered .. => "source_discovered"
  | sourceDiscoveryFailed .. => "source_discovery_failed"
  | roleResolved .. => "role_resolved"
  | sourcePopulated .. => "source_populated"
  | sourceEmpty .. => "source_empty"
  | sourceFailed .. => "source_failed"
  | passCompleted .. => "pass_completed"
  | agentShutdown .. => "agent_shutdown"

/-- The level of an event: a source without data is a warning. -/
def level : Event → Level
  | sourceDiscoveryFailed .. | sourceEmpty .. | sourceFailed .. => .warn
  | _ => .info

/-- The sentence of an event. -/
def message : Event → String
  | agentStarted .. => "Telemetry agent started"
  | sourceDiscovered .. => "Metrics source located"
  | sourceDiscoveryFailed .. => "Failed to locate metrics source"
  | roleResolved .. => "Resolved node role"
  | sourcePopulated .. => "Populated metrics from source"
  | sourceEmpty .. => "No metrics populated from source"
  | sourceFailed .. => "Failed to collect metrics from source"
  | passCompleted .. => "Collection pass completed"
  | agentShutdown .. => "Telemetry agent shutting down"

/-- An address that may be missing, as it stands in a field. -/
def addressText : Option String → String
  | none => "None"
  | some ip => "Some(" ++ Text.quoted ip ++ ")"

/-- The fields of an event that say what it is about. -/
def details : Event → List (String × String)
  | agentStarted version cluster => [("agent_version", version), ("cluster", cluster)]
  | sourceDiscovered source url ip => [("source", source.name), ("url", url), ("node_ip", ip)]
  | sourceDiscoveryFailed source error => [("source", source.name), ("error", error)]
  | roleResolved role kubeletIp stateMetricsIp =>
    [("role", role.name), ("kubelet_node_ip", kubeletIp),
      ("ksm_node_ip", addressText stateMetricsIp)]
  | sourcePopulated source errors => [("source", source.name), ("errors", toString errors)]
  | sourceEmpty source errors => [("source", source.name), ("errors", toString errors)]
  | sourceFailed source error => [("source", source.name), ("error", error)]
  | passCompleted role entities => [("role", role.name), ("entities", toString entities)]
  | agentShutdown reason => [("reason", reason)]

/-- The fields of an event on a node. -/
def fields (node : String) (e : Event) : List (String × String) :=
  ("event", e.name) :: ("node", node) :: e.details

end Event

end NodeTelemetry
