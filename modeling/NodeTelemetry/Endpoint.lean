import NodeTelemetry.Json.Record
import NodeTelemetry.Url.Parser

/-!
# Sources and their endpoints

The two sources of metrics and where they are found: a URL, the IP of the node on which the source
runs, and how requests authenticate.
-/

namespace NodeTelemetry

/-- A source of metrics. -/
inductive Source where
  | kubelet
  | stateMetrics
  deriving DecidableEq, Repr

/-- The name of a source. -/
def Source.name : Source → String
  | kubelet => "kubelet"
  | stateMetrics => "kube-state-metrics"

/-- The source of a name. -/
def Source.ofName? (s : String) : Option Source :=
  [kubelet, stateMetrics].find? fun source => source.name == s

/-- How requests to an endpoint authenticate. -/
inductive EndpointAuth where
  | none
  /-- With the token of the service account, and trusting the authority of the cluster. -/
  | serviceAccount
  deriving DecidableEq, Repr

/-- The name of a way to authenticate. -/
def EndpointAuth.name : EndpointAuth → String
  | none => "none"
  | serviceAccount => "service_account"

/-- The way to authenticate of a name. -/
def EndpointAuth.ofName? (s : String) : Option EndpointAuth :=
  if s = "none" then some none
  else if s = "service_account" then some serviceAccount
  else Option.none

/-- A located source. -/
structure Endpoint where
  url : Url
  /-- The IP of the node on which the source runs. -/
  nodeIp : String
  auth : EndpointAuth
  deriving DecidableEq, Repr

namespace Endpoint

/-- The document of an endpoint. -/
def json (e : Endpoint) : Json :=
  .obj [("url", .str e.url.text), ("node_ip", .str e.nodeIp), ("auth", .str e.auth.name)]

/-- Reads a URL. -/
def readUrl? (j : Json) : Option Url :=
  j.asText?.bind fun s => (Url.parse s).toOption

/-- Reads a way to authenticate: its name, or an object with its name and `null`. -/
def readAuth? (j : Json) : Option EndpointAuth :=
  match j with
  | .str s => EndpointAuth.ofName? s
  | .obj [(s, .null)] => EndpointAuth.ofName? s
  | _ => none

/-- Reads an endpoint. Without a word on how to authenticate there is no authentication. -/
def read? (j : Json) : Option Endpoint :=
  match j.strictRecord ["url", "node_ip", "auth"] 2 with
  | some [url, nodeIp, auth] => do
    let url ← Json.required readUrl? url
    let nodeIp ← Json.required Json.asText? nodeIp
    let auth ← Json.defaulted .none readAuth? auth
    some ⟨url, nodeIp, auth⟩
  | _ => none

end Endpoint

end NodeTelemetry
