import NodeTelemetry.Cluster.Object
import NodeTelemetry.Json.Parser
import NodeTelemetry.Network
import NodeTelemetry.Time.Span

/-!
# The API of the cluster

Nodes are asked for by name, pods and services by a label. A question goes to a path, and the reply carries a
document with the objects or with the reason of a failure.

## Main definitions

* `ApiError`: why a question to the API has no answer.
* `Selector`: a label with its value.
* `nodePath`, `podsPath`, `servicesPath`: where the questions go.
* `readNode`, `readPods`, `readServices`: what the replies say.
-/

namespace NodeTelemetry.Cluster

/-- Why a question to the API of the cluster has no answer. -/
inductive ApiError where
  /-- The API can not be reached, refuses, or answers with something else. -/
  | api
  | notFound (what : String)
  /-- A file of the service account can not be read. -/
  | credentials (path : String)
  | invalidToken
  | timeout (span : Time.Span)
  /-- The certificate of the cluster's authority is not one. -/
  | invalidAuthority
  deriving DecidableEq, Repr

/-- The wording of an error. -/
def ApiError.message : ApiError → String
  | api => "kubernetes API error"
  | notFound what => what ++ " not found"
  | credentials path => "failed to read service account file " ++ path
  | invalidToken => "invalid service account token"
  | timeout span => "request timed out after " ++ span.text
  | invalidAuthority => "failed to build secure HTTP client"

/-- A label with its value. -/
structure Selector where
  label : String
  value : String
  deriving DecidableEq, Repr

/-- The written form of a selector. -/
def Selector.text (s : Selector) : String := s.label ++ "=" ++ s.value

/-! ### Questions -/

/-- The form of a byte in the value of a query: letters, digits and four marks stand for themselves, a
blank is a plus, and every other byte stands in hexadecimal digits behind a percent sign. -/
def formByte (b : UInt8) : List Char :=
  let c := Char.ofNat b.toNat
  if b < 128 && (c.isAlphanum || "*-._".toList.contains c) then [c]
  else if c = ' ' then ['+']
  else ['%', (Nat.digitChar (b.toNat / 16)).toUpper, (Nat.digitChar (b.toNat % 16)).toUpper]

/-- The form of a text in the value of a query. -/
def formText (s : String) : String :=
  String.ofList (s.toUTF8.toList.flatMap formByte)

/-- The path and query of the question for a node. -/
def nodePath (name : String) : String := "/api/v1/nodes/" ++ name

/-- The path and query of the question for all objects of a kind with a label. -/
def listPath (kind : String) (selector : Selector) : String :=
  "/api/v1/" ++ kind ++ "?&labelSelector=" ++ formText selector.text

/-- The path and query of the question for pods. -/
def podsPath (selector : Selector) : String := listPath "pods" selector

/-- The path and query of the question for services. -/
def servicesPath (selector : Selector) : String := listPath "services" selector

/-! ### Replies -/

/-- Whether a document describes the failure that an object does not exist. -/
def isNotFound (j : Json) : Bool :=
  match j.asFields? with
  | some fs =>
    (fs.lookup "reason").bind Json.asText? = some "NotFound" &&
      ((fs.lookup "status").bind Json.asText?).isSome &&
      ((fs.lookup "code").bind Json.asUInt64?).isSome
  | none => false

/-- The document of a reply, and whether it describes a failure. -/
def readDocument (reply : Reply) : Except ApiError (Bool × Json) :=
  match reply with
  | .dropped | .broken _ => .error .api
  | .reply status body =>
    match (Text.Utf8.read? body).bind Json.read? with
    | some j => .ok (400 ≤ status, j)
    | none => .error .api

/-- The object of a reply. -/
def readObject {α : Type} (read : Json → Option α) (missing : ApiError) (reply : Reply) :
    Except ApiError α := do
  let (failed, j) ← readDocument reply
  if failed then .error (if isNotFound j then missing else .api)
  else
    match read j with
    | some x => .ok x
    | none => .error .api

/-- The node of a reply to the question for the node of a name. -/
def readNode (name : String) (reply : Reply) : Except ApiError Node :=
  readObject Node.read? (.notFound ("node " ++ name)) reply

/-- Reads a list of objects. -/
def readItems? {α : Type} (read : Json → Option α) (j : Json) : Option (List α) := do
  Json.fieldD "items" [] (Json.asListOf? read) (← j.asFields?)

/-- The pods of a reply. -/
def readPods (reply : Reply) : Except ApiError (List Pod) :=
  readObject (readItems? Pod.read?) .api reply

/-- The services of a reply. -/
def readServices (reply : Reply) : Except ApiError (List Service) :=
  readObject (readItems? Service.read?) .api reply

end NodeTelemetry.Cluster
