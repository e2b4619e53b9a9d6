import NodeTelemetry.ServiceAccount
import NodeTelemetry.Traced

/-!
# The surroundings of a node

What the collector can ask on its node, as data: the API of the cluster, the name service, the
credentials of the service account and the network. A question to the API or to the name service may stay
open, and then the one who asked gives up after a while.

## Main definitions

* `Answer`: what becomes of a question that may stay open.
* `Surroundings`: the answers to all questions.
-/

namespace NodeTelemetry

/-- What becomes of a question that may stay open. -/
inductive Answer (ε α : Type) where
  | found (a : α)
  | failed (e : ε)
  /-- There is no answer in time. -/
  | stalled

/-- The answer to a question that is given up after a while, with `late` for that case. -/
def Answer.bounded {ε ε' α : Type} (wrap : ε → ε') (late : ε') : Answer ε α → Except ε' α
  | found a => .ok a
  | failed e => .error (wrap e)
  | stalled => .error late

/-- A record of the name service: where a service listens. -/
structure SrvRecord where
  target : String
  port : UInt16

/-- The answers to all questions of a collector. -/
structure Surroundings where
  /-- The node of a name. -/
  node : String → Answer Cluster.ApiError Cluster.Node
  /-- The pods with a label. -/
  pods : Cluster.Selector → Answer Cluster.ApiError (List Cluster.Pod)
  /-- The services with a label. -/
  services : Cluster.Selector → Answer Cluster.ApiError (List Cluster.Service)
  /-- The records of a service; a failure has a reason. -/
  srv : String → Answer String (List SrvRecord)
  /-- Whether the credentials of the service account can be used. -/
  secureClient : Except Cluster.ApiError Unit
  /-- The replies of sources. -/
  network : Network

namespace Surroundings

/-- Surroundings in which nothing answers. -/
def unreachable : Surroundings where
  node _ := .failed .api
  pods _ := .failed .api
  services _ := .failed .api
  srv _ := .failed "no name server"
  secureClient := .error (.credentials ServiceAccount.authorityFile)
  network := .unreachable

/-- Asks for a node. -/
def findNode (w : Surroundings) (name : String) : Traced (Answer Cluster.ApiError Cluster.Node) :=
  .answer (.node name) (w.node name)

/-- Asks for the pods with a label. -/
def findPods (w : Surroundings) (selector : Cluster.Selector) :
    Traced (Answer Cluster.ApiError (List Cluster.Pod)) :=
  .answer (.pods selector) (w.pods selector)

/-- Asks for the services with a label. -/
def findServices (w : Surroundings) (selector : Cluster.Selector) :
    Traced (Answer Cluster.ApiError (List Cluster.Service)) :=
  .answer (.services selector) (w.services selector)

/-- Asks for the records of a service. -/
def findSrv (w : Surroundings) (name : String) : Traced (Answer String (List SrvRecord)) :=
  .answer (.srv name) (w.srv name)

/-- Takes the credentials of the service account into use. -/
def openSecureClient (w : Surroundings) : Lookup Cluster.ApiError Unit :=
  .answer .secureClient w.secureClient

/-- Asks a source for a document. -/
def request (w : Surroundings) (url : Url) : Traced Reply :=
  .answer (.request url) (w.network url)

end Surroundings

end NodeTelemetry
