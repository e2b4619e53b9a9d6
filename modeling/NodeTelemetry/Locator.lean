import NodeTelemetry.Endpoint
import NodeTelemetry.Surroundings

/-!
# Locators

A locator finds the endpoint of one source. An endpoint that the user gives replaces the search; otherwise
strategies are tried in order until one of them succeeds.

## Main definitions

* `LocateError`: why one step of a search fails.
* `DiscoveryError`: why a search fails.
* `Locator`: how a source is found.
* `Locator.ofText`: the URL of an endpoint that the user gives.
-/

namespace NodeTelemetry

/-- Ways to find a source. -/
inductive Strategy where
  /-- The endpoint is given. -/
  | given
  /-- The name service knows the port. -/
  | dns
  /-- The API knows a service. -/
  | services
  /-- The API knows the node. -/
  | node
  deriving DecidableEq, Repr

/-- The name of a strategy in messages. -/
def Strategy.name : Strategy → String
  | given => "override"
  | dns => "dns"
  | services => "api"
  | node => "NodeApi"

/-- Why one step of a search fails. -/
inductive LocateError where
  | invalidUrl (url : String) (source : UrlError)
  /-- The URL can not be used without encryption. -/
  | unusableScheme (url : String)
  | dns (name reason : String)
  | noSrvRecord (name : String)
  | api (source : Cluster.ApiError)
  | noService (selector : Cluster.Selector)
  | noPort (selector : Cluster.Selector)
  | noPod (selector : Cluster.Selector)
  | noHostIp (selector : Cluster.Selector)
  | noInternalIp (node : String)
  | noKubeletPort (node : String)
  | timeout (operation : String) (span : Time.Span)
  deriving DecidableEq, Repr

/-- The wording of a failed step. -/
def LocateError.message : LocateError → String
  | invalidUrl url source => "wrong user-provided endpoint " ++ url ++ ": " ++ source.message
  | unusableScheme url => "endpoint " ++ url ++ " cannot be used over plain HTTP"
  | dns name reason => "DNS lookup of " ++ name ++ " failed: " ++ reason
  | noSrvRecord name => "can't get DNS port for " ++ name
  | api source => source.message
  | noService selector => "no service found by label " ++ selector.text
  | noPort selector => "could not guess the host/port of services labelled " ++ selector.text
  | noPod selector => "no pod found by label " ++ selector.text
  | noHostIp selector => "no host IP address found for pods labelled " ++ selector.text
  | noInternalIp node => "node " ++ node ++ " has no InternalIP address"
  | noKubeletPort node => "node " ++ node ++ " does not report a kubelet port"
  | timeout operation span => operation ++ " timed out after " ++ span.text

/-- Why a search fails. -/
inductive DiscoveryError where
  /-- A step fails that has no alternative. -/
  | step (cause : LocateError)
  /-- Every strategy fails; the failures are in the order of the strategies. -/
  | exhausted (failures : List (Strategy × LocateError))
  /-- The source is found but the credentials for it can not be used. -/
  | client (source : Cluster.ApiError)
  deriving DecidableEq, Repr

/-- The wording of a failed search. -/
def DiscoveryError.message : DiscoveryError → String
  | step cause => cause.message
  | exhausted failures =>
    "all discovery strategies failed: " ++
      "; ".intercalate (failures.map fun (s, e) => s.name ++ ": " ++ e.message)
  | client source => source.message

/-- How a source is found. -/
structure Locator where
  source : Source
  /-- Whether the endpoint is given. -/
  hasOverride : Bool
  /-- The strategies that the search tries, in order. -/
  strategies : List Strategy
  /-- The search, in which each question may stay open for so long. -/
  locate : Surroundings → Time.Span → Lookup DiscoveryError Endpoint

namespace Locator

/-- The endpoint that is given, if there is one: an empty text gives none. -/
def given? (url : Option String) : Option String :=
  url.filter fun s => s ≠ ""

/-- The URL of an endpoint that the user gives. A text without a scheme is meant for plain HTTP. -/
def ofText (s : String) : Except LocateError Url :=
  let text := if (Text.afterMark "://".toList s.toList).isSome then s else "http://" ++ s
  (Url.parse text).mapError (.invalidUrl s)

/-- The URL of a host and a port in a scheme. -/
def urlOf (scheme host : String) (port : Nat) : Except LocateError Url :=
  let text := scheme ++ "://" ++ host ++ ":" ++ toString port ++ "/"
  (Url.parse text).mapError (.invalidUrl text)

/-- The answer to a question of a search, or the failure of the step. -/
def bounded {ε α : Type} (wrap : ε → LocateError) (operation : String) (timeout : Time.Span)
    (answer : Traced (Answer ε α)) : Lookup LocateError α :=
  ExceptT.mk ((Answer.bounded wrap (.timeout operation timeout)) <$> answer)

end Locator

end NodeTelemetry
