import NodeTelemetry.Endpoint
import NodeTelemetry.Json.Parser
import NodeTelemetry.Surroundings

/-!
# Clients of sources

A client is bound to a located source. It asks for documents by paths below the URL of the source, and
gives them as text or as what a reader makes of their JSON.

## Main definitions

* `SourceClient.connect`: the client for an endpoint.
* `SourceClient.requestUrl`: the URL of a path below the endpoint.
* `SourceClient.text`, `SourceClient.json`: the document of a path.
-/

namespace NodeTelemetry

/-- Why a document can not be had. -/
inductive RequestError where
  | invalidPath (path : String) (source : UrlError)
  /-- There is no reply. -/
  | dropped (url : Url)
  | status (url : Url) (status : Nat)
  /-- The document is not what it should be, or not complete. -/
  | undecodable (url : Url)
  deriving DecidableEq, Repr

/-- The wording of a failed request. -/
def RequestError.message : RequestError → String
  | invalidPath path source => "invalid request path " ++ path ++ ": " ++ source.message
  | dropped url => "request to " ++ url.text ++ " failed"
  | status url n => "request to " ++ url.text ++ " returned " ++ Network.statusText n
  | undecodable url => "failed to decode response from " ++ url.text

/-- A client bound to a located source. -/
structure SourceClient where
  endpoint : Endpoint
  /-- Whether requests carry the token of the service account. -/
  authenticated : Bool
  deriving DecidableEq, Repr

namespace SourceClient

/-- A client that does not authenticate. -/
def plain (endpoint : Endpoint) : SourceClient := ⟨endpoint, false⟩

/-- The client for an endpoint, which authenticates as the endpoint wants it. -/
def connect (w : Surroundings) (endpoint : Endpoint) : Lookup Cluster.ApiError SourceClient :=
  match endpoint.auth with
  | .none => return .plain endpoint
  | .serviceAccount => do
    w.openSecureClient
    return ⟨endpoint, true⟩

/-- The URL of a path below the endpoint. The path of the endpoint stays in front. -/
def requestUrl (c : SourceClient) (path : String) : Except RequestError Url :=
  let below := String.ofList (path.toList.dropWhile (· = '/'))
  (c.endpoint.url.withSlash.join below).mapError (.invalidPath path)

/-- Whether requests to a URL are possible at all. -/
def isRequestable (url : Url) : Bool :=
  url.scheme == "http" || url.scheme == "https"

/-- Asks for the document of a path: where it comes from, and its bytes, unless they break off. The fragment of the URL
is not part of the request. -/
def get (c : SourceClient) (w : Surroundings) (path : String) :
    Lookup RequestError (Url × Option (List UInt8)) := do
  let url ← Lookup.ofExcept (c.requestUrl path)
  if isRequestable url then
    match ← w.request url.withoutFragment with
    | .dropped => throw (.dropped url)
    | .reply status body =>
      if Network.isSuccess status then return (url, some body) else throw (.status url status)
    | .broken status =>
      if Network.isSuccess status then return (url, none) else throw (.status url status)
  else throw (.dropped url)

/-- The document of a path as text. -/
def text (c : SourceClient) (w : Surroundings) (path : String) : Lookup RequestError String := do
  let (url, body) ← c.get w path
  match body with
  | some bytes => return String.ofList (Text.Utf8.lenient bytes)
  | none => throw (.undecodable url)

/-- What a reader makes of the JSON document of a path. -/
def json {α : Type} (read : Json → Option α) (c : SourceClient) (w : Surroundings) (path : String) :
    Lookup RequestError α := do
  let (url, body) ← c.get w path
  match ((body.bind Text.Utf8.read?).bind Json.read?).bind read with
  | some x => return x
  | none => throw (.undecodable url)

end SourceClient

end NodeTelemetry
