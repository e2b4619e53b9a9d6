import NodeTelemetry.EndpointCache
import NodeTelemetry.Locator
import NodeTelemetry.SourceClient

/-!
# Connecting to sources

A source is connected to through the cache: an endpoint that still counts is used as it is, and otherwise the
source is searched for and the endpoint that is found is kept. A given endpoint passes the cache by in
both directions.

## Main definitions

* `Locator.connect`: the client for a source, and the cache afterwards.
-/

namespace NodeTelemetry

/-- How long questions may stay open and endpoints count, and what time it is. -/
structure Timing where
  timeout : Time.Span
  ttl : Time.Lifetime
  now : Time.Instant

/-- What a connection gives: a client or a failure, and the cache afterwards. -/
structure Connection where
  client : Except DiscoveryError SourceClient
  cache : EndpointCache

namespace Locator

/-- The client for an endpoint that is found. -/
def openClient (w : Surroundings) (endpoint : Endpoint) : Traced (Except DiscoveryError SourceClient) :=
  (Lookup.mapError DiscoveryError.client (SourceClient.connect w endpoint)).run

/-- The client for a source, and the cache afterwards. An entry that can not be written is no failure. -/
def connect (l : Locator) (w : Surroundings) (t : Timing) (cache : EndpointCache) :
    Traced Connection := do
  let known :=
    if l.hasOverride then none else cache.live? t.ttl t.now l.source
  match known with
  | some endpoint => return ⟨← openClient w endpoint, cache⟩
  | none =>
    match ← (l.locate w t.timeout).run with
    | .error e => return ⟨.error e, cache⟩
    | .ok endpoint =>
      let after := if l.hasOverride then cache else cache.keep l.source ⟨endpoint, t.now⟩
      return ⟨← openClient w endpoint, after⟩

end Locator

end NodeTelemetry
