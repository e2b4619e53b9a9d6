import NodeTelemetry.Network.Status
import NodeTelemetry.Text.Utf8
import NodeTelemetry.Url.Basic

/-!
# The network

What becomes of a request to a URL: the connection fails, or a reply comes back, whole or broken off. A network answers
every request for one URL in the same way.
-/

namespace NodeTelemetry

/-- What becomes of a request. -/
inductive Reply where
  /-- There is no reply. -/
  | dropped
  | reply (status : Nat) (body : List UInt8)
  /-- The reply breaks off before its body is complete. -/
  | broken (status : Nat)
  deriving DecidableEq, Repr

/-- What becomes of requests, by URL. -/
abbrev Network := Url → Reply

namespace Network

/-- The network in which no connection succeeds. -/
def unreachable : Network := fun _ => .dropped

end Network

end NodeTelemetry
