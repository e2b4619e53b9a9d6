/-!
# Roles

The node on which kube-state-metrics runs is the leader and collects the data of the whole cluster
too; every other node is a follower.
-/

namespace NodeTelemetry

/-- What a node collects. -/
inductive Role where
  | leader
  | follower
  deriving DecidableEq, Repr

namespace Role

/-- The name of a role. -/
def name : Role → String
  | leader => "leader"
  | follower => "follower"

/-- Whether the role is that of the leader. -/
def isLeader : Role → Bool
  | leader => true
  | follower => false

/-- The role of a node: the leader is where the kubelet and kube-state-metrics have the same IP. -/
def resolve (kubeletIp stateMetricsIp : String) : Role :=
  if kubeletIp = stateMetricsIp then leader else follower

end Role

end NodeTelemetry
