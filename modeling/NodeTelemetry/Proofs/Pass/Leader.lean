import Mathlib.Control.Monad.Basic
import NodeTelemetry.Proofs.Location
import NodeTelemetry.Proofs.Pass.Transparency

/-!
# At most one leader

A node is the leader where its own internal address is the one of the node of kube-state-metrics. All collectors that
are told the same pods, in whatever order, agree on that address, so two leaders would have one internal address.

## Main definitions

* `Agent`: a collector on a node.
* `Agent.role?`: the role to which its pass resolves, if it comes that far.
* `Agent.IsElected`: its internal address is the smallest of those on which the pods run.

## Main statements

* `Agent.role?_eq_leader_iff`: when an agent that starts without entries is the leader.
* `leader_unique`: at most one agent is the leader, and which one it is.
-/

namespace NodeTelemetry

/-- A client comes from a search that found its endpoint. -/
theorem Locator.locate_of_fresh {l : Locator} {w : Surroundings} {timeout : Time.Span}
    {c : SourceClient} (h : l.fresh w timeout = .ok c) :
    (l.locate w timeout).run.value = .ok c.endpoint := by
  rw [fresh] at h
  cases hlocate : (l.locate w timeout).run.value with
  | error e =>
    rw [hlocate] at h
    cases h
  | ok endpoint =>
    rw [hlocate] at h
    rw [endpoint_of_openClient h]

/-- The role that an event reports as that of the node. -/
def Event.resolved? : Event → Option Role
  | roleResolved role _ _ => some role
  | _ => none

/-- A collector on a node. -/
structure Agent where
  config : PassConfig
  surroundings : Surroundings
  now : Time.Instant
  cache : EndpointCache

namespace Agent

/-- The internal address of the node, if it is found and has one. -/
def internalIp? (a : Agent) : Option String :=
  match a.surroundings.node a.config.nodeName with
  | .found node => (Kubelet.internalIp a.config.nodeName node).toOption
  | _ => none

/-- The client for the kubelet. -/
def kubelet (a : Agent) : Except DiscoveryError SourceClient :=
  (Pass.kubeletConnection a.config a.surroundings a.now a.cache).client

/-- The client for kube-state-metrics. -/
def stateMetrics (a : Agent) : Except DiscoveryError SourceClient :=
  (Pass.stateMetricsConnection a.config a.surroundings a.now a.cache).client

/-- Both sources are found. -/
def Connects (a : Agent) : Prop :=
  (∃ c, a.kubelet = .ok c) ∧ ∃ c, a.stateMetrics = .ok c

/-- The pass of an agent. -/
def pass (a : Agent) (catalog : Catalog) : PassRun :=
  (Pass.run catalog a.config a.surroundings a.now a.cache).value

/-- The role to which the pass of an agent resolves, if it comes that far. -/
def role? (a : Agent) (catalog : Catalog) : Option Role :=
  (a.pass catalog).events.findSome? Event.resolved?

/-- An agent is told nothing but these pods, in some order. -/
def Hears (a : Agent) (pods : List Cluster.Pod) : Prop :=
  ∀ told, a.surroundings.pods StateMetrics.selector = .found told → told.Perm pods

/-- The node of an agent is the one on which kube-state-metrics runs, among those of its pods. -/
def IsElected (a : Agent) (pods : List Cluster.Pod) : Prop :=
  ∃ ip, a.internalIp? = some ip ∧ StateMetrics.IsSmallest ip (StateMetrics.hostIps pods)

variable {a : Agent} {catalog : Catalog} {pods : List Cluster.Pod}

/-! ### The role of one agent -/

/-- An agent has a role if its kubelet is found, from both clients. -/
theorem role?_of_kubelet {c : SourceClient} (h : a.kubelet = .ok c) :
    a.role? catalog = some (Pass.role c a.stateMetrics) := by
  have hclient : (Pass.kubeletConnection a.config a.surroundings a.now a.cache).client = .ok c := h
  rw [role?, pass, Pass.value_run, hclient, stateMetrics]
  generalize Pass.stateMetricsConnection a.config a.surroundings a.now a.cache = connection
  obtain ⟨client, after⟩ := connection
  -- the role stands behind the events of the two connections
  cases client <;> rfl

/-- Without its kubelet an agent has no role. -/
theorem role?_of_error {e : DiscoveryError} (h : a.kubelet = .error e) : a.role? catalog = none := by
  have hclient : (Pass.kubeletConnection a.config a.surroundings a.now a.cache).client = .error e := h
  rw [role?, pass, Pass.value_run, hclient]
  rfl

/-- The role in the report of a pass is the one that is resolved on the way. -/
theorem role?_of_report {report : PassReport} (h : (a.pass catalog).result = .ok report) :
    a.role? catalog = some report.role := by
  cases hkubelet : a.kubelet with
  | error e =>
    rw [pass, Pass.result_run_of_missing hkubelet] at h
    cases h
  | ok c =>
    rw [pass, Pass.result_run_of_found hkubelet, Pass.Stages.result, Pass.verdict] at h
    split at h
    · obtain rfl := Except.ok.inj h
      exact role?_of_kubelet hkubelet
    · cases h

/-- An agent is the leader where both sources are found with one address. -/
theorem role?_eq_leader_iff_nodeIp : a.role? catalog = some .leader ↔
    ∃ c d, a.kubelet = .ok c ∧ a.stateMetrics = .ok d ∧ c.endpoint.nodeIp = d.endpoint.nodeIp := by
  cases hkubelet : a.kubelet with
  | error e => simp [role?_of_error hkubelet]
  | ok c =>
    rw [role?_of_kubelet hkubelet]
    cases hmetrics : a.stateMetrics with
    | error e => simp [Pass.role]
    | ok d => simp [Pass.role, Role.resolve]

/-- The client for the kubelet has the internal address of the node. -/
theorem internalIp?_of_kubelet {c : SourceClient} (hempty : a.cache.IsEmpty) (h : a.kubelet = .ok c) :
    a.internalIp? = some c.endpoint.nodeIp := by
  have hfresh : (Pass.kubeletLocator a.config).fresh a.surroundings a.config.timeout = .ok c := by
    rw [← h]
    exact (Locator.client_connect (t := Pass.timing a.config a.now)
      (Locator.cached_of_isEmpty hempty)).symm
  obtain ⟨node, hnode, hip⟩ := Kubelet.internalIp_of_locate (Locator.locate_of_fresh hfresh)
  rw [internalIp?, hnode]
  show (Kubelet.internalIp a.config.nodeName node).toOption = _
  rw [hip]
  rfl

/-- The client for kube-state-metrics has the smallest address of the pods. -/
theorem isSmallest_of_stateMetrics {c : SourceClient} (hempty : a.cache.IsEmpty)
    (hpods : a.Hears pods) (h : a.stateMetrics = .ok c) :
    StateMetrics.IsSmallest c.endpoint.nodeIp (StateMetrics.hostIps pods) := by
  -- the connection to the kubelet writes no entry for kube-state-metrics
  have hcached : (Pass.stateMetricsLocator a.config).Cached a.surroundings a.config.timeout
      (Pass.kubeletConnection a.config a.surroundings a.now a.cache).cache := by
    intro entry hentry
    rw [Pass.kubeletConnection, Locator.entry?_connect_of_ne Pass.source_ne,
      hempty.entry?_eq_none] at hentry
    cases hentry
  have hfresh : (Pass.stateMetricsLocator a.config).fresh a.surroundings a.config.timeout = .ok c := by
    rw [← h]
    exact (Locator.client_connect (t := Pass.timing a.config a.now) hcached).symm
  obtain ⟨told, htold, hsmallest⟩ :=
    StateMetrics.isSmallest_of_locate (Locator.locate_of_fresh hfresh)
  exact hsmallest.perm ((hpods told htold).filterMap _)

/-- An agent that starts without entries is the leader where it finds both sources and kube-state-metrics runs on its
node. -/
theorem role?_eq_leader_iff (hempty : a.cache.IsEmpty) (hpods : a.Hears pods) :
    a.role? catalog = some .leader ↔ a.Connects ∧ a.IsElected pods := by
  rw [role?_eq_leader_iff_nodeIp]
  constructor
  · rintro ⟨c, d, hc, hd, hip⟩
    refine ⟨⟨⟨c, hc⟩, d, hd⟩, c.endpoint.nodeIp, internalIp?_of_kubelet hempty hc, ?_⟩
    rw [hip]
    exact isSmallest_of_stateMetrics hempty hpods hd
  · rintro ⟨⟨⟨c, hc⟩, d, hd⟩, ip, hip, hsmallest⟩
    refine ⟨c, d, hc, hd, ?_⟩
    have hown : c.endpoint.nodeIp = ip :=
      Option.some.inj ((internalIp?_of_kubelet hempty hc).symm.trans hip)
    rw [hown]
    exact hsmallest.unique (isSmallest_of_stateMetrics hempty hpods hd)

end Agent

/-! ### Agents that are told the same pods -/

/-- An agent on the node of an address, without entries. -/
def Agent.on (ip : String) (pods : List Cluster.Pod) : Agent where
  config := .default
  surroundings := { Pass.surroundingsOf ip 500 with
    node := fun _ => .found { Pass.plainNode with addresses := [⟨"InternalIP", ip⟩] }
    pods := fun _ => .found pods }
  now := ⟨0, 0⟩
  cache := .missing

theorem Agent.eq_of_internalIp?_on {ip ip' : String} {pods : List Cluster.Pod}
    (h : (Agent.on ip pods).internalIp? = some ip') : ip' = ip := by
  by_cases hip : ip = ""
  · simp [internalIp?, Agent.on, Kubelet.internalIp, hip, Except.toOption] at h
  · simp [internalIp?, Agent.on, Kubelet.internalIp, hip, Except.toOption] at h
    exact h.symm

/-- Two pods of kube-state-metrics, and one that has no node yet. -/
def replicas : List Cluster.Pod := [Pass.podOn "10.0.0.2", Pass.podOn "", Pass.podOn "10.0.0.1"]

/-- The pods in the order in which they are told on the node of an address. -/
def replicasOn (ip : String) : List Cluster.Pod :=
  if ip = "10.0.0.1" then replicas else replicas.reverse

theorem hears_replicasOn (ip : String) : (Agent.on ip (replicasOn ip)).Hears replicas := by
  intro told htold
  obtain rfl := Answer.found.inj htold
  rw [replicasOn]
  split
  · exact .refl _
  · exact replicas.reverse_perm

/-! ### The roles of all agents -/

/-- Of all agents that are told the same pods at most one is the leader: the one on the node of the smallest address on
which a pod runs, if both of its sources are found. The role to which a pass resolves is the one in its report. -/
theorem leader_unique {ι : Type} (catalog : Catalog) (agents : ι → Agent) (pods : List Cluster.Pod)
    (hempty : ∀ i, (agents i).cache.IsEmpty) (hpods : ∀ i, (agents i).Hears pods)
    (hdistinct : ∀ i j ip, (agents i).internalIp? = some ip → (agents j).internalIp? = some ip → i = j) :
    (∀ i j, (agents i).role? catalog = some .leader → (agents j).role? catalog = some .leader →
      i = j) ∧
    (∀ k, (agents k).IsElected pods → (agents k).Connects →
      ∀ i, (agents i).role? catalog = some .leader ↔ i = k) ∧
    (∀ i told timeout, (agents i).surroundings.pods StateMetrics.selector = .found told →
      (StateMetrics.nodeIp (agents i).surroundings timeout).run.value = StateMetrics.podNode pods) ∧
    ∀ i report, ((agents i).pass catalog).result = .ok report → (agents i).role? catalog = some report.role := by
  -- the address of the node of kube-state-metrics tells who can be the leader
  have helected : ∀ i j, (agents i).IsElected pods → (agents j).IsElected pods → i = j := by
    rintro i j ⟨ip, hi, hip⟩ ⟨ip', hj, hip'⟩
    obtain rfl := hip.unique hip'
    exact hdistinct i j ip hi hj
  refine ⟨fun i j hi hj => ?_, fun k hk hconnects i => ?_, fun i told timeout htold => ?_,
    fun i report hreport => Agent.role?_of_report hreport⟩
  · exact helected i j ((Agent.role?_eq_leader_iff (hempty i) (hpods i)).1 hi).2
      ((Agent.role?_eq_leader_iff (hempty j) (hpods j)).1 hj).2
  · rw [Agent.role?_eq_leader_iff (hempty i) (hpods i)]
    constructor
    · rintro ⟨-, hi⟩
      exact helected i k hi hk
    · rintro rfl
      exact ⟨hconnects, hk⟩
  · rw [StateMetrics.value_nodeIp htold, StateMetrics.podNode_perm (hpods i told htold)]

/-- Of all agents on the nodes of addresses, the one on the smaller of the two nodes with pods is the leader. -/
theorem leader_unique_replicas :
    (Agent.on "10.0.0.1" (replicasOn "10.0.0.1")).role? .standard = some .leader ∧
      (Agent.on "10.0.0.2" (replicasOn "10.0.0.2")).role? .standard ≠ some .leader := by
  have hempty : EndpointCache.missing.IsEmpty := fun source => by cases source <;> rfl
  have helected : (Agent.on "10.0.0.1" (replicasOn "10.0.0.1")).IsElected replicas :=
    ⟨"10.0.0.1", by decide +kernel, by decide +kernel, by decide +kernel⟩
  have hconnects : (Agent.on "10.0.0.1" (replicasOn "10.0.0.1")).Connects :=
    ⟨⟨.plain Pass.plainEndpoint, by decide +kernel⟩,
      .plain ⟨{ Pass.serviceUrl with path := .segments [""] }, "10.0.0.1", .none⟩, by decide +kernel⟩
  have hleader := (leader_unique .standard (fun ip => Agent.on ip (replicasOn ip)) replicas
    (fun _ => hempty) hears_replicasOn
    (fun _ _ _ hi hj => (Agent.eq_of_internalIp?_on hi).symm.trans
      (Agent.eq_of_internalIp?_on hj))).2.1 "10.0.0.1" helected hconnects
  refine ⟨(hleader "10.0.0.1").2 rfl, fun h => ?_⟩
  have heq := (hleader "10.0.0.2").1 h
  simp at heq

end NodeTelemetry
