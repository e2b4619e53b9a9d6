import NodeTelemetry.Proofs.Connection.Credentials
import NodeTelemetry.Proofs.Url.Address

/-!
# Nodes whose kubelet is found

The object of a node says where its kubelet is: at the first internal address that is not empty, and on the port that it
reports. The address stands before the port as it is. So the kubelet of a node with an IPv4 address is found at that
address and on that port, also if it is the port of the scheme. A node with an IPv6 address implies no URL, since such
an address would have to stand in brackets.

## Main definitions

* `Announces`: where a node says that its kubelet is.

## Main statements

* `internalIp_eq_ok_iff`: which address of a node is taken.
* `locate_of_announces`: whether the kubelet is found, and where.
* `locate_bare_ipv6`: a node with an IPv6 address.
-/

namespace NodeTelemetry.Kubelet

variable {name ip : String} {node : Cluster.Node} {port : Int32}

/-- Whether an address of a node is internal and not empty. -/
def IsInternal (a : Cluster.Address) : Prop := a.type = "InternalIP" ∧ a.address ≠ ""

/-- The first internal address of a node. -/
def FirstInternal (node : Cluster.Node) (ip : String) : Prop :=
  ∃ a, IsFirst IsInternal node.addresses a ∧ a.address = ip

theorem internalIp_eq_ok_iff : internalIp name node = .ok ip ↔ FirstInternal node ip := by
  have hinternal (a : Cluster.Address) :
      (a.type == "InternalIP" && decide (a.address ≠ "")) = true ↔ IsInternal a := by
    simp [IsInternal]
  rw [internalIp]
  constructor
  · intro h
    split at h
    · next a hfind =>
      obtain rfl := Except.ok.inj h
      exact ⟨a, (find?_eq_some_iff_isFirst.1 hfind).congr hinternal, rfl⟩
    · cases h
  · rintro ⟨a, hfirst, rfl⟩
    rw [find?_eq_some_iff_isFirst.2 (hfirst.congr fun b => (hinternal b).symm)]

/-- A node whose object gives an address and a port of its kubelet. -/
structure Announces (node : Cluster.Node) (ip : String) (port : Int32) : Prop where
  firstInternal : FirstInternal node ip
  kubeletPort : node.kubeletPort = some port
  one_le : 1 ≤ port.toInt
  le : port.toInt ≤ 65535

/-- The scheme of a kubelet on a port, and how requests to it authenticate. -/
def accessOn (port : Int32) : String × EndpointAuth :=
  if port = securePort then ("https", .serviceAccount) else ("http", .none)

theorem isWebScheme_accessOn (port : Int32) : Url.IsWebScheme (accessOn port).1 := by
  rw [accessOn]
  split
  · exact .inr rfl
  · exact .inl rfl

theorem nodeEndpoint_of_announces (h : Announces node ip port) : nodeEndpoint name ip node =
    (Locator.urlOf (accessOn port).1 ip port.toInt.toNat).map fun url => (url, (accessOn port).2) := by
  -- a port of zero or below would be none
  have hpositive : 0 < port := Int32.lt_iff_toInt_lt.2 h.one_le
  have hfilter : node.kubeletPort.filter (fun p => 0 < p) = some port := by
    rw [h.kubeletPort, Option.filter_some_pos]
    exact decide_eq_true hpositive
  rw [nodeEndpoint, hfilter, accessOn]
  by_cases hsecure : port = securePort
  · simp [hsecure]
  · simp [hsecure]

/-- The search without a given endpoint finds what the URL of the announced address and port is. -/
theorem value_locate {w : Surroundings} {timeout : Time.Span} {url : Option String}
    (hurl : Locator.given? url = none) (hnode : w.node name = .found node) (h : Announces node ip port) :
    ((locator name url).locate w timeout).run.value =
      match Locator.urlOf (accessOn port).1 ip port.toInt.toNat with
      | .ok url => .ok ⟨url, ip, (accessOn port).2⟩
      | .error e => .error (.exhausted [(.node, e)]) := by
  have hanswer : (w.findNode name).value = .found node := hnode
  rw [locator]
  simp only [hurl, Lookup.value_bind, Lookup.value_mapError, Lookup.value_bounded, Lookup.value_ofExcept, hanswer,
    internalIp_eq_ok_iff.2 h.firstInternal, located, nodeEndpoint_of_announces h, Answer.bounded, Except.mapError,
    Except.bind]
  cases Locator.urlOf (accessOn port).1 ip port.toInt.toNat <;> rfl

/-- The kubelet of a node with an IPv4 address is found there, on the port that the node reports. That of a node with an
IPv6 address is not found. -/
theorem locate_of_announces {w : Surroundings} {timeout : Time.Span} {url : Option String}
    (hurl : Locator.given? url = none) (hnode : w.node name = .found node) (h : Announces node ip port) :
    (∀ address < 4294967296, ip = (Host.ipv4 address).text →
      ∃ e, ((locator name url).locate w timeout).run.value = .ok e ∧
        e.url.host = some (.ipv4 address) ∧ e.url.effectivePort? = some port.toInt.toNat ∧
        (e.url.scheme, e.auth) = (if port = 10250 then ("https", .serviceAccount) else ("http", .none)) ∧
        e.nodeIp = ip) ∧
    ∀ pieces, Host.readIpv6 ip.toList = .ok pieces →
      ∃ text e, ((locator name url).locate w timeout).run.value =
        .error (.exhausted [(.node, .invalidUrl text e)]) := by
  have hport : port.toInt.toNat ≤ 65535 := Int.toNat_le.2 h.le
  have hweb := isWebScheme_accessOn port
  rw [value_locate hurl hnode h]
  refine ⟨fun address haddress hip => ?_, fun pieces hpieces => ?_⟩
  · rw [hip, Locator.urlOf_ipv4 hweb haddress hport]
    exact ⟨_, rfl, rfl, Url.portOf_orElse _ _, rfl, rfl⟩
  · obtain ⟨e, he⟩ := Locator.urlOf_ipv6 hweb hpieces port.toInt.toNat
    rw [he]
    exact ⟨_, e, rfl⟩

/-- A node with an external and an internal address. -/
def nodeAt (ip : String) (port : Int32) : Cluster.Node where
  metadata := { Cluster.Metadata.empty with name := some "node-1" }
  addresses := [⟨"ExternalIP", "203.0.113.7"⟩, ⟨"InternalIP", ip⟩]
  kubeletPort := some port

theorem announces_nodeAt (hip : ip ≠ "") (hone : 1 ≤ port.toInt) (hport : port.toInt ≤ 65535) :
    Announces (nodeAt ip port) ip port where
  firstInternal := by
    refine ⟨⟨"InternalIP", ip⟩, ⟨[⟨"ExternalIP", "203.0.113.7"⟩], [], rfl, ⟨rfl, hip⟩, fun b hb => ?_⟩, rfl⟩
    obtain rfl := List.mem_singleton.1 hb
    exact fun h => absurd h.1 (by decide)
  kubeletPort := rfl
  one_le := hone
  le := hport

def knowing (node : Cluster.Node) : Surroundings :=
  { Surroundings.unreachable with node := fun _ => .found node }

/-- The kubelet with the encrypted port is found at the IPv4 address of its node. -/
theorem locate_of_announces_ipv4 :
    Announces (nodeAt "10.0.0.1" 10250) "10.0.0.1" 10250 ∧
      ∃ e, ((locator "node-1" none).locate (knowing (nodeAt "10.0.0.1" 10250)) (.ofSeconds 5)).run.value = .ok e ∧
        e.url.host = some (.ipv4 167772161) ∧ e.url.effectivePort? = some 10250 ∧
        (e.url.scheme, e.auth) = ("https", .serviceAccount) ∧ e.nodeIp = "10.0.0.1" := by
  have hannounces : Announces (nodeAt "10.0.0.1" 10250) "10.0.0.1" 10250 :=
    announces_nodeAt (by decide) (by decide) (by decide)
  have hgiven : Locator.given? none = none := rfl
  have hnode : (knowing (nodeAt "10.0.0.1" 10250)).node "node-1" = .found (nodeAt "10.0.0.1" 10250) := rfl
  exact ⟨hannounces, (locate_of_announces hgiven hnode hannounces).1 167772161 (by decide) (by decide)⟩

/-- The kubelet of a node with an IPv6 address is not found, as the address is not put in brackets. -/
theorem locate_bare_ipv6 :
    Announces (nodeAt "fd00::1" 10250) "fd00::1" 10250 ∧
      Host.readIpv6 "fd00::1".toList = .ok [64768, 0, 0, 0, 0, 0, 0, 1] ∧
      ((locator "node-1" none).locate (knowing (nodeAt "fd00::1" 10250)) (.ofSeconds 5)).run.value =
        .error (.exhausted [(.node, .invalidUrl "https://fd00::1:10250/" .invalidPort)]) := by
  refine ⟨announces_nodeAt (by decide) (by decide) (by decide), ?_, ?_⟩
  · decide
  · decide +kernel

end NodeTelemetry.Kubelet
