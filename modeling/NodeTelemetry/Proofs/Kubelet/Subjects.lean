import NodeTelemetry.Entity.Store
import NodeTelemetry.Kubelet.Groups
import NodeTelemetry.Proofs.Text.Joined

/-!
# What the kubelet reports on

The documents of the kubelet report on pods, containers, volumes and the node. Each of these subjects has a place in
the raw groups, under an ID made of names, and a key among the published entities. Both are texts in which names
stand between separators, so they tell subjects apart as long as no name holds a separator.

## Main definitions

* `Subject`: what is reported on, with its place in the raw groups and its key.
* `reported`: the subjects of a list of pods and a summary.

## Main statements

* `Subject.place_injective`, `Subject.key_injective`: places and keys tell subjects apart.
-/

namespace NodeTelemetry.Kubelet

/-- What a document of the kubelet reports on. -/
inductive Subject where
  | pod (space name : String)
  | container (space pod name : String)
  | volume (space pod name : String)
  | node (name : String)
  deriving DecidableEq

namespace Subject

/-- The label of the group. -/
def group : Subject → String
  | pod .. => "pod"
  | container .. => "container"
  | volume .. => "volume"
  | node _ => "node"

/-- The raw ID in the group. -/
def rawId : Subject → String
  | pod ns name => podId ns name
  | container ns p name => partId ns p name
  | volume ns p name => partId ns p name
  | node name => name

/-- The group and the raw ID. -/
def place (s : Subject) : String × String := (s.group, s.rawId)

/-- The name of the entity. -/
def entityName : Subject → String
  | pod _ name => name
  | container _ _ name => name
  | volume ns p name => partId ns p name
  | node name => name

/-- The parts of the type of the entity behind the cluster. -/
def scope : Subject → List String
  | pod ns _ => [ns, "pod"]
  | container ns p _ => [ns, p, "container"]
  | volume ns p _ => [ns, p, "volume"]
  | node _ => ["node"]

/-- The type of the entity in a cluster. -/
def entityType (cluster : String) : Subject → String
  | pod ns _ => "k8s:" ++ cluster ++ ":" ++ ns ++ ":pod"
  | container ns p _ => "k8s:" ++ cluster ++ ":" ++ ns ++ ":" ++ p ++ ":container"
  | volume ns p _ => "k8s:" ++ cluster ++ ":" ++ ns ++ ":" ++ p ++ ":volume"
  | node _ => "k8s:" ++ cluster ++ ":node"

/-- The key of the entity in a cluster. -/
def key (cluster : String) (s : Subject) : EntityKey := ⟨s.entityName, s.entityType cluster⟩

/-- The event type of the metric set. -/
def eventType : Subject → String
  | pod .. => "K8sPodSample"
  | container .. => "K8sContainerSample"
  | volume .. => "K8sVolumeSample"
  | node _ => "K8sNodeSample"

/-- The names that stand between separators. -/
def names : Subject → List String
  | pod ns name => [ns, name]
  | container ns p name => [ns, p, name]
  | volume ns p name => [ns, p, name]
  | node _ => []

/-- The raw metrics by which the subject is recognised. -/
def marks : Subject → List (String × String)
  | pod ns _ => [("namespace", ns)]
  | container ns p name => [("namespace", ns), ("podName", p), ("containerName", name)]
  | volume ns p _ => [("namespace", ns), ("podName", p)]
  | node name => [("nodeName", name)]

end Subject

/-- A name that is not empty and holds no separator, as the names of objects of the cluster are. -/
def PlainName (n : String) : Prop :=
  n ≠ "" ∧ '_' ∉ n.toList ∧ ':' ∉ n.toList

instance (n : String) : Decidable (PlainName n) :=
  inferInstanceAs (Decidable (_ ∧ _))

/-- A subject with plain names between its separators. The name of a node stands alone and may be any. -/
def Subject.WellNamed (s : Subject) : Prop :=
  ∀ n ∈ s.names, PlainName n

instance (s : Subject) : Decidable s.WellNamed :=
  inferInstanceAs (Decidable (∀ n ∈ s.names, PlainName n))

/-- A subject of which no name holds the separator of raw IDs. -/
def Subject.Separable (s : Subject) : Prop :=
  ∀ n ∈ s.names, '_' ∉ n.toList

instance (s : Subject) : Decidable s.Separable :=
  inferInstanceAs (Decidable (∀ n ∈ s.names, '_' ∉ n.toList))

theorem Subject.WellNamed.separable {s : Subject} (h : s.WellNamed) : s.Separable :=
  fun n hn => (h n hn).2.1

/-! ### Places and keys tell subjects apart -/

namespace Subject

theorem rawId_toList (s : Subject) (h : s.names ≠ []) :
    s.rawId.toList = ['_'].intercalate (s.names.map String.toList) := by
  cases s with
  | node name => exact absurd rfl h
  | pod ns name => simp [rawId, podId, names, List.intercalate]
  | container ns p name => simp [rawId, podId, partId, names, List.intercalate]
  | volume ns p name => simp [rawId, podId, partId, names, List.intercalate]

theorem entityType_toList (cluster : String) (s : Subject) :
    (s.entityType cluster).toList =
      ("k8s:" ++ cluster ++ ":").toList ++ [':'].intercalate (s.scope.map String.toList) := by
  cases s <;> simp [entityType, scope, List.intercalate]

theorem entityType_ne_empty (cluster : String) (s : Subject) : s.entityType cluster ≠ "" := by
  intro h
  have := congrArg String.toList h
  rw [entityType_toList] at this
  simp at this

variable {s t : Subject}

theorem names_eq_of_rawId_eq (hs : s.Separable) (ht : t.Separable) (hsn : s.names ≠ [])
    (htn : t.names ≠ []) (h : s.rawId = t.rawId) : s.names = t.names := by
  refine eq_of_intercalate_eq hs ht hsn htn ?_
  rw [← rawId_toList s hsn, ← rawId_toList t htn, h]

/-- Two subjects at one place are the same subject, if no name holds the separator. -/
theorem place_injective (hs : s.Separable) (ht : t.Separable) (h : s.place = t.place) : s = t := by
  obtain ⟨hgroup, hid⟩ := Prod.mk.inj h
  have hnames := names_eq_of_rawId_eq hs ht
  cases s <;> cases t <;> simp [group] at hgroup
  case node.node a b => exact congrArg node hid
  all_goals
    have := hnames (by simp [names]) (by simp [names]) hid
    simpa [names] using this

theorem scope_separator (hs : s.WellNamed) : ∀ x ∈ s.scope, ':' ∉ x.toList := by
  intro x hx
  cases s with
  | node name =>
    obtain rfl := List.mem_singleton.1 hx
    decide
  | pod ns name =>
    simp only [scope, List.mem_cons, List.not_mem_nil, or_false] at hx
    rcases hx with rfl | rfl
    · exact (hs x (by simp [names])).2.2
    · decide
  | container ns p name =>
    simp only [scope, List.mem_cons, List.not_mem_nil, or_false] at hx
    rcases hx with rfl | rfl | rfl
    · exact (hs x (by simp [names])).2.2
    · exact (hs x (by simp [names])).2.2
    · decide
  | volume ns p name =>
    simp only [scope, List.mem_cons, List.not_mem_nil, or_false] at hx
    rcases hx with rfl | rfl | rfl
    · exact (hs x (by simp [names])).2.2
    · exact (hs x (by simp [names])).2.2
    · decide

theorem scope_ne_nil (s : Subject) : s.scope ≠ [] := by
  cases s <;> simp [scope]

/-- Two subjects with plain names and one key are the same subject. -/
theorem key_injective {cluster : String} (hs : s.WellNamed) (ht : t.WellNamed)
    (h : s.key cluster = t.key cluster) : s = t := by
  obtain ⟨hname, htype⟩ := EntityKey.mk.inj h
  have hscope : s.scope = t.scope := by
    refine eq_of_intercalate_eq (scope_separator hs) (scope_separator ht) s.scope_ne_nil
      t.scope_ne_nil ?_
    have := congrArg String.toList htype
    rw [entityType_toList, entityType_toList] at this
    exact List.append_cancel_left this
  have hnames := names_eq_of_rawId_eq hs.separable ht.separable
  -- the scope tells the kind and the names in front; the last name is the one of the entity
  cases s <;> cases t <;> simp [scope] at hscope
  case node.node a b => exact congrArg node hname
  case pod.pod a b c d =>
    obtain rfl := hscope
    exact congrArg (pod a) hname
  case container.container a b c d e f =>
    obtain ⟨rfl, rfl⟩ := hscope
    exact congrArg (container a b) hname
  case volume.volume a b c d e f =>
    have := hnames (by simp [names]) (by simp [names]) hname
    simpa [names] using this

/-! ### The subjects of documents -/

/-- The subjects of a pod of the list: the pod and its containers, if the pod has a namespace and a name. -/
def ofPod (pod : Cluster.Pod) : List Subject :=
  match pod.metadata.space, pod.metadata.name with
  | some ns, some name =>
    .pod ns name ::
      match pod.spec with
      | some spec => spec.containers.map fun c => .container ns name c.name
      | none => []
  | _, _ => []

/-- The subject of the node of a summary, if the node has a name. -/
def ofNode (n : NodeStats) : List Subject :=
  if n.nodeName = "" then [] else [.node n.nodeName]

/-- The subjects that a summary of a pod adds: its volumes. -/
def ofUsage (p : PodStats) : List Subject :=
  p.volumes.map fun v => .volume p.pod.space p.pod.name v.name

end Subject

/-- The subjects of a list of pods and a summary, in the order in which the documents name them. -/
def reported (pods : List Cluster.Pod) (summary : Summary) : List Subject :=
  pods.flatMap Subject.ofPod ++ Subject.ofNode summary.node ++ summary.pods.flatMap Subject.ofUsage

end NodeTelemetry.Kubelet
