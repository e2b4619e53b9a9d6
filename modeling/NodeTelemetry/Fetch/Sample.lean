import NodeTelemetry.Fetch.Basic
import NodeTelemetry.Text.Cut

/-!
# Fetches from samples

Values, IDs and types that come from the samples of an entity: the number of a sample, one of its
labels, the labels of the entity that owns this one, and the deployment behind a replica set or a pod.

## Main definitions

* `parentId`: the raw ID of the owner in another group.
* `Fetch.inheritLabels`: the labels of the owner.
* `deploymentOfCreator`: the deployment that the name of a creator implies.
-/

namespace NodeTelemetry

/-! ### Owners -/

/-- The raw ID that a sample gives the owner in a group: the namespace itself, or the namespace and the name of
the owner. -/
def Sample.ownerId? (s : Sample) (parent : String) : Option String :=
  match s.labels.get? "namespace" with
  | none => none
  | some ns =>
    if parent = "namespace" then some ns
    else (s.labels.get? parent).map fun name => ns ++ "_" ++ name

/-- The raw ID of the entity in the group `parent` that owns an entity, by the first sample of the
entity that has the labels for it. An entity owns itself in its own group. -/
def parentId (parent group id : String) (groups : RawGroups) : Except FetchError String :=
  if parent = group then .ok id
  else
    match groups.entity group id with
    | .error e => .error e
    | .ok metrics =>
      let fromValue : RawValue → Option String
        | .sample s => s.ownerId? parent
        | _ => none
      match metrics.values.findSome? fromValue with
      | some owner => .ok owner
      | none => .error (.labelNotFound (group ++ "/" ++ id) parent)

/-- What begins the name of a label that describes the labels of an object. -/
def objectLabelMark : String := "label_"

/-- The labels of an object that a sample describes, as metrics of their own. -/
def Sample.objectLabels (s : Sample) : TextMap Scalar :=
  .ofList (s.labels.entries.filterMap fun (name, value) =>
    (objectLabelMark.toList.isPrefixOf? name.toList).map fun rest =>
      ("label." ++ String.ofList rest, Scalar.str value))

/-! ### Deployments -/

/-- The name of the deployment of a replica set: the name of the set without its last part. -/
def deploymentOfReplicaSet (name : String) : String :=
  match Text.cutAtLast '-' name.toList with
  | some (before, _) => String.ofList before
  | none => ""

/-- The name of the deployment of what a creator of the given kind and name made. Only replica sets
belong to a deployment. -/
def deploymentOfCreator (kind name : String) : String :=
  if kind = "ReplicaSet" then deploymentOfReplicaSet name else ""

namespace Fetch

/-- The number of a sample. -/
def sampleValue (metric : String) : Fetch := fun group id groups =>
  (groups.sample group id metric).map fun s => .scalar (.float s.value)

/-- A label of a sample. -/
def labelValue (metric label : String) : Fetch :=
  ofText fun group id groups => groups.label group id metric label

/-- The labels of the owner in the group `parent`, as its sample of the given series describes them. -/
def inheritLabels (parent metric : String) : Fetch := fun group id groups =>
  match parentId parent group id groups with
  | .error e => .error e
  | .ok owner =>
    (groups.sample parent owner metric).map fun s => .multi s.objectLabels

/-- The deployment of a replica set. -/
def replicaSetDeployment : Fetch :=
  ofText fun group id groups =>
    (groups.label group id "kube_replicaset_created" "replicaset").map deploymentOfReplicaSet

/-- The deployment of a pod, empty unless a replica set made the pod. -/
def podDeployment : Fetch :=
  ofText fun group id groups => do
    let kind ← groups.label group id "kube_pod_info" "created_by_kind"
    let name ← groups.label group id "kube_pod_info" "created_by_name"
    .ok (deploymentOfCreator kind name)

end Fetch

/-! ### Identities -/

namespace IdGenerator

/-- The ID that a label of a sample gives. -/
def labelValue (metric label : String) : IdGenerator := fun group id groups =>
  groups.label group id metric label

/-- The ID of a pod that waits to be scheduled; any other pod is refused. -/
def pendingPod : IdGenerator := fun group id groups => do
  let phase ← groups.label group id "kube_pod_status_phase" "phase"
  if phase = "Pending" then groups.label group id "kube_pod_info" "pod"
  else .error (.transform ("ignoring pod " ++ id ++ " in phase " ++ phase))

end IdGenerator

namespace TypeGenerator

/-- The type from the name of the cluster and the labels of a sample: namespaces stand in the cluster,
containers in a pod of a namespace, and all else in a namespace. -/
def labelValue (metric : String) : TypeGenerator := fun group id groups cluster =>
  match group with
  | "namespace" => .ok ("k8s:" ++ cluster ++ ":" ++ group)
  | "container" => do
    let ns ← groups.label group id metric "namespace"
    let pod ← groups.label group id metric "pod"
    .ok ("k8s:" ++ cluster ++ ":" ++ ns ++ ":" ++ pod ++ ":" ++ group)
  | _ => do
    let ns ← groups.label group id metric "namespace"
    .ok ("k8s:" ++ cluster ++ ":" ++ ns ++ ":" ++ group)

end TypeGenerator

end NodeTelemetry
