import NodeTelemetry.Catalog.Identity
import NodeTelemetry.Fetch.Sample
import NodeTelemetry.Fetch.Transform
import NodeTelemetry.Query

/-!
# What is published from kube-state-metrics

The specifications of replica sets, namespaces, deployments and pending pods, and the queries for the
series that they read. Pods that run are left to the kubelet of their node; a pending pod is on no
node yet.
-/

namespace NodeTelemetry.Catalog

open Fetch

/-- A gauge that is the number of a sample. -/
def gaugeOf (name series : String) : Spec := ⟨name, sampleValue series, .gauge⟩

/-- An attribute that is a label of a sample. -/
def attributeOf (name series label : String) : Spec := ⟨name, labelValue series label, .attr⟩

/-- A gauge that is a label of a sample as a truth value. -/
def conditionOf (name series : String) : Spec :=
  ⟨name, thenApply (labelValue series "condition") Transform.toNumericBoolean, .gauge⟩

/-- Attributes for the labels of the owner in a group. -/
def ownerLabels (parent series : String) : Spec := ⟨"label.*", inheritLabels parent series, .attr⟩

/-- The specifications of replica sets. -/
def replicaSetSpecs : SpecGroup where
  idGenerator := some (IdGenerator.labelValue "kube_replicaset_created" "replicaset")
  typeGenerator := some (TypeGenerator.labelValue "kube_replicaset_created")
  specs := [
    gaugeOf "createdAt" "kube_replicaset_created",
    gaugeOf "podsDesired" "kube_replicaset_spec_replicas",
    gaugeOf "podsReady" "kube_replicaset_status_ready_replicas",
    gaugeOf "podsTotal" "kube_replicaset_status_replicas",
    gaugeOf "podsFullyLabeled" "kube_replicaset_status_fully_labeled_replicas",
    gaugeOf "observedGeneration" "kube_replicaset_status_observed_generation",
    attributeOf "replicasetName" "kube_replicaset_created" "replicaset",
    attributeOf "namespace" "kube_replicaset_created" "namespace",
    ⟨"deploymentName", replicaSetDeployment, .attr⟩]

/-- The specifications of namespaces. -/
def namespaceSpecs : SpecGroup where
  idGenerator := none
  typeGenerator := some (TypeGenerator.labelValue "kube_namespace_created")
  specs := [
    gaugeOf "createdAt" "kube_namespace_created",
    attributeOf "namespace" "kube_namespace_created" "namespace",
    attributeOf "status" "kube_namespace_status_phase" "phase",
    ownerLabels "namespace" "kube_namespace_labels"]

/-- The specifications of deployments. Their own labels come after those of the namespace, so that they
stay where both have one. -/
def deploymentSpecs : SpecGroup where
  idGenerator := some (IdGenerator.labelValue "kube_deployment_created" "deployment")
  typeGenerator := some (TypeGenerator.labelValue "kube_deployment_created")
  specs := [
    gaugeOf "podsDesired" "kube_deployment_spec_replicas",
    gaugeOf "createdAt" "kube_deployment_created",
    gaugeOf "podsTotal" "kube_deployment_status_replicas",
    gaugeOf "podsAvailable" "kube_deployment_status_replicas_available",
    gaugeOf "podsUnavailable" "kube_deployment_status_replicas_unavailable",
    gaugeOf "podsUpdated" "kube_deployment_status_replicas_updated",
    gaugeOf "podsMaxUnavailable"
      "kube_deployment_spec_strategy_rollingupdate_max_unavailable",
    attributeOf "namespace" "kube_deployment_labels" "namespace",
    attributeOf "deploymentName" "kube_deployment_labels" "deployment",
    ownerLabels "namespace" "kube_namespace_labels",
    ownerLabels "deployment" "kube_deployment_labels"]

/-- The specifications of pending pods. -/
def pendingPodSpecs : SpecGroup where
  idGenerator := some IdGenerator.pendingPod
  typeGenerator := some (TypeGenerator.labelValue "kube_pod_status_phase")
  specs := [
    gaugeOf "createdAt" "kube_pod_created",
    gaugeOf "startTime" "kube_pod_start_time",
    attributeOf "createdKind" "kube_pod_info" "created_by_kind",
    attributeOf "createdBy" "kube_pod_info" "created_by_name",
    attributeOf "nodeIP" "kube_pod_info" "host_ip",
    attributeOf "namespace" "kube_pod_info" "namespace",
    attributeOf "nodeName" "kube_pod_info" "node",
    attributeOf "podName" "kube_pod_info" "pod",
    conditionOf "isReady" "kube_pod_status_ready",
    attributeOf "status" "kube_pod_status_phase" "phase",
    conditionOf "isScheduled" "kube_pod_status_scheduled",
    ⟨"deploymentName", podDeployment, .attr⟩,
    ownerLabels "pod" "kube_pod_labels"]

/-- The specifications for kube-state-metrics. -/
def stateMetricsSpecs : SpecGroups :=
  .ofList [("replicaset", replicaSetSpecs), ("namespace", namespaceSpecs),
    ("deployment", deploymentSpecs), ("pod", pendingPodSpecs)]

/-- The series of which every sample is kept. -/
def wholeSeries : List String := [
  "kube_replicaset_spec_replicas",
  "kube_replicaset_status_ready_replicas",
  "kube_replicaset_status_replicas",
  "kube_replicaset_status_fully_labeled_replicas",
  "kube_replicaset_status_observed_generation",
  "kube_replicaset_created",
  "kube_namespace_created",
  "kube_deployment_created",
  "kube_deployment_spec_replicas",
  "kube_deployment_status_replicas",
  "kube_deployment_status_replicas_available",
  "kube_deployment_status_replicas_unavailable",
  "kube_deployment_status_replicas_updated",
  "kube_deployment_spec_strategy_rollingupdate_max_unavailable",
  "kube_pod_info",
  "kube_pod_created",
  "kube_pod_labels",
  "kube_pod_start_time"]

/-- The series of which the samples of the present state are kept, which are those with the number 1. -/
def stateSeries : List String := [
  "kube_namespace_labels",
  "kube_namespace_status_phase",
  "kube_deployment_labels",
  "kube_pod_status_scheduled",
  "kube_pod_status_ready"]

/-- The queries for kube-state-metrics. -/
def stateMetricsQueries : List Query :=
  wholeSeries.map Query.ofSeries ++
    stateSeries.map (fun series => (Query.ofSeries series).withValue 1.0) ++
    [((Query.ofSeries "kube_pod_status_phase").withLabels .and [("phase", "Pending")]).withValue 1.0]

end NodeTelemetry.Catalog
