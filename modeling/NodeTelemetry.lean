import NodeTelemetry.TextMap
import NodeTelemetry.Text.Blank
import NodeTelemetry.Text.Cut
import NodeTelemetry.Text.Word
import NodeTelemetry.Text.Quoted
import NodeTelemetry.Text.UpperCase
import NodeTelemetry.Decimal.Power
import NodeTelemetry.Decimal.Layout
import NodeTelemetry.Decimal.Literal
import NodeTelemetry.Time.Rfc3339
import NodeTelemetry.Json.Parser
import NodeTelemetry.Json.Printer
import NodeTelemetry.Json.Record
import NodeTelemetry.Entity.Store
import NodeTelemetry.Exposition
import NodeTelemetry.Query
import NodeTelemetry.Fetch.Sample
import NodeTelemetry.Fetch.Transform
import NodeTelemetry.Populate
import NodeTelemetry.Quantity
import NodeTelemetry.Role
import NodeTelemetry.Catalog
import NodeTelemetry.Payload
import NodeTelemetry.Url.Parser
import NodeTelemetry.Cluster.Object
import NodeTelemetry.Endpoint
import NodeTelemetry.Kubelet.Summary
import NodeTelemetry.Sha256
import NodeTelemetry.Text.Utf8
import NodeTelemetry.Time.Span
import NodeTelemetry.Network
import NodeTelemetry.Cluster.Api
import NodeTelemetry.ServiceAccount
import NodeTelemetry.Surroundings
import NodeTelemetry.Locator
import NodeTelemetry.Kubelet.Location
import NodeTelemetry.StateMetrics.Location
import NodeTelemetry.SourceClient
import NodeTelemetry.EndpointCache
import NodeTelemetry.Connection
import NodeTelemetry.SourceGroups
import NodeTelemetry.StateMetrics.Groups
import NodeTelemetry.Kubelet.Groups
import NodeTelemetry.Event
import NodeTelemetry.Pass
import NodeTelemetry.Settings
import NodeTelemetry.Event.Log
import NodeTelemetry.Main
import NodeTelemetry.Text.Table
import NodeTelemetry.Text.Combining
import NodeTelemetry.Text.Direction
import NodeTelemetry.Text.Joining
import NodeTelemetry.Text.Composition
import NodeTelemetry.Url.DomainMapping
import NodeTelemetry.Proofs.Populate
import NodeTelemetry.Proofs.Kubelet.Entities
import NodeTelemetry.Proofs.Pass.Independence
import NodeTelemetry.Proofs.Pass.Transparency
import NodeTelemetry.Proofs.Pass.Leader
import NodeTelemetry.Proofs.Value.Doubles
import NodeTelemetry.Proofs.Kubelet.Kinds
import NodeTelemetry.Proofs.Query
import NodeTelemetry.Proofs.StateMetrics.Placements
import NodeTelemetry.Proofs.StateMetrics.Kinds
import NodeTelemetry.Proofs.Populate.Values
import NodeTelemetry.Proofs.StateMetrics.Written
import NodeTelemetry.Proofs.StateMetrics.PendingPods
import NodeTelemetry.Proofs.StateMetrics.DeploymentLabels
import NodeTelemetry.Proofs.Populate.InPlace
import NodeTelemetry.Proofs.Populate.Steps
import NodeTelemetry.Proofs.Populate.Writes
import NodeTelemetry.Proofs.Populate.Recorded
import NodeTelemetry.Proofs.Populate.Locality
import NodeTelemetry.Proofs.Catalog.Locality
import NodeTelemetry.Proofs.Catalog.Naming
import NodeTelemetry.Proofs.Publication
import NodeTelemetry.Proofs.EndpointCache.Writes
import NodeTelemetry.Proofs.Connection.Visits
import NodeTelemetry.Proofs.Connection.Credentials
import NodeTelemetry.Proofs.Pass.Reports
import NodeTelemetry.Proofs.Kubelet.Nulls
import NodeTelemetry.Proofs.Pass.SharedPods
import NodeTelemetry.Proofs.Pass.Events
import NodeTelemetry.Proofs.Pass.Overrides
import NodeTelemetry.Proofs.Query.Families
import NodeTelemetry.Proofs.StateMetrics.LastSample
import NodeTelemetry.Proofs.StateMetrics.Owners
import NodeTelemetry.Proofs.Catalog.Deployments
import NodeTelemetry.Proofs.Entity.Coherent
import NodeTelemetry.Proofs.Entity.Calls
import NodeTelemetry.Proofs.Kubelet.NodeAddress
import NodeTelemetry.Proofs.StateMetrics.GivenPort
import NodeTelemetry.Proofs.StateMetrics.Search
import NodeTelemetry.Proofs.Fetch.Percentage
import NodeTelemetry.Proofs.Text.Pieces
import NodeTelemetry.Proofs.Kubelet.SeriesIds
import NodeTelemetry.Proofs.Quantity
import NodeTelemetry.Proofs.SourceClient
