import SozuGateway.Ir
import SozuGateway.Addresses
import SozuGateway.PathRules
import SozuGateway.Lib.BTreeMap
import SozuGateway.Lib.Sorting
import SozuGateway.Lib.Writes
import SozuGateway.Sozu.Command
import SozuGateway.Sozu.State
import SozuGateway.Sozu.Objects
import SozuGateway.Sozu.Store
import SozuGateway.Lib.BTreeSet
import SozuGateway.Lib.Unique
import SozuGateway.Translator.Requests
import SozuGateway.Translator.Order
import SozuGateway.Translator.Dispatch
import SozuGateway.Translator.Routing
import SozuGateway.Lib.Tarjan
import SozuGateway.Translator.Transfer
import SozuGateway.Translator.CertificateDiff
import SozuGateway.Translator.Reconcile
import SozuGateway.Translator.Convergence
import SozuGateway.Lib.Code
import SozuGateway.Lib.Json
import SozuGateway.Translator.Comparable
import SozuGateway.Sozu.Encoding
import SozuGateway.Sozu.Reference
import SozuGateway.Translator.CertificateConvergence
import SozuGateway.Translator.Reorder
import SozuGateway.Agent.Channel
import SozuGateway.Translator.Keyed
import SozuGateway.Translator.Replay
import SozuGateway.Translator.ReplayCertificates
import SozuGateway.Translator.Slots
import SozuGateway.Translator.ReplayRouting
import SozuGateway.Translator.ReplayExact
import SozuGateway.Builder.Claims
import SozuGateway.Builder.Collisions
import SozuGateway.Builder.Certificates
import SozuGateway.Agent.Messages
import SozuGateway.Agent.Apply
import SozuGateway.Agent.MainProcess
import SozuGateway.Agent.Simulation
import SozuGateway.Builder.Config
import SozuGateway.Builder.Names
import SozuGateway.Builder.Ingresses
import SozuGateway.Builder.HttpRoutes
import SozuGateway.Builder.L4Routes
import SozuGateway.Builder.Build
import SozuGateway.Builder.Display
import SozuGateway.Controller.Status
import SozuGateway.Controller.Writers
import SozuGateway.Builder.Relevance
import SozuGateway.Controller.Changes
import SozuGateway.Lib.Traverse
import SozuGateway.Lib.Filled
import SozuGateway.Builder.Provenance
import SozuGateway.Builder.RouteProvenance
import SozuGateway.Builder.Copies
import SozuGateway.Builder.Certified
import SozuGateway.Builder.ClusterIds
import SozuGateway.Builder.Isolation
import SozuGateway.Builder.Tables
import SozuGateway.Builder.Hostnames
import SozuGateway.Builder.RouteKeys
import SozuGateway.Builder.PathOverlap
import SozuGateway.Lib.Shuffle
import SozuGateway.Builder.Admission
import SozuGateway.Lib.Components
import SozuGateway.Translator.TradeGraph
import SozuGateway.Translator.Topological
import SozuGateway.Translator.TransferOrder
import SozuGateway.Translator.Redacted
import SozuGateway.Builder.References
import SozuGateway.Builder.HealthChecks
import SozuGateway.Builder.Backends
import SozuGateway.Translator.StronglyConnected
import SozuGateway.Builder.AttachedRoutes
import SozuGateway.Agent.Aggregate
import SozuGateway.Agent.ListenerAdds
import SozuGateway.Lib.Value
import SozuGateway.Controller.MergePatch
import SozuGateway.Lib.Exposition
import SozuGateway.Prometheus.Render
import SozuGateway.Prometheus.Series
import SozuGateway.Prometheus.Validity
import SozuGateway.Lib.Interleaving
import SozuGateway.Provision.Objects
import SozuGateway.Provision.Template
import SozuGateway.Provision.Reconcile
import SozuGateway.Provision.ApiServer
import SozuGateway.Provision.Guards
import SozuGateway.Provision.Cleanup
import SozuGateway.Lib.Conversation
import SozuGateway.Provision.Fence
import SozuGateway.Provision.Apart
import SozuGateway.Lib.Link
import SozuGateway.Agent.Session
import SozuGateway.Controller.Shadow
import SozuGateway.Controller.Restarts
import SozuGateway.Builder.CopyKeys
import SozuGateway.Builder.Grounded
import SozuGateway.Builder.Accepted
import SozuGateway.Builder.Http2
import SozuGateway.Builder.Reordered
import SozuGateway.Builder.OrderFree
