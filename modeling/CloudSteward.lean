import CloudSteward.Backoff
import CloudSteward.Balancer.Ensure
import CloudSteward.Balancer.Spec
import CloudSteward.Balancer.Status
import CloudSteward.Calendar
import CloudSteward.Cluster.Decode
import CloudSteward.Cluster.Effect
import CloudSteward.Cluster.Object
import CloudSteward.Cluster.RequestTarget
import CloudSteward.Cluster.Write
import CloudSteward.Error
import CloudSteward.Instance.Addresses
import CloudSteward.Instance.Lookup
import CloudSteward.Json.Printer
import CloudSteward.Json.Reader
import CloudSteward.Json.Record
import CloudSteward.Json.Value
import CloudSteward.Memory.Inventory
import CloudSteward.Memory.Store
import CloudSteward.Memory.World
import CloudSteward.Moment
import CloudSteward.NodeSet
import CloudSteward.Number.Binary64
import CloudSteward.Number.Decimal
import CloudSteward.Number.Rounding
import CloudSteward.Placement
import CloudSteward.Program
import CloudSteward.Proofs.Answer
import CloudSteward.Proofs.Backoff
import CloudSteward.Proofs.Balancer.Address
import CloudSteward.Proofs.Balancer.Converge
import CloudSteward.Proofs.Balancer.Edit
import CloudSteward.Proofs.Balancer.Ensure
import CloudSteward.Proofs.Balancer.Plan
import CloudSteward.Proofs.Balancer.Prefix
import CloudSteward.Proofs.Balancer.Progress
import CloudSteward.Proofs.Balancer.Race
import CloudSteward.Proofs.Balancer.Servable
import CloudSteward.Proofs.Calm
import CloudSteward.Proofs.Events
import CloudSteward.Proofs.Failures
import CloudSteward.Proofs.Footprint
import CloudSteward.Proofs.Node.Addresses
import CloudSteward.Proofs.Node.Deletion
import CloudSteward.Proofs.Node.Extraction
import CloudSteward.Proofs.Node.Grammar
import CloudSteward.Proofs.Node.Initialization
import CloudSteward.Proofs.Node.Monitoring
import CloudSteward.Proofs.Node.Reachability
import CloudSteward.Proofs.Node.Reading
import CloudSteward.Proofs.Node.Resolution
import CloudSteward.Proofs.Node.View
import CloudSteward.Proofs.Numeral
import CloudSteward.Proofs.Parts
import CloudSteward.Proofs.Recovery
import CloudSteward.Proofs.Requeue
import CloudSteward.Proofs.Resource.Document
import CloudSteward.Proofs.Resource.Respelling
import CloudSteward.Proofs.Resource.RoundTrip
import CloudSteward.Proofs.Rest.Change
import CloudSteward.Proofs.Rest.Classification
import CloudSteward.Proofs.Rest.Exchange
import CloudSteward.Proofs.Rest.Fetch
import CloudSteward.Proofs.Rest.Listing
import CloudSteward.Proofs.Rest.Location
import CloudSteward.Proofs.Rest.Lookup
import CloudSteward.Proofs.Rest.Parameters
import CloudSteward.Proofs.Rest.Query
import CloudSteward.Proofs.Rest.Removal
import CloudSteward.Proofs.Rest.Sending
import CloudSteward.Proofs.Rest.Tokens
import CloudSteward.Proofs.Route.Attempts
import CloudSteward.Proofs.Route.Others
import CloudSteward.Proofs.Route.Pass
import CloudSteward.Proofs.Route.Rewrite
import CloudSteward.Proofs.Route.Upsert
import CloudSteward.Proofs.Run
import CloudSteward.Proofs.Segments
import CloudSteward.Proofs.Service.Attachment
import CloudSteward.Proofs.Service.Footprint
import CloudSteward.Proofs.Service.Orphan
import CloudSteward.Proofs.Service.Reconcile
import CloudSteward.Proofs.Service.Settled
import CloudSteward.Proofs.Settings
import CloudSteward.Proofs.Steps
import CloudSteward.Proofs.TargetGroup.Cache
import CloudSteward.Proofs.TargetGroup.Cleanup
import CloudSteward.Proofs.TargetGroup.Converge
import CloudSteward.Proofs.TargetGroup.Damage
import CloudSteward.Proofs.TargetGroup.Leftover
import CloudSteward.Proofs.TargetGroup.NodeChange
import CloudSteward.Proofs.TargetGroup.Separation
import CloudSteward.Proofs.TargetGroup.Unsignalled
import CloudSteward.Proofs.TargetGroup.Wanted
import CloudSteward.ProviderId
import CloudSteward.Reconcile.Node
import CloudSteward.Reconcile.Service
import CloudSteward.Reconcile.Visit
import CloudSteward.Resource.Basic
import CloudSteward.Resource.Decode
import CloudSteward.Resource.Encode
import CloudSteward.Rest.Client
import CloudSteward.Rest.Metadata
import CloudSteward.Rest.Reply
import CloudSteward.Rest.Server
import CloudSteward.Rest.Token
import CloudSteward.Route.Sync
import CloudSteward.Route.Table
import CloudSteward.Settings
import CloudSteward.Sorted
import CloudSteward.Span
import CloudSteward.Steward
import CloudSteward.TargetGroup.Name
import CloudSteward.TargetGroup.Sync
import CloudSteward.Text.Blank
import CloudSteward.Text.Cut
import CloudSteward.Text.Integer
import CloudSteward.Text.Invisible
import CloudSteward.Text.Percent
import CloudSteward.Text.Quoted
import CloudSteward.Text.Segments
