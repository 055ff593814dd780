import RegistryBridge.Admission.Redirect
import RegistryBridge.Admission.Review
import RegistryBridge.Admission.Webhook
import RegistryBridge.Cluster.Build
import RegistryBridge.Cluster.Definition
import RegistryBridge.Cluster.ImageStream
import RegistryBridge.Cluster.Integration
import RegistryBridge.Cluster.Metadata
import RegistryBridge.Cluster.Namespace
import RegistryBridge.Cluster.Reference
import RegistryBridge.Cluster.Resource
import RegistryBridge.Cluster.Secret
import RegistryBridge.Cluster.ServiceAccount
import RegistryBridge.ClusterApi.Client
import RegistryBridge.ClusterApi.Recorder
import RegistryBridge.ClusterApi.Request
import RegistryBridge.Credentials
import RegistryBridge.Destination
import RegistryBridge.Domain.Composition
import RegistryBridge.Domain.Direction
import RegistryBridge.Domain.Joining
import RegistryBridge.Domain.Mapping
import RegistryBridge.Domain.Name
import RegistryBridge.Domain.Punycode
import RegistryBridge.Error
import RegistryBridge.Json.Basic
import RegistryBridge.Json.Binary64
import RegistryBridge.Json.Number
import RegistryBridge.Json.Parser
import RegistryBridge.Json.Patch
import RegistryBridge.Json.Printer
import RegistryBridge.Json.Reader
import RegistryBridge.Lifecycle
import RegistryBridge.Main
import RegistryBridge.Options
import RegistryBridge.Pass.Basic
import RegistryBridge.Pass.BuildPass
import RegistryBridge.Pass.Call
import RegistryBridge.Pass.Connect
import RegistryBridge.Pass.IntegrationPass
import RegistryBridge.Pass.NamespacePass
import RegistryBridge.Pass.Provision
import RegistryBridge.Policy
import RegistryBridge.Program
import RegistryBridge.Proofs.Admission.Again
import RegistryBridge.Proofs.Admission.Destination
import RegistryBridge.Proofs.Admission.Edits
import RegistryBridge.Proofs.Admission.Frame
import RegistryBridge.Proofs.Admission.Gate
import RegistryBridge.Proofs.Admission.Images
import RegistryBridge.Proofs.Admission.Ruling
import RegistryBridge.Proofs.Admission.Submitted
import RegistryBridge.Proofs.Admission.Verdict
import RegistryBridge.Proofs.Cluster.Annotations
import RegistryBridge.Proofs.Cluster.BuildDocument
import RegistryBridge.Proofs.Cluster.Documents
import RegistryBridge.Proofs.Cluster.Finalizers
import RegistryBridge.Proofs.Cluster.IntegrationDocument
import RegistryBridge.Proofs.Cluster.MetadataValue
import RegistryBridge.Proofs.Cluster.NamespaceDocument
import RegistryBridge.Proofs.ClusterApi.Finalizers
import RegistryBridge.Proofs.ClusterApi.Served
import RegistryBridge.Proofs.Credentials.Token
import RegistryBridge.Proofs.Destination.Grammar
import RegistryBridge.Proofs.Destination.Reading
import RegistryBridge.Proofs.Destination.Refusal
import RegistryBridge.Proofs.Domain.Plain
import RegistryBridge.Proofs.Import.Agreement
import RegistryBridge.Proofs.Import.Course
import RegistryBridge.Proofs.Import.Once
import RegistryBridge.Proofs.Import.Pass
import RegistryBridge.Proofs.Import.Readiness
import RegistryBridge.Proofs.Import.Story
import RegistryBridge.Proofs.Json.ByValue
import RegistryBridge.Proofs.Json.Fields
import RegistryBridge.Proofs.Json.Merge
import RegistryBridge.Proofs.Json.Parts
import RegistryBridge.Proofs.Json.Patch
import RegistryBridge.Proofs.Json.Paths
import RegistryBridge.Proofs.Json.Pointer
import RegistryBridge.Proofs.Json.ReadBack
import RegistryBridge.Proofs.Json.Record
import RegistryBridge.Proofs.Json.Written
import RegistryBridge.Proofs.Lifetime.Bond
import RegistryBridge.Proofs.Lifetime.Growth
import RegistryBridge.Proofs.Lifetime.Isolation
import RegistryBridge.Proofs.Lifetime.Passwords
import RegistryBridge.Proofs.Lifetime.Phases
import RegistryBridge.Proofs.Lifetime.Reach
import RegistryBridge.Proofs.Lifetime.Runs
import RegistryBridge.Proofs.Lifetime.Success
import RegistryBridge.Proofs.Lifetime.Tokens
import RegistryBridge.Proofs.Lifetime.Warrant
import RegistryBridge.Proofs.Observation.Fingerprint
import RegistryBridge.Proofs.Observation.History
import RegistryBridge.Proofs.Observation.Identity
import RegistryBridge.Proofs.Pass.Announced
import RegistryBridge.Proofs.Pass.Heard
import RegistryBridge.Proofs.Pass.Loses
import RegistryBridge.Proofs.Pass.Only
import RegistryBridge.Proofs.Pass.Reported
import RegistryBridge.Proofs.Pass.Script
import RegistryBridge.Proofs.Pass.Steady
import RegistryBridge.Proofs.Pass.Step
import RegistryBridge.Proofs.Pass.Veiled
import RegistryBridge.Proofs.Program.Apart
import RegistryBridge.Proofs.Program.Conduct
import RegistryBridge.Proofs.Program.Heard
import RegistryBridge.Proofs.Program.Transcript
import RegistryBridge.Proofs.Program.Turns
import RegistryBridge.Proofs.Program.Woven
import RegistryBridge.Proofs.Provisioning.Among
import RegistryBridge.Proofs.Provisioning.Asks
import RegistryBridge.Proofs.Provisioning.Beside
import RegistryBridge.Proofs.Provisioning.Convergence
import RegistryBridge.Proofs.Provisioning.Failures
import RegistryBridge.Proofs.Provisioning.Grown
import RegistryBridge.Proofs.Provisioning.Hosting
import RegistryBridge.Proofs.Provisioning.Independence
import RegistryBridge.Proofs.Provisioning.Loses
import RegistryBridge.Proofs.Provisioning.Quiet
import RegistryBridge.Proofs.Provisioning.Settled
import RegistryBridge.Proofs.Provisioning.Turns
import RegistryBridge.Proofs.Provisioning.Warrant
import RegistryBridge.Proofs.PullSecret.Reading
import RegistryBridge.Proofs.PullSecret.Rotation
import RegistryBridge.Proofs.Registry.Exchanged
import RegistryBridge.Proofs.Registry.Naming
import RegistryBridge.Proofs.Registry.OneHost
import RegistryBridge.Proofs.Registry.Requests
import RegistryBridge.Proofs.ServiceAccount.Joining
import RegistryBridge.Proofs.ServiceAccount.Links
import RegistryBridge.Proofs.Text.Encoding
import RegistryBridge.Proofs.Text.Pieces
import RegistryBridge.Proofs.Text.Trimming
import RegistryBridge.Proofs.Url.Decoding
import RegistryBridge.Proofs.Url.Host
import RegistryBridge.Proofs.Url.Percent
import RegistryBridge.Proofs.Url.ReadBack
import RegistryBridge.Proofs.Url.Text
import RegistryBridge.Proofs.Url.WellFormed
import RegistryBridge.Proofs.World.Cell
import RegistryBridge.Proofs.World.Conduct
import RegistryBridge.Proofs.World.Habits
import RegistryBridge.Proofs.World.Quiet
import RegistryBridge.Proofs.World.Rehearsed
import RegistryBridge.PullSecret
import RegistryBridge.Registry.Address
import RegistryBridge.Registry.Client
import RegistryBridge.Registry.Error
import RegistryBridge.Registry.Payload
import RegistryBridge.SecretLinks
import RegistryBridge.Selection
import RegistryBridge.Settings
import RegistryBridge.Table
import RegistryBridge.Text.Base64
import RegistryBridge.Text.CaseTable
import RegistryBridge.Text.Lowercase
import RegistryBridge.Text.Pieces
import RegistryBridge.Text.Printable
import RegistryBridge.Text.Quoted
import RegistryBridge.Text.Span
import RegistryBridge.Text.WhiteSpace
import RegistryBridge.Time.Instant
import RegistryBridge.Url.Basic
import RegistryBridge.Url.Host
import RegistryBridge.Url.Parser
import RegistryBridge.Url.Percent
import RegistryBridge.Web.Status
import RegistryBridge.Wiring
import RegistryBridge.World.Answer
import RegistryBridge.World.Basic
import RegistryBridge.World.Cluster
import RegistryBridge.World.Document
import RegistryBridge.World.Edit
import RegistryBridge.World.Registry
import RegistryBridge.World.Rehearsal
import RegistryBridge.World.Submission
