import TenantGateway.Auth.Cache
import TenantGateway.Auth.Credential
import TenantGateway.Auth.Lifetime
import TenantGateway.Auth.ManagedIdentity
import TenantGateway.Auth.Static
import TenantGateway.Category
import TenantGateway.Config.Changes
import TenantGateway.Config.Decode
import TenantGateway.Config.Failure
import TenantGateway.Config.Load
import TenantGateway.Config.Schema
import TenantGateway.Config.Shape
import TenantGateway.Config.Source
import TenantGateway.Config.Validate
import TenantGateway.Decimal.Double
import TenantGateway.Decimal.Shortest
import TenantGateway.Diagnostics
import TenantGateway.Domain.Ascii
import TenantGateway.Domain.Composition
import TenantGateway.Domain.Direction
import TenantGateway.Domain.Joining
import TenantGateway.Domain.Mapping
import TenantGateway.Error
import TenantGateway.Extraction
import TenantGateway.Gateway.Backend
import TenantGateway.Gateway.Basic
import TenantGateway.Gateway.Call
import TenantGateway.Gateway.Edge
import TenantGateway.Gateway.Flight
import TenantGateway.Gateway.Gates
import TenantGateway.Gateway.Handle
import TenantGateway.Gateway.Start
import TenantGateway.Http.Client
import TenantGateway.Http.Framing
import TenantGateway.Http.Header
import TenantGateway.Http.Host
import TenantGateway.Http.Status
import TenantGateway.Http.Uri
import TenantGateway.Http.Url
import TenantGateway.Json.Reader
import TenantGateway.Json.Value
import TenantGateway.Limiter.Basic
import TenantGateway.Limiter.Bucket
import TenantGateway.Limiter.Quantity
import TenantGateway.Metrics.Page
import TenantGateway.Metrics.Series
import TenantGateway.Net.SocketAddress
import TenantGateway.Proofs.Auth.Expiry
import TenantGateway.Proofs.Auth.Wallet
import TenantGateway.Proofs.Config.Changes
import TenantGateway.Proofs.Config.Reading
import TenantGateway.Proofs.Config.Records
import TenantGateway.Proofs.Config.Reordered
import TenantGateway.Proofs.Config.Restated
import TenantGateway.Proofs.Config.Rules
import TenantGateway.Proofs.Config.Sources
import TenantGateway.Proofs.Config.Strict
import TenantGateway.Proofs.Config.Valid
import TenantGateway.Proofs.Gateway.Answers
import TenantGateway.Proofs.Gateway.Attribution
import TenantGateway.Proofs.Gateway.Backends
import TenantGateway.Proofs.Gateway.Bodies
import TenantGateway.Proofs.Gateway.Changes
import TenantGateway.Proofs.Gateway.Conserved
import TenantGateway.Proofs.Gateway.Course
import TenantGateway.Proofs.Gateway.Destination
import TenantGateway.Proofs.Gateway.Extraction
import TenantGateway.Proofs.Gateway.FailureReplies
import TenantGateway.Proofs.Gateway.Footprint
import TenantGateway.Proofs.Gateway.ForwardedHeaders
import TenantGateway.Proofs.Gateway.Gates
import TenantGateway.Proofs.Gateway.Observed
import TenantGateway.Proofs.Gateway.Order
import TenantGateway.Proofs.Gateway.Passage
import TenantGateway.Proofs.Gateway.Policies
import TenantGateway.Proofs.Gateway.Race
import TenantGateway.Proofs.Gateway.Recorded
import TenantGateway.Proofs.Gateway.Reload
import TenantGateway.Proofs.Gateway.Restart
import TenantGateway.Proofs.Gateway.Routing
import TenantGateway.Proofs.Gateway.Secrecy
import TenantGateway.Proofs.Gateway.Sinkless
import TenantGateway.Proofs.Gateway.Sinks
import TenantGateway.Proofs.Gateway.Stages
import TenantGateway.Proofs.Gateway.Streams
import TenantGateway.Proofs.Gateway.Toggles
import TenantGateway.Proofs.Json.ErrorBodies
import TenantGateway.Proofs.Json.RoundTrip
import TenantGateway.Proofs.Limiter.Balance
import TenantGateway.Proofs.Limiter.Bound
import TenantGateway.Proofs.Limiter.Bucket
import TenantGateway.Proofs.Limiter.Doubles
import TenantGateway.Proofs.Limiter.Exact
import TenantGateway.Proofs.Limiter.Isolation
import TenantGateway.Proofs.Limiter.Measured
import TenantGateway.Proofs.Limiter.Meter
import TenantGateway.Proofs.Limiter.Patience
import TenantGateway.Proofs.Limiter.Rebudget
import TenantGateway.Proofs.Limiter.Spending
import TenantGateway.Proofs.Limiter.Traceless
import TenantGateway.Proofs.Limiter.Waiting
import TenantGateway.Proofs.Metrics.Accounts
import TenantGateway.Proofs.Metrics.Page
import TenantGateway.Proofs.Metrics.Samples
import TenantGateway.Proofs.Metrics.Totals
import TenantGateway.Proofs.Registry.Accepted
import TenantGateway.Proofs.Registry.History
import TenantGateway.Proofs.Route.FirstMatch
import TenantGateway.Registry
import TenantGateway.Reply
import TenantGateway.Request.Context
import TenantGateway.Request.Record
import TenantGateway.Request.Stage
import TenantGateway.Route
import TenantGateway.Table
import TenantGateway.Tenant
import TenantGateway.Text.Base64
import TenantGateway.Text.Blank
import TenantGateway.Text.Hex
import TenantGateway.Text.Percent
import TenantGateway.Text.Points
import TenantGateway.Text.Punycode
import TenantGateway.Text.Quoted
import TenantGateway.Text.Search
import TenantGateway.Text.Shown
import TenantGateway.Yaml.Cursor
import TenantGateway.Yaml.Layout
import TenantGateway.Yaml.Meaning
import TenantGateway.Yaml.Node
import TenantGateway.Yaml.Scalar
import TenantGateway.Yaml.Token
import TenantGateway.Yaml.Tree
