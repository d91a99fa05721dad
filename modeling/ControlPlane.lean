import ControlPlane.Admin.Credentials
import ControlPlane.Admin.Interface
import ControlPlane.Admin.Reply
import ControlPlane.Api.Basic
import ControlPlane.Api.Endpoint
import ControlPlane.Archive.Crc32
import ControlPlane.Archive.Deflate
import ControlPlane.Archive.Directory
import ControlPlane.Archive.Inflate
import ControlPlane.Archive.Name
import ControlPlane.Archive.Writer
import ControlPlane.Compile.Basic
import ControlPlane.Compile.Naming
import ControlPlane.Config.Basic
import ControlPlane.Config.Load
import ControlPlane.Config.Place
import ControlPlane.Config.Record
import ControlPlane.Decimal.Double
import ControlPlane.Decimal.Plain
import ControlPlane.Decimal.Reader
import ControlPlane.Decimal.Shortest
import ControlPlane.Deploy.Bundle
import ControlPlane.Deploy.Deployer
import ControlPlane.Deploy.Listing
import ControlPlane.Deploy.Registry
import ControlPlane.Discovery.Cache
import ControlPlane.Discovery.Kind
import ControlPlane.Discovery.Node
import ControlPlane.Discovery.Session
import ControlPlane.Discovery.Slots
import ControlPlane.Discovery.Snapshot
import ControlPlane.Discovery.Stream
import ControlPlane.Document.Basic
import ControlPlane.Document.Extension
import ControlPlane.Document.Fault
import ControlPlane.Document.Normalize
import ControlPlane.Document.OpenApi
import ControlPlane.Document.OpenApi.Model
import ControlPlane.Document.Shape
import ControlPlane.Document.Swagger
import ControlPlane.Duration
import ControlPlane.Error
import ControlPlane.Files
import ControlPlane.Gateway.Aggregate
import ControlPlane.Gateway.Failure
import ControlPlane.Gateway.Resource
import ControlPlane.Hash.Sha256
import ControlPlane.Http.MediaType
import ControlPlane.Http.Multipart
import ControlPlane.Http.Query
import ControlPlane.Http.Request
import ControlPlane.Json.Basic
import ControlPlane.Json.Number
import ControlPlane.Json.Parser
import ControlPlane.Json.Printer
import ControlPlane.Label
import ControlPlane.Labels
import ControlPlane.Log.Directive
import ControlPlane.Log.Document
import ControlPlane.Log.Filter
import ControlPlane.Log.Level
import ControlPlane.Main
import ControlPlane.Net.Address
import ControlPlane.Ordered.Basic
import ControlPlane.Ordered.Map
import ControlPlane.Ordered.Set
import ControlPlane.Path
import ControlPlane.Plane.Basic
import ControlPlane.Plane.Start
import ControlPlane.Text.Base64
import ControlPlane.Text.Blank
import ControlPlane.Text.Casing
import ControlPlane.Text.Utf8
import ControlPlane.Tls.Certificate
import ControlPlane.Tls.Curve
import ControlPlane.Tls.Der
import ControlPlane.Tls.Identity
import ControlPlane.Tls.Pem
import ControlPlane.Tls.PrivateKey
import ControlPlane.Toml.Basic
import ControlPlane.Toml.Moment
import ControlPlane.Toml.Parser
import ControlPlane.Toml.Scalar
import ControlPlane.Toml.Table
import ControlPlane.Toml.Token
import ControlPlane.Unicode.Alphanumeric
import ControlPlane.Unicode.Casing
import ControlPlane.Unicode.Composition
import ControlPlane.Unicode.HostMapping
import ControlPlane.Unicode.Normal
import ControlPlane.Unicode.Script
import ControlPlane.Unicode.Span
import ControlPlane.Url.Basic
import ControlPlane.Url.Host
import ControlPlane.Url.HostName
import ControlPlane.Url.Punycode
import ControlPlane.Wire.Cluster
import ControlPlane.Wire.Listener
import ControlPlane.Wire.Proto
import ControlPlane.Wire.Route
import ControlPlane.Wire.Shared
import ControlPlane.Yaml.Char
import ControlPlane.Yaml.Core
import ControlPlane.Yaml.Document
import ControlPlane.Yaml.Lexer
import ControlPlane.Yaml.Node
import ControlPlane.Yaml.Scalar
import ControlPlane.Yaml.Token
import ControlPlane.Proofs.Discovery.Cache
import ControlPlane.Proofs.Discovery.Session
import ControlPlane.Proofs.Discovery.Names
import ControlPlane.Proofs.Discovery.Stream
import ControlPlane.Proofs.Ordered.Map
import ControlPlane.Proofs.Deploy.Registry
import ControlPlane.Proofs.Sequence
import ControlPlane.Proofs.Deploy.Names
import ControlPlane.Proofs.Deploy.Work
import ControlPlane.Proofs.Deploy.Deployer
import ControlPlane.Proofs.Deploy.Rebuild
import ControlPlane.Proofs.Compile.Clusters
import ControlPlane.Proofs.Compile.Naming
import ControlPlane.Proofs.Compile.Sanitize
import ControlPlane.Proofs.Deploy.Shadow
import ControlPlane.Proofs.Plane.Turns
import ControlPlane.Proofs.Deploy.Closure
import ControlPlane.Proofs.Plane.Delivery
import ControlPlane.Proofs.Plane.Order
import ControlPlane.Proofs.Deploy.Refusal
import ControlPlane.Proofs.Discovery.Rejection
import ControlPlane.Proofs.Compile.Offences
import ControlPlane.Proofs.Compile.Pools
import ControlPlane.Proofs.Compile.Winners
import ControlPlane.Proofs.Wire.Cluster
import ControlPlane.Proofs.Deploy.Servable
import ControlPlane.Proofs.Discovery.Slots
import ControlPlane.Proofs.Discovery.History
import ControlPlane.Proofs.Deploy.Publications
import ControlPlane.Proofs.Plane.History
import ControlPlane.Proofs.Discovery.Labels
import ControlPlane.Proofs.Plane.Labels
import ControlPlane.Proofs.Discovery.Versions
import ControlPlane.Proofs.Plane.Versions
import ControlPlane.Proofs.Discovery.Flight
import ControlPlane.Proofs.Plane.Flight
import ControlPlane.Proofs.Discovery.Resend
import ControlPlane.Proofs.Plane.Resend
import ControlPlane.Proofs.Discovery.Drain
import ControlPlane.Proofs.Plane.Drain
import ControlPlane.Proofs.Wire.Decode
import ControlPlane.Proofs.Deploy.Account
import ControlPlane.Proofs.Keyed
import ControlPlane.Proofs.Label
import ControlPlane.Proofs.Compile.Effective
import ControlPlane.Proofs.Deploy.RouteNames
import ControlPlane.Proofs.Compile.Backends
import ControlPlane.Proofs.Admin.Access
import ControlPlane.Proofs.Url.Path
import ControlPlane.Proofs.Document.Outline
import ControlPlane.Proofs.Document.Shape
import ControlPlane.Proofs.Document.Agreement
import ControlPlane.Proofs.Text.Cut
import ControlPlane.Proofs.Text.Trim
import ControlPlane.Proofs.Text.Case
import ControlPlane.Proofs.Path.Segments
import ControlPlane.Proofs.Path.Join
import ControlPlane.Proofs.Path.Template
import ControlPlane.Proofs.Compile.Templates
import ControlPlane.Proofs.Url.Host
import ControlPlane.Proofs.Url.Backend
import ControlPlane.Proofs.Document.Validity
import ControlPlane.Proofs.Document.Annotations
import ControlPlane.Proofs.Archive.Inflate
import ControlPlane.Proofs.Archive.Directory
import ControlPlane.Proofs.Deploy.Extraction
