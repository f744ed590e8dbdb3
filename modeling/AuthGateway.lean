import AuthGateway.Admission.Context
import AuthGateway.Admission.Extraction
import AuthGateway.Admission.Rejection
import AuthGateway.Admission.Whitelist
import AuthGateway.Crypto.Rsa
import AuthGateway.Crypto.Sha256
import AuthGateway.Encoding.Base64
import AuthGateway.Encoding.Bytes
import AuthGateway.Encoding.Der
import AuthGateway.Encoding.Pem
import AuthGateway.Files.Path
import AuthGateway.Files.Server
import AuthGateway.Files.Site
import AuthGateway.Files.Tree
import AuthGateway.Gate.Admission
import AuthGateway.Gate.Basic
import AuthGateway.Http.ByteRange
import AuthGateway.Http.ContentCoding
import AuthGateway.Http.CrossOrigin
import AuthGateway.Http.Date
import AuthGateway.Http.Fault
import AuthGateway.Http.Header
import AuthGateway.Http.MediaType
import AuthGateway.Http.MediaTypes.Application
import AuthGateway.Http.MediaTypes.Media
import AuthGateway.Http.MediaTypes.Text
import AuthGateway.Http.MediaTypes.Vendor
import AuthGateway.Http.Message
import AuthGateway.Http.Outcome
import AuthGateway.Http.Request
import AuthGateway.Http.Uri
import AuthGateway.Json.Printer
import AuthGateway.Json.Raw
import AuthGateway.Json.Reader
import AuthGateway.Json.Value
import AuthGateway.Number.Binary64
import AuthGateway.Number.Shortest
import AuthGateway.Pipeline.Serve
import AuthGateway.Pipeline.Startup
import AuthGateway.Proofs.Admission.Challenge
import AuthGateway.Proofs.Admission.Extraction
import AuthGateway.Proofs.Admission.Isolation
import AuthGateway.Proofs.Admission.Whitelist
import AuthGateway.Proofs.Control.Steps
import AuthGateway.Proofs.Crypto.Digest
import AuthGateway.Proofs.Crypto.Rsa
import AuthGateway.Proofs.Encoding.Base64
import AuthGateway.Proofs.Encoding.Percent
import AuthGateway.Proofs.Encoding.Utf8
import AuthGateway.Proofs.Files.Containment
import AuthGateway.Proofs.Files.Disk
import AuthGateway.Proofs.Files.Lookup
import AuthGateway.Proofs.Files.Path
import AuthGateway.Proofs.Files.Redirect
import AuthGateway.Proofs.Files.Server
import AuthGateway.Proofs.Gate.Admission
import AuthGateway.Proofs.Gate.Agreement
import AuthGateway.Proofs.Gate.Audit
import AuthGateway.Proofs.Gate.Breaking
import AuthGateway.Proofs.Gate.Chain
import AuthGateway.Proofs.Gate.Recovery
import AuthGateway.Proofs.Gate.Simulation
import AuthGateway.Proofs.Gate.Telemetry
import AuthGateway.Proofs.Http.Header
import AuthGateway.Proofs.Http.HeaderValue
import AuthGateway.Proofs.Http.Uri
import AuthGateway.Proofs.Json.Integer
import AuthGateway.Proofs.Json.Order
import AuthGateway.Proofs.Json.Range
import AuthGateway.Proofs.Json.RoundTrip
import AuthGateway.Proofs.Json.Text
import AuthGateway.Proofs.Number.Magnitude
import AuthGateway.Proofs.Number.Positional
import AuthGateway.Proofs.Number.Precision
import AuthGateway.Proofs.Pipeline.Accounting
import AuthGateway.Proofs.Pipeline.Admission
import AuthGateway.Proofs.Pipeline.Assembly
import AuthGateway.Proofs.Pipeline.Audit
import AuthGateway.Proofs.Pipeline.Caller
import AuthGateway.Proofs.Pipeline.Datagrams
import AuthGateway.Proofs.Pipeline.Delivery
import AuthGateway.Proofs.Pipeline.EmptySecret
import AuthGateway.Proofs.Pipeline.Keys
import AuthGateway.Proofs.Pipeline.Location
import AuthGateway.Proofs.Pipeline.Metering
import AuthGateway.Proofs.Pipeline.Mounting
import AuthGateway.Proofs.Pipeline.Observation
import AuthGateway.Proofs.Pipeline.OpenRoutes
import AuthGateway.Proofs.Pipeline.Parallel
import AuthGateway.Proofs.Pipeline.Recovery
import AuthGateway.Proofs.Pipeline.Redirection
import AuthGateway.Proofs.Pipeline.Refusal
import AuthGateway.Proofs.Pipeline.Rejection
import AuthGateway.Proofs.Pipeline.Scrapes
import AuthGateway.Proofs.Pipeline.Secrecy
import AuthGateway.Proofs.Pipeline.Startup
import AuthGateway.Proofs.Pipeline.Transparency
import AuthGateway.Proofs.Pipeline.WebPrefix
import AuthGateway.Proofs.Pipeline.Whitelisting
import AuthGateway.Proofs.Routing.Below
import AuthGateway.Proofs.Routing.Destination
import AuthGateway.Proofs.Routing.Evasion
import AuthGateway.Proofs.Routing.Mount
import AuthGateway.Proofs.Settings.Demands
import AuthGateway.Proofs.Settings.Diagnostics
import AuthGateway.Proofs.Settings.Exactness
import AuthGateway.Proofs.Settings.Load
import AuthGateway.Proofs.Settings.Unchecked
import AuthGateway.Proofs.Settings.Variables
import AuthGateway.Proofs.Telemetry.Exposition
import AuthGateway.Proofs.Telemetry.Labels
import AuthGateway.Proofs.Telemetry.Metrics
import AuthGateway.Proofs.Telemetry.Scrape
import AuthGateway.Proofs.Telemetry.Series
import AuthGateway.Proofs.Telemetry.Statsd
import AuthGateway.Proofs.Text.Blank
import AuthGateway.Proofs.Text.Pieces
import AuthGateway.Proofs.Token.Bearer
import AuthGateway.Proofs.Token.Compact
import AuthGateway.Proofs.Token.Key
import AuthGateway.Proofs.Token.RoundTrip
import AuthGateway.Proofs.Token.Secrecy
import AuthGateway.Proofs.Token.Soundness
import AuthGateway.Proofs.Token.Times
import AuthGateway.Proofs.Token.Verification
import AuthGateway.Proofs.Token.Window
import AuthGateway.Routing.App
import AuthGateway.Routing.Mount
import AuthGateway.Routing.Pattern
import AuthGateway.Service.Routes
import AuthGateway.Settings.Basic
import AuthGateway.Settings.Describe
import AuthGateway.Settings.Environment
import AuthGateway.Settings.Error
import AuthGateway.Settings.Load
import AuthGateway.Settings.Stage
import AuthGateway.Telemetry.Event
import AuthGateway.Telemetry.Log
import AuthGateway.Telemetry.Metrics
import AuthGateway.Telemetry.Profile
import AuthGateway.Telemetry.Statsd
import AuthGateway.Telemetry.Tracer
import AuthGateway.Text.Basic
import AuthGateway.Text.Letters
import AuthGateway.Text.Quoted
import AuthGateway.Text.Visible
import AuthGateway.Token.Bearer
import AuthGateway.Token.Claims
import AuthGateway.Token.Draft
import AuthGateway.Token.Header
import AuthGateway.Token.Key
import AuthGateway.Token.Payload
import AuthGateway.Token.SampleKeys
import AuthGateway.Token.SigningMethod
import AuthGateway.Token.Size
import AuthGateway.Token.Verifier
