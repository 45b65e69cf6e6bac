import SqlCluster.Calendar.Date
import SqlCluster.Calendar.Epoch
import SqlCluster.Calendar.Iso
import SqlCluster.Calendar.Layout
import SqlCluster.Calendar.Moment
import SqlCluster.Cluster.Document
import SqlCluster.Cluster.Refresh
import SqlCluster.Cluster.Topology
import SqlCluster.Compression.Bits
import SqlCluster.Compression.Checksum
import SqlCluster.Compression.Code
import SqlCluster.Compression.Inflate
import SqlCluster.Compression.Stream
import SqlCluster.Config.Basic
import SqlCluster.Config.Error
import SqlCluster.Config.Url
import SqlCluster.Connection.Basic
import SqlCluster.Connection.Step
import SqlCluster.Conversion.Basic
import SqlCluster.Conversion.Coerce
import SqlCluster.Conversion.Timestamp
import SqlCluster.Executor.Target
import SqlCluster.Executor.Walk
import SqlCluster.Fault.Basic
import SqlCluster.Fault.Kind
import SqlCluster.Fault.PeerFailure
import SqlCluster.Http.Client
import SqlCluster.Http.Coding
import SqlCluster.Http.MediaType
import SqlCluster.Http.Message
import SqlCluster.Http.Name.Admitted
import SqlCluster.Http.Name.Basic
import SqlCluster.Http.Name.Label
import SqlCluster.Http.Name.Punycode
import SqlCluster.Http.Script
import SqlCluster.Http.Url
import SqlCluster.Journal.Basic
import SqlCluster.Journal.Message
import SqlCluster.Json.Basic
import SqlCluster.Json.Field
import SqlCluster.Json.OfValue
import SqlCluster.Json.Reader
import SqlCluster.Json.Writer
import SqlCluster.Lenient
import SqlCluster.Level.Basic
import SqlCluster.Level.Parse
import SqlCluster.Number.Cell
import SqlCluster.Number.Decimal
import SqlCluster.Number.Double
import SqlCluster.Number.Literal
import SqlCluster.Number.Places
import SqlCluster.Number.Setting
import SqlCluster.Number.Shortest
import SqlCluster.Operation
import SqlCluster.Peer.Basic
import SqlCluster.Peer.Parse
import SqlCluster.Response.Decode
import SqlCluster.Response.Envelope
import SqlCluster.Result.Basic
import SqlCluster.Result.Cursor
import SqlCluster.Result.OfFields
import SqlCluster.Result.Reading
import SqlCluster.Statement.Basic
import SqlCluster.Statement.Batch
import SqlCluster.Statement.Template
import SqlCluster.Text.Base64
import SqlCluster.Text.Blank
import SqlCluster.Text.Case
import SqlCluster.Text.Charset
import SqlCluster.Text.CharsetTable
import SqlCluster.Text.Composition
import SqlCluster.Text.CompositionTable
import SqlCluster.Text.Digit
import SqlCluster.Text.Direction
import SqlCluster.Text.Directive
import SqlCluster.Text.Hex
import SqlCluster.Text.Joining
import SqlCluster.Text.Mark
import SqlCluster.Text.Printable
import SqlCluster.Text.Quoted
import SqlCluster.Text.Runs
import SqlCluster.Text.Script
import SqlCluster.Text.Split
import SqlCluster.Text.Utf8
import SqlCluster.Uri.Address
import SqlCluster.Uri.Escape
import SqlCluster.Uri.Join
import SqlCluster.Uri.Parts
import SqlCluster.Uri.Query
import SqlCluster.Uri.Redact
import SqlCluster.Value.Basic
import SqlCluster.Value.Equality
import SqlCluster.Value.Keyed
import SqlCluster.Value.Members
import SqlCluster.Value.Number
import SqlCluster.Value.Show
import SqlCluster.Value.Uuid
import SqlCluster.Proofs.Executor.Tour
import SqlCluster.Proofs.Executor.Failover
import SqlCluster.Proofs.Executor.Settled
import SqlCluster.Proofs.Text.Within
import SqlCluster.Proofs.Uri.Login
import SqlCluster.Proofs.Uri.Place
import SqlCluster.Proofs.Uri.Mask
import SqlCluster.Proofs.Uri.Resolve
import SqlCluster.Proofs.Http.Dressed
import SqlCluster.Proofs.Http.Alike
import SqlCluster.Proofs.Http.Location
import SqlCluster.Proofs.Http.Reply
import SqlCluster.Proofs.Executor.Account
import SqlCluster.Proofs.Executor.Twin
import SqlCluster.Proofs.Executor.TwinRun
import SqlCluster.Proofs.Executor.Discretion
import SqlCluster.Proofs.Executor.Landing
import SqlCluster.Proofs.Executor.Confinement
import SqlCluster.Proofs.Cluster.Topology
import SqlCluster.Proofs.Cluster.Nodes
import SqlCluster.Proofs.Config.Obtained
import SqlCluster.Proofs.Outcome
import SqlCluster.Proofs.Cluster.Refresh
import SqlCluster.Proofs.Executor.Peopled
import SqlCluster.Proofs.Connection.Seeded
import SqlCluster.Proofs.Text.Utf8
import SqlCluster.Proofs.Text.Hex
import SqlCluster.Proofs.Text.Base64
import SqlCluster.Proofs.Uri.Escape
import SqlCluster.Proofs.Config.Url
import SqlCluster.Proofs.Text.Pieces
import SqlCluster.Proofs.Text.Filled
import SqlCluster.Proofs.Config.Gap
import SqlCluster.Proofs.Config.Disclosure
import SqlCluster.Proofs.Json.Scalar
import SqlCluster.Proofs.Json.Nested
import SqlCluster.Proofs.Statement.Wire
import SqlCluster.Proofs.Executor.Reached
import SqlCluster.Proofs.Connection.Beliefs
import SqlCluster.Proofs.Connection.Dispatch
import SqlCluster.Proofs.Connection.Lifecycle
import SqlCluster.Proofs.Peer.Spelled
import SqlCluster.Proofs.Executor.Slots
import SqlCluster.Proofs.Connection.History
import SqlCluster.Proofs.Connection.Standing
import SqlCluster.Proofs.Statement.Refusal
import SqlCluster.Proofs.Connection.Whole
import SqlCluster.Proofs.Json.Grammar
import SqlCluster.Proofs.Json.Reading
import SqlCluster.Proofs.Json.Members
import SqlCluster.Proofs.Response.Results
import SqlCluster.Proofs.Response.Faithful
import SqlCluster.Proofs.Result.Forward
import SqlCluster.Proofs.Connection.LinedUp
import SqlCluster.Proofs.Cluster.Agreement
import SqlCluster.Proofs.Cluster.Fallback
import SqlCluster.Proofs.Journal.Notice
import SqlCluster.Proofs.Journal.Transcript
import SqlCluster.Proofs.Uri.Inline
import SqlCluster.Proofs.Executor.Inline
import SqlCluster.Proofs.Executor.Transcript
import SqlCluster.Proofs.Cluster.Transcript
import SqlCluster.Proofs.Connection.Transcript
import SqlCluster.Proofs.Connection.Traced
import SqlCluster.Proofs.Peer.Distinct
import SqlCluster.Proofs.Cluster.Ordering
import SqlCluster.Proofs.Json.Collected
import SqlCluster.Proofs.Cluster.Resolution
import SqlCluster.Proofs.Uri.Together
import SqlCluster.Proofs.Executor.Hops
import SqlCluster.Proofs.Executor.Authentication
import SqlCluster.Proofs.Calendar.Counting
import SqlCluster.Proofs.Calendar.Spelled
import SqlCluster.Proofs.Calendar.Iso
import SqlCluster.Proofs.Calendar.Layout
import SqlCluster.Proofs.Conversion.Timestamp
import SqlCluster.Proofs.Conversion.Instant
import SqlCluster.Proofs.Response.Total
import SqlCluster.Proofs.Config.Refusal
import SqlCluster.Proofs.Config.Segments
import SqlCluster.Proofs.Result.Columns
import SqlCluster.Proofs.Result.Scan
import SqlCluster.Proofs.Json.Legible
import SqlCluster.Proofs.Conversion.Aware
import SqlCluster.Proofs.Response.TimeColumns
import SqlCluster.Proofs.Statement.Render
import SqlCluster.Proofs.Json.Layout
import SqlCluster.Proofs.Json.Standard
import SqlCluster.Proofs.Json.Bare
import SqlCluster.Proofs.Statement.Lawful
import SqlCluster.Proofs.Config.Usable
import SqlCluster.Proofs.Connection.Acknowledged
import SqlCluster.Proofs.Text.Lower
import SqlCluster.Proofs.Uri.Groups
import SqlCluster.Proofs.Uri.Lowered
import SqlCluster.Proofs.Peer.Stable
import SqlCluster.Proofs.Uri.FreeText
