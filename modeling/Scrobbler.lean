import Scrobbler.Calendar.Date
import Scrobbler.Calendar.Timestamp
import Scrobbler.Client.Call
import Scrobbler.Client.Error
import Scrobbler.Client.Root
import Scrobbler.Client.Settings
import Scrobbler.CommandLine.Argument
import Scrobbler.CommandLine.Command
import Scrobbler.CommandLine.Message
import Scrobbler.CommandLine.Value
import Scrobbler.Counter
import Scrobbler.Decimal.Binary64
import Scrobbler.Decimal.Shortest
import Scrobbler.Endpoint.Collection
import Scrobbler.Endpoint.Community
import Scrobbler.Endpoint.History
import Scrobbler.Endpoint.Opinion
import Scrobbler.Endpoint.Releases
import Scrobbler.Endpoint.Statistics
import Scrobbler.Environment
import Scrobbler.Feedback
import Scrobbler.Http.Request
import Scrobbler.Http.Response
import Scrobbler.Http.Server
import Scrobbler.Http.Session
import Scrobbler.Http.Status
import Scrobbler.Json.Basic
import Scrobbler.Json.Decode
import Scrobbler.Json.Document
import Scrobbler.Json.Fault
import Scrobbler.Json.Numeral
import Scrobbler.Json.Printer
import Scrobbler.Json.Record
import Scrobbler.Json.TextLiteral
import Scrobbler.Json.Token
import Scrobbler.Listen.Basic
import Scrobbler.Listen.Batch
import Scrobbler.Listen.Page
import Scrobbler.Main
import Scrobbler.NameError
import Scrobbler.NameMap
import Scrobbler.Notice
import Scrobbler.Pin
import Scrobbler.Playlist.Basic
import Scrobbler.Power
import Scrobbler.Program.Authentication
import Scrobbler.Program.Machine
import Scrobbler.Program.Run
import Scrobbler.Program.Scrobbling
import Scrobbler.Program.Views
import Scrobbler.Proofs.Calendar.Date
import Scrobbler.Proofs.Calendar.Timestamp
import Scrobbler.Proofs.Client.Error
import Scrobbler.Proofs.Client.Root
import Scrobbler.Proofs.Counter
import Scrobbler.Proofs.Endpoint.Arguments
import Scrobbler.Proofs.Endpoint.Call
import Scrobbler.Proofs.Endpoint.Credential
import Scrobbler.Proofs.Endpoint.Parameters
import Scrobbler.Proofs.Endpoint.Pipeline
import Scrobbler.Proofs.Endpoint.Route
import Scrobbler.Proofs.Http.Address
import Scrobbler.Proofs.Http.Credential
import Scrobbler.Proofs.Http.Delivery
import Scrobbler.Proofs.Json.Canonical
import Scrobbler.Proofs.Json.Decode
import Scrobbler.Proofs.Json.Document
import Scrobbler.Proofs.Json.Faults
import Scrobbler.Proofs.Json.Numeral
import Scrobbler.Proofs.Json.Pruning
import Scrobbler.Proofs.Json.Record
import Scrobbler.Proofs.Json.Restoration
import Scrobbler.Proofs.Json.Traversal
import Scrobbler.Proofs.Json.WholeNumbers
import Scrobbler.Proofs.Listen.Members
import Scrobbler.Proofs.Listen.Payload
import Scrobbler.Proofs.Listen.RoundTrip
import Scrobbler.Proofs.NameMap
import Scrobbler.Proofs.Playlist.Identifier
import Scrobbler.Proofs.Program.Authentication
import Scrobbler.Proofs.Program.Consignment
import Scrobbler.Proofs.Program.ImportBatches
import Scrobbler.Proofs.Program.ImportTotal
import Scrobbler.Proofs.Program.Pauses
import Scrobbler.Proofs.Program.TokenHistory
import Scrobbler.Proofs.Records
import Scrobbler.Proofs.Storage.Disk
import Scrobbler.Proofs.Storage.TokenStore
import Scrobbler.Proofs.Submission.Acceptance
import Scrobbler.Proofs.Submission.Ceiling
import Scrobbler.Proofs.Submission.Course
import Scrobbler.Proofs.Submission.Coverage
import Scrobbler.Proofs.Submission.Fidelity
import Scrobbler.Proofs.Submission.FlatLoop
import Scrobbler.Proofs.Submission.LastAttempt
import Scrobbler.Proofs.Submission.Merging
import Scrobbler.Proofs.Submission.Parts
import Scrobbler.Proofs.Submission.RequestBound
import Scrobbler.Proofs.Submission.RetryLoop
import Scrobbler.Proofs.Submission.Shipments
import Scrobbler.Proofs.Table.Ranks
import Scrobbler.Proofs.Text.Integer
import Scrobbler.Proofs.Text.Search
import Scrobbler.Proofs.Text.Utf8
import Scrobbler.Proofs.Url.Escape
import Scrobbler.Proofs.Url.Form
import Scrobbler.Proofs.Url.Path
import Scrobbler.Proofs.Url.Root
import Scrobbler.Proofs.Url.Template
import Scrobbler.Release
import Scrobbler.Statistics.Activity
import Scrobbler.Statistics.Basic
import Scrobbler.Storage.DataDirectory
import Scrobbler.Storage.Disk
import Scrobbler.Storage.EnvironmentFile
import Scrobbler.Storage.Place
import Scrobbler.Storage.TokenStore
import Scrobbler.Submission.Basic
import Scrobbler.Table.Grid
import Scrobbler.Table.Rows
import Scrobbler.Text.Alphanumeric
import Scrobbler.Text.Blank
import Scrobbler.Text.Case.Cased
import Scrobbler.Text.Case.Ignorable
import Scrobbler.Text.Case.Lower
import Scrobbler.Text.CharTable
import Scrobbler.Text.Integer
import Scrobbler.Text.Lowercase
import Scrobbler.Text.Normal.CombiningClass
import Scrobbler.Text.Normal.Composition
import Scrobbler.Text.Normal.Form
import Scrobbler.Text.Search
import Scrobbler.Text.Utf8
import Scrobbler.Text.Width
import Scrobbler.Timeline
import Scrobbler.Url.Basic
import Scrobbler.Url.Domain.Allowed
import Scrobbler.Url.Domain.Basic
import Scrobbler.Url.Domain.Direction
import Scrobbler.Url.Domain.Joining
import Scrobbler.Url.Domain.Mapping
import Scrobbler.Url.Domain.Mark
import Scrobbler.Url.Domain.Punycode
import Scrobbler.Url.Encoding
import Scrobbler.Url.Host
import Scrobbler.Url.Ipv4
import Scrobbler.Url.Ipv6
import Scrobbler.Url.Path
import Scrobbler.Url.Reading
import Scrobbler.User
import Scrobbler.Word
