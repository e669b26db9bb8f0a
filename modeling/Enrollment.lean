import Enrollment.Address
import Enrollment.Client.Connection
import Enrollment.Client.Nodes
import Enrollment.Client.Refusal
import Enrollment.Client.Retry
import Enrollment.Client.Wire
import Enrollment.Command.Inspection
import Enrollment.Command.Lifecycle
import Enrollment.Command.Run
import Enrollment.Command.Session
import Enrollment.Document.Codec
import Enrollment.Document.Fault
import Enrollment.Document.Magnitude
import Enrollment.Document.Tree
import Enrollment.Failure
import Enrollment.Files.Drive
import Enrollment.Files.Fault
import Enrollment.Files.Path
import Enrollment.Files.Request
import Enrollment.Files.Tree
import Enrollment.Host.Basic
import Enrollment.Host.World
import Enrollment.Http.Message
import Enrollment.Http.Redirect
import Enrollment.Instant.Basic
import Enrollment.Instant.Calendar
import Enrollment.Instant.Text
import Enrollment.Invocation.Basic
import Enrollment.Invocation.Grammar
import Enrollment.Invocation.Reader
import Enrollment.Json.Printer
import Enrollment.Json.Reader
import Enrollment.Lifecycle.Basic
import Enrollment.Lifecycle.Operations
import Enrollment.Log.Event
import Enrollment.Log.Filter
import Enrollment.Log.Setup
import Enrollment.Main
import Enrollment.Node.Entry
import Enrollment.Node.Image
import Enrollment.Node.Status
import Enrollment.Output.Form
import Enrollment.Output.Printing
import Enrollment.Output.Style
import Enrollment.Plan
import Enrollment.Program
import Enrollment.Proofs.Address.Grammar
import Enrollment.Proofs.Address.Spelling
import Enrollment.Proofs.Client.Aim
import Enrollment.Proofs.Client.Authorization
import Enrollment.Proofs.Client.Backoff
import Enrollment.Proofs.Client.Documents
import Enrollment.Proofs.Client.Queries
import Enrollment.Proofs.Client.Refusals
import Enrollment.Proofs.Client.Resources
import Enrollment.Proofs.Client.Retrying
import Enrollment.Proofs.Client.Sending
import Enrollment.Proofs.Client.Speaking
import Enrollment.Proofs.Client.StatusCode
import Enrollment.Proofs.Command.Announcement
import Enrollment.Proofs.Command.Cooldown
import Enrollment.Proofs.Command.Influence
import Enrollment.Proofs.Command.MissingSettings
import Enrollment.Proofs.Command.Preparation
import Enrollment.Proofs.Command.ReleaseCheck
import Enrollment.Proofs.Command.Resolution
import Enrollment.Proofs.Command.Secrecy
import Enrollment.Proofs.Document.Kinds
import Enrollment.Proofs.Document.Layout
import Enrollment.Proofs.Document.Partial
import Enrollment.Proofs.Files.Directories
import Enrollment.Proofs.Files.Drive
import Enrollment.Proofs.Files.Growth
import Enrollment.Proofs.Files.Mishap
import Enrollment.Proofs.Files.Paths
import Enrollment.Proofs.Host.History
import Enrollment.Proofs.Host.Parts
import Enrollment.Proofs.Host.Rekeying
import Enrollment.Proofs.Instant.Calendar
import Enrollment.Proofs.Instant.Span
import Enrollment.Proofs.Instant.Text
import Enrollment.Proofs.Invocation.ApiKey
import Enrollment.Proofs.Invocation.Naming
import Enrollment.Proofs.Invocation.Reading
import Enrollment.Proofs.Invocation.Switches
import Enrollment.Proofs.Json.Grammar
import Enrollment.Proofs.Json.Numeral
import Enrollment.Proofs.Json.RoundTrip
import Enrollment.Proofs.Json.Text
import Enrollment.Proofs.Lifecycle.Alignment
import Enrollment.Proofs.Lifecycle.Backing
import Enrollment.Proofs.Lifecycle.Courses
import Enrollment.Proofs.Lifecycle.Discipline
import Enrollment.Proofs.Lifecycle.Failing
import Enrollment.Proofs.Lifecycle.Forecast
import Enrollment.Proofs.Lifecycle.GivingUp
import Enrollment.Proofs.Lifecycle.History
import Enrollment.Proofs.Lifecycle.Holding
import Enrollment.Proofs.Lifecycle.Lawful
import Enrollment.Proofs.Lifecycle.Ownership
import Enrollment.Proofs.Lifecycle.Progress
import Enrollment.Proofs.Lifecycle.Racing
import Enrollment.Proofs.Lifecycle.Remote
import Enrollment.Proofs.Lifecycle.Rerun
import Enrollment.Proofs.Lifecycle.Sending
import Enrollment.Proofs.Lifecycle.Site
import Enrollment.Proofs.Lifecycle.Staleness
import Enrollment.Proofs.Node.Cooldown
import Enrollment.Proofs.Plan.Asking
import Enrollment.Proofs.Plan.Sharing
import Enrollment.Proofs.Plan.Transcript
import Enrollment.Proofs.Registration.Cell
import Enrollment.Proofs.Registration.Keeping
import Enrollment.Proofs.Registration.Lasting
import Enrollment.Proofs.Registration.Record
import Enrollment.Proofs.Release.Manifest
import Enrollment.Proofs.Settings.Announcing
import Enrollment.Proofs.Settings.Completion
import Enrollment.Proofs.Settings.Defects
import Enrollment.Proofs.Settings.Variables
import Enrollment.Proofs.Text.Digits
import Enrollment.Proofs.Text.Utf8
import Enrollment.Proofs.Url.Blanks
import Enrollment.Proofs.Url.Extension
import Enrollment.Proofs.Url.Following
import Enrollment.Registration.Basic
import Enrollment.Registration.Store
import Enrollment.Release.Check
import Enrollment.Release.Manifest
import Enrollment.Settings.Basic
import Enrollment.Settings.Environment
import Enrollment.Settings.Expansion
import Enrollment.Settings.Loading
import Enrollment.Settings.Validation
import Enrollment.Text.Alphanumeric
import Enrollment.Text.Base64
import Enrollment.Text.Blank
import Enrollment.Text.CodeRange
import Enrollment.Text.Digits
import Enrollment.Text.Printable
import Enrollment.Text.Quoted
import Enrollment.Text.Utf8
import Enrollment.Toml.Lexical
import Enrollment.Toml.Reader
import Enrollment.Toml.Scalar
import Enrollment.Toml.Table
import Enrollment.Trouble
import Enrollment.Url.Basic
import Enrollment.Url.Domain.Basic
import Enrollment.Url.Domain.Composed
import Enrollment.Url.Domain.Direction
import Enrollment.Url.Domain.Joining
import Enrollment.Url.Domain.Mapping
import Enrollment.Url.Domain.Punycode
import Enrollment.Url.Host
import Enrollment.Url.Parser
import Enrollment.Url.Percent
import Enrollment.Url.Reference
import Enrollment.Yaml.Printer
import Enrollment.Yaml.Resolution
import Enrollment.Yaml.Scalar
