import LanguageClient.Client.Basic
import LanguageClient.Client.Calls
import LanguageClient.Client.Requests
import LanguageClient.ClientError
import LanguageClient.Completion
import LanguageClient.Config
import LanguageClient.Definition.Basic
import LanguageClient.Definition.Line
import LanguageClient.Edit
import LanguageClient.Editor.Basic
import LanguageClient.Editor.Buffer
import LanguageClient.FileTree
import LanguageClient.Glob.Pattern
import LanguageClient.Json.Basic
import LanguageClient.Json.Binary64
import LanguageClient.Json.Printer
import LanguageClient.Json.Reader
import LanguageClient.LogLevel
import LanguageClient.Message.Basic
import LanguageClient.Message.Frame
import LanguageClient.Path
import LanguageClient.Proofs.Client.Core
import LanguageClient.Proofs.Client.Deeds
import LanguageClient.Proofs.Client.Delivery
import LanguageClient.Proofs.Client.Estate
import LanguageClient.Proofs.Client.Homes
import LanguageClient.Proofs.Client.Lenience
import LanguageClient.Proofs.Definition.Arguments
import LanguageClient.Proofs.Definition.Csv
import LanguageClient.Proofs.Definition.RoundTrip
import LanguageClient.Proofs.Glob.Braces
import LanguageClient.Proofs.Json.RoundTrip
import LanguageClient.Proofs.Message.Frame
import LanguageClient.Proofs.Message.Parsing
import LanguageClient.Proofs.Message.Stream
import LanguageClient.Proofs.Path.Lexical
import LanguageClient.Proofs.Registration.Provenance
import LanguageClient.Proofs.Registration.Standing
import LanguageClient.Proofs.Rendering.Wrapping
import LanguageClient.Proofs.Routing.Keys
import LanguageClient.Proofs.Routing.Listing
import LanguageClient.Proofs.Routing.SettingsFile
import LanguageClient.Proofs.Schema.Record
import LanguageClient.Proofs.Server.Admission
import LanguageClient.Proofs.Server.Alone
import LanguageClient.Proofs.Server.Calling
import LanguageClient.Proofs.Server.Counting
import LanguageClient.Proofs.Server.Courtesy
import LanguageClient.Proofs.Server.Crashes
import LanguageClient.Proofs.Server.Demand
import LanguageClient.Proofs.Server.Distinct
import LanguageClient.Proofs.Server.Driving
import LanguageClient.Proofs.Server.Gist
import LanguageClient.Proofs.Server.Halting
import LanguageClient.Proofs.Server.House
import LanguageClient.Proofs.Server.Initializing
import LanguageClient.Proofs.Server.Keeping
import LanguageClient.Proofs.Server.Launching
import LanguageClient.Proofs.Server.Leading
import LanguageClient.Proofs.Server.Ledger
import LanguageClient.Proofs.Server.Locking
import LanguageClient.Proofs.Server.Manners
import LanguageClient.Proofs.Server.Opening
import LanguageClient.Proofs.Server.Ordering
import LanguageClient.Proofs.Server.Overtaking
import LanguageClient.Proofs.Server.Propriety
import LanguageClient.Proofs.Server.Recovery
import LanguageClient.Proofs.Server.Sane
import LanguageClient.Proofs.Server.Stage
import LanguageClient.Proofs.Server.Step
import LanguageClient.Proofs.Server.Stopping
import LanguageClient.Proofs.Server.Talking
import LanguageClient.Proofs.Server.Threshold
import LanguageClient.Proofs.Server.Vitality
import LanguageClient.Proofs.Session.Chronicle
import LanguageClient.Proofs.Session.Completion
import LanguageClient.Proofs.Session.Edits
import LanguageClient.Proofs.Session.Markers
import LanguageClient.Proofs.Session.Mirror
import LanguageClient.Proofs.Session.Sync
import LanguageClient.Proofs.Session.Versions
import LanguageClient.Proofs.Session.WorkspaceEdit
import LanguageClient.Proofs.Settings.Flat
import LanguageClient.Proofs.Settings.Scope
import LanguageClient.Proofs.Settings.Tree
import LanguageClient.Proofs.Snippet.Nesting
import LanguageClient.Proofs.Snippet.RoundTrip
import LanguageClient.Proofs.Task.AtOnce
import LanguageClient.Proofs.Task.Custom
import LanguageClient.Proofs.Task.Discipline
import LanguageClient.Proofs.Task.Hall
import LanguageClient.Proofs.Task.Liveness
import LanguageClient.Proofs.Task.Play
import LanguageClient.Proofs.Task.Regime
import LanguageClient.Proofs.Task.Reliance
import LanguageClient.Proofs.Task.Safety
import LanguageClient.Proofs.Task.Solo
import LanguageClient.Proofs.Task.Sparing
import LanguageClient.Proofs.Task.Stride
import LanguageClient.Proofs.Task.Turn
import LanguageClient.Proofs.Task.View
import LanguageClient.Proofs.Text.Columns
import LanguageClient.Proofs.Text.Offset
import LanguageClient.Proofs.Text.Replacement
import LanguageClient.Proofs.Text.Token
import LanguageClient.Proofs.Text.Trim
import LanguageClient.Proofs.Text.Utf8
import LanguageClient.Proofs.Transport.Books
import LanguageClient.Proofs.Transport.Conduct
import LanguageClient.Proofs.Transport.Line
import LanguageClient.Proofs.Transport.Matching
import LanguageClient.Proofs.Transport.Reading
import LanguageClient.Proofs.Transport.Requesting
import LanguageClient.Proofs.Transport.Sending
import LanguageClient.Proofs.Transport.Setting
import LanguageClient.Proofs.Transport.Stage
import LanguageClient.Proofs.Transport.Tearing
import LanguageClient.Proofs.Transport.Traffic
import LanguageClient.Proofs.Uri.Encoding
import LanguageClient.Proofs.Uri.FilePath
import LanguageClient.Registration.Table
import LanguageClient.Registration.Watcher
import LanguageClient.Rendering
import LanguageClient.Report.Error
import LanguageClient.Report.Values
import LanguageClient.Routing.Basic
import LanguageClient.Routing.Documents
import LanguageClient.Routing.Workspace
import LanguageClient.Schema.Basic
import LanguageClient.Schema.Capability
import LanguageClient.Schema.Document
import LanguageClient.Schema.Feature
import LanguageClient.Server.Basic
import LanguageClient.Server.Capability
import LanguageClient.Server.ErrorLog
import LanguageClient.Server.Feature
import LanguageClient.Server.Gate
import LanguageClient.Server.Launcher
import LanguageClient.Server.Lifecycle
import LanguageClient.Server.Welcome
import LanguageClient.Session.Basic
import LanguageClient.Session.Language
import LanguageClient.Session.Params
import LanguageClient.Session.Sync
import LanguageClient.Session.WorkspaceEdit
import LanguageClient.Settings
import LanguageClient.Snippet
import LanguageClient.Status
import LanguageClient.Stub.DocumentLife
import LanguageClient.Stub.Gate
import LanguageClient.Stub.Rehearsal
import LanguageClient.Stub.Server
import LanguageClient.Stub.Shell
import LanguageClient.Stub.Trial
import LanguageClient.Stub.Utility
import LanguageClient.Task.Agenda
import LanguageClient.Task.Lock
import LanguageClient.Task.Pipe
import LanguageClient.Task.Program
import LanguageClient.Task.Promise
import LanguageClient.Task.Scheduler
import LanguageClient.Task.Store
import LanguageClient.Text.Alphanumeric
import LanguageClient.Text.Basic
import LanguageClient.Text.Blank
import LanguageClient.Text.CharTable
import LanguageClient.Text.Composition
import LanguageClient.Text.Composition.Table
import LanguageClient.Text.Direction
import LanguageClient.Text.Joining
import LanguageClient.Text.Position
import LanguageClient.Text.Token
import LanguageClient.Text.Utf8
import LanguageClient.Timeout
import LanguageClient.Transport.Exchange
import LanguageClient.Transport.Wiring
import LanguageClient.Uri.Domain
import LanguageClient.Uri.Domain.Table
import LanguageClient.Uri.FilePath
import LanguageClient.Uri.Host
import LanguageClient.Uri.Location
import LanguageClient.Uri.Punycode
import LanguageClient.Uri.Reference
