import McpConsole.Api.Call
import McpConsole.Api.Client
import McpConsole.Api.Error
import McpConsole.Api.Registry
import McpConsole.CommandLine.Args
import McpConsole.CommandLine.Command
import McpConsole.CommandLine.Failure
import McpConsole.CommandLine.Settings
import McpConsole.CommandLine.Table
import McpConsole.Console.App
import McpConsole.Console.Arrange
import McpConsole.Console.Command
import McpConsole.Console.Cursor
import McpConsole.Console.Dialog
import McpConsole.Console.Draw.Detail
import McpConsole.Console.Draw.Dialog
import McpConsole.Console.Draw.Form
import McpConsole.Console.Draw.List
import McpConsole.Console.Draw.Screen
import McpConsole.Console.Form
import McpConsole.Console.Input
import McpConsole.Console.Message
import McpConsole.Console.Process
import McpConsole.Console.Run
import McpConsole.Console.TextInput
import McpConsole.Console.Theme
import McpConsole.Console.View
import McpConsole.Credential.Discovery
import McpConsole.Credential.Netrc
import McpConsole.Disk.Basic
import McpConsole.Disk.Home
import McpConsole.Disk.Path
import McpConsole.Http.Base64
import McpConsole.Http.Message
import McpConsole.Http.Status
import McpConsole.Json.Decode
import McpConsole.Json.Node
import McpConsole.Json.Numeral
import McpConsole.Json.Printer
import McpConsole.Json.Reader
import McpConsole.Json.Value
import McpConsole.Main
import McpConsole.Number.Binary
import McpConsole.Number.Shortest
import McpConsole.Profile
import McpConsole.Program.Scene
import McpConsole.Program.Script
import McpConsole.Proofs.Api.Answer
import McpConsole.Proofs.Api.Base
import McpConsole.Proofs.Api.Deletion
import McpConsole.Proofs.Api.Endpoint
import McpConsole.Proofs.Api.Exchange
import McpConsole.Proofs.Api.Listing
import McpConsole.Proofs.Api.Origin
import McpConsole.Proofs.Api.Reason
import McpConsole.Proofs.CommandLine.Alignment
import McpConsole.Proofs.CommandLine.Attempt
import McpConsole.Proofs.CommandLine.Deletion
import McpConsole.Proofs.CommandLine.Lines
import McpConsole.Proofs.CommandLine.Precedence
import McpConsole.Proofs.CommandLine.Rejection
import McpConsole.Proofs.CommandLine.Saved
import McpConsole.Proofs.CommandLine.Tilde
import McpConsole.Proofs.Console.Areas
import McpConsole.Proofs.Console.Clicks
import McpConsole.Proofs.Console.Confirmation
import McpConsole.Proofs.Console.Core
import McpConsole.Proofs.Console.Course
import McpConsole.Proofs.Console.Deeds
import McpConsole.Proofs.Console.Deletion
import McpConsole.Proofs.Console.Events
import McpConsole.Proofs.Console.Failures
import McpConsole.Proofs.Console.Fetches
import McpConsole.Proofs.Console.Fields
import McpConsole.Proofs.Console.Forms
import McpConsole.Proofs.Console.Frames
import McpConsole.Proofs.Console.Freshness
import McpConsole.Proofs.Console.Halves
import McpConsole.Proofs.Console.Handling
import McpConsole.Proofs.Console.Occasions
import McpConsole.Proofs.Console.Onlookers
import McpConsole.Proofs.Console.Placement
import McpConsole.Proofs.Console.Rounds
import McpConsole.Proofs.Console.Rows
import McpConsole.Proofs.Console.Saving
import McpConsole.Proofs.Console.Silence
import McpConsole.Proofs.Console.Submission
import McpConsole.Proofs.Console.Tickets
import McpConsole.Proofs.Console.Translation
import McpConsole.Proofs.Console.Updates
import McpConsole.Proofs.Console.Viewport
import McpConsole.Proofs.Credential.Netrc
import McpConsole.Proofs.Disk.Folders
import McpConsole.Proofs.Disk.Write
import McpConsole.Proofs.Json.Record
import McpConsole.Proofs.Profile
import McpConsole.Proofs.Profile.Corrupt
import McpConsole.Proofs.Query.History
import McpConsole.Proofs.Query.Store
import McpConsole.Proofs.Screen.Canvas
import McpConsole.Proofs.Screen.Layout
import McpConsole.Proofs.Screen.Reading
import McpConsole.Proofs.Server.Wire
import McpConsole.Proofs.Session.Missing
import McpConsole.Proofs.Session.Role
import McpConsole.Proofs.Text.Blank
import McpConsole.Proofs.Text.Decimal
import McpConsole.Proofs.Text.Redaction.Pass
import McpConsole.Proofs.Text.Redaction.Patterns
import McpConsole.Proofs.Text.Redaction.Reach
import McpConsole.Proofs.Text.Redaction.Secrets
import McpConsole.Proofs.Text.Redaction.Settled
import McpConsole.Proofs.Text.Truncate
import McpConsole.Proofs.Text.Width
import McpConsole.Proofs.Time.Civil
import McpConsole.Proofs.Time.Display
import McpConsole.Proofs.Time.Timestamp
import McpConsole.Proofs.Url.Domain
import McpConsole.Proofs.Url.Folder
import McpConsole.Proofs.Url.Origin
import McpConsole.Proofs.Url.Path
import McpConsole.Proofs.Url.PathText
import McpConsole.Proofs.Url.Percent
import McpConsole.Proofs.Url.Stem
import McpConsole.Query.Store
import McpConsole.Screen.Canvas
import McpConsole.Screen.Color
import McpConsole.Screen.Layout
import McpConsole.Screen.Rect
import McpConsole.Screen.Style
import McpConsole.Screen.Text
import McpConsole.Server.Auth
import McpConsole.Server.Basic
import McpConsole.Server.Transport
import McpConsole.Server.Wire
import McpConsole.Session.Basic
import McpConsole.Session.Role
import McpConsole.Text.Blank
import McpConsole.Text.Cluster
import McpConsole.Text.Cluster.Table
import McpConsole.Text.Decimal
import McpConsole.Text.Lines
import McpConsole.Text.Normal
import McpConsole.Text.Normal.Table
import McpConsole.Text.Ranges
import McpConsole.Text.Redaction
import McpConsole.Text.Truncate
import McpConsole.Text.Width
import McpConsole.Text.Width.Ligature
import McpConsole.Text.Width.Table
import McpConsole.Time.Civil
import McpConsole.Time.Display
import McpConsole.Time.Timestamp
import McpConsole.Url.Basic
import McpConsole.Url.Host
import McpConsole.Url.Idna
import McpConsole.Url.Idna.Punycode
import McpConsole.Url.Idna.Table
import McpConsole.Url.Percent
import McpConsole.Url.Reader
