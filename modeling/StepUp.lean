import StepUp.Audit.Event
import StepUp.Audit.Sink
import StepUp.Authentication
import StepUp.Chain
import StepUp.CommandLine.Command
import StepUp.CommandLine.DryRun
import StepUp.CommandLine.Invocation
import StepUp.CommandLine.Option
import StepUp.CommandLine.Run
import StepUp.CommandLine.Style
import StepUp.CommandLine.Usage
import StepUp.Config.Basic
import StepUp.Config.File
import StepUp.File.Homes
import StepUp.File.Path
import StepUp.File.Tree
import StepUp.Glob
import StepUp.HostFailure
import StepUp.Json.Display
import StepUp.Json.Parser
import StepUp.Json.Printer
import StepUp.Json.Value
import StepUp.Log.Location
import StepUp.Log.Message
import StepUp.Log.Record
import StepUp.Log.Template
import StepUp.Logs
import StepUp.Main
import StepUp.Method.Basic
import StepUp.Method.Registry
import StepUp.Number.Binary64
import StepUp.Pattern.CharTest
import StepUp.Pattern.Complaint
import StepUp.Pattern.Escape
import StepUp.Pattern.Matcher
import StepUp.Pattern.Parser
import StepUp.Pattern.Reader
import StepUp.Pattern.Syntax
import StepUp.Proofs.Chain.Ending
import StepUp.Proofs.Chain.Notices
import StepUp.Proofs.Chain.Search
import StepUp.Proofs.Chain.Telling
import StepUp.Proofs.Chain.Tracing
import StepUp.Proofs.Chain.Warnings
import StepUp.Proofs.CommandLine.DryRun
import StepUp.Proofs.CommandLine.Invocation
import StepUp.Proofs.CommandLine.Resolve
import StepUp.Proofs.CommandLine.Style
import StepUp.Proofs.CommandLine.Target
import StepUp.Proofs.Config.Default
import StepUp.Proofs.Config.Exchange
import StepUp.Proofs.Config.Meaning
import StepUp.Proofs.Config.Policy
import StepUp.Proofs.Config.Refusal
import StepUp.Proofs.Config.RoundTrip
import StepUp.Proofs.Config.Sound
import StepUp.Proofs.Config.Valid
import StepUp.Proofs.Config.Wiring
import StepUp.Proofs.File.Growth
import StepUp.Proofs.File.Tree
import StepUp.Proofs.Glob.Bracket
import StepUp.Proofs.Glob.Language
import StepUp.Proofs.Json.Escape
import StepUp.Proofs.Json.Parsed
import StepUp.Proofs.Json.Reading
import StepUp.Proofs.Json.Spelling
import StepUp.Proofs.Log.Line
import StepUp.Proofs.Log.Location
import StepUp.Proofs.Log.Message
import StepUp.Proofs.Log.Notice
import StepUp.Proofs.Log.Time
import StepUp.Proofs.Logs.Delivery
import StepUp.Proofs.Logs.Run
import StepUp.Proofs.Logs.Silence
import StepUp.Proofs.Logs.Step
import StepUp.Proofs.Logs.Warnings
import StepUp.Proofs.Method.Ranking
import StepUp.Proofs.Method.Registry
import StepUp.Proofs.Pattern.Grammar
import StepUp.Proofs.Pattern.Parts
import StepUp.Proofs.Pattern.Reader
import StepUp.Proofs.Pattern.Reading
import StepUp.Proofs.Pattern.Search
import StepUp.Proofs.Resolver
import StepUp.Proofs.Role.Evaluation
import StepUp.Proofs.Role.Granting
import StepUp.Proofs.Role.Refusal
import StepUp.Proofs.Role.Resolver
import StepUp.Proofs.Role.Rule
import StepUp.Proofs.Role.Selection
import StepUp.Proofs.Service.Directory
import StepUp.Proofs.Session.Audit
import StepUp.Proofs.Session.Call
import StepUp.Proofs.Session.Console
import StepUp.Proofs.Session.Failure
import StepUp.Proofs.Session.Frame
import StepUp.Proofs.Session.Independence
import StepUp.Proofs.Session.Marker
import StepUp.Proofs.Session.Outage
import StepUp.Proofs.Session.Reentry
import StepUp.Proofs.Session.Rejection
import StepUp.Proofs.Session.Requirement
import StepUp.Proofs.Session.Run
import StepUp.Proofs.Session.Selection
import StepUp.Proofs.Session.Sink
import StepUp.Proofs.Session.Step
import StepUp.Proofs.Session.Tracing
import StepUp.Proofs.Session.Warnings
import StepUp.Proofs.Text.Decimal
import StepUp.Proofs.Text.Utf8
import StepUp.Proofs.Time.Calendar
import StepUp.Proofs.Time.Clock
import StepUp.Proofs.Time.Timestamp
import StepUp.Proofs.Validation.Checked
import StepUp.Proofs.Validation.Rules
import StepUp.Proofs.Verifier
import StepUp.Rejection
import StepUp.Request
import StepUp.Requirement
import StepUp.Resolver
import StepUp.Role.Resolver
import StepUp.Role.Rule
import StepUp.Role.Selection
import StepUp.Service.Definition
import StepUp.Session
import StepUp.Target
import StepUp.Text.Blank
import StepUp.Text.Case
import StepUp.Text.CharacterName
import StepUp.Text.CodePoint
import StepUp.Text.Decimal
import StepUp.Text.Identifier
import StepUp.Text.Letters
import StepUp.Text.Printable
import StepUp.Text.Quoted
import StepUp.Text.Ranges
import StepUp.Text.Similarity
import StepUp.Text.Utf8
import StepUp.Text.Wrap
import StepUp.Time.Calendar
import StepUp.Time.Instant
import StepUp.Validation.Checked
import StepUp.Validation.Issue
import StepUp.Verifier
