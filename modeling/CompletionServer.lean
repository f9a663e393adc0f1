import CompletionServer.Cache
import CompletionServer.Calendar
import CompletionServer.Candidate
import CompletionServer.ClientError
import CompletionServer.CommandLine
import CompletionServer.CommandLine.Flag
import CompletionServer.CommandLine.Word
import CompletionServer.Daemon
import CompletionServer.Digest.Sha1
import CompletionServer.Encoding.Base64
import CompletionServer.ErrorKind
import CompletionServer.Failure
import CompletionServer.Fault
import CompletionServer.Files.Change
import CompletionServer.Files.Glob
import CompletionServer.Files.System
import CompletionServer.Files.Tree
import CompletionServer.Filter.Bucket
import CompletionServer.Filter.Ordered
import CompletionServer.Filter.Pipeline
import CompletionServer.Filter.Relation
import CompletionServer.Fuzzy.Similarity
import CompletionServer.Fuzzy.Span
import CompletionServer.Fuzzy.Weight
import CompletionServer.Glob.Pattern
import CompletionServer.Http.Failed
import CompletionServer.Http.Message
import CompletionServer.Http.Route
import CompletionServer.Http.Status
import CompletionServer.Http.Url
import CompletionServer.Introspection.Behaviour
import CompletionServer.Introspection.Command
import CompletionServer.Introspection.Output
import CompletionServer.Json.Access
import CompletionServer.Json.Basic
import CompletionServer.Json.Conversion
import CompletionServer.Json.Printer
import CompletionServer.Json.Reader
import CompletionServer.Main
import CompletionServer.Number.Binary64
import CompletionServer.Number.Decimal
import CompletionServer.Number.Literal
import CompletionServer.Path
import CompletionServer.Project.Definition
import CompletionServer.Project.Manager
import CompletionServer.Project.Sources
import CompletionServer.Project.State
import CompletionServer.Project.Watcher
import CompletionServer.Report
import CompletionServer.Request.Basic
import CompletionServer.Request.Headers
import CompletionServer.Scalar
import CompletionServer.Service.Basic
import CompletionServer.Service.Guards
import CompletionServer.Service.Run
import CompletionServer.Service.Step
import CompletionServer.Settings
import CompletionServer.Signature
import CompletionServer.Table
import CompletionServer.Telemetry
import CompletionServer.Telemetry.Endpoint
import CompletionServer.Telemetry.Log
import CompletionServer.Telemetry.Metric
import CompletionServer.Text.Blank
import CompletionServer.Text.CodePoint
import CompletionServer.Text.DecimalDigit
import CompletionServer.Text.LetterCase
import CompletionServer.Text.LetterCase.Tables
import CompletionServer.Text.Lines
import CompletionServer.Text.Points
import CompletionServer.Text.Printable
import CompletionServer.Text.Quoted
import CompletionServer.Text.Utf8
import CompletionServer.Validation
import CompletionServer.Yaml.Cursor
import CompletionServer.Yaml.Document
import CompletionServer.Yaml.Graph
import CompletionServer.Yaml.Graph.Reader
import CompletionServer.Yaml.Kind
import CompletionServer.Yaml.MemberOrder
import CompletionServer.Yaml.Problem
import CompletionServer.Yaml.Token
import CompletionServer.Yaml.Token.Block
import CompletionServer.Yaml.Token.Name
import CompletionServer.Yaml.Token.Plain
import CompletionServer.Yaml.Token.Quoted
import CompletionServer.Yaml.Token.Reader
import CompletionServer.Proofs.Service.Transition
import CompletionServer.Proofs.Service.Guards
import CompletionServer.Proofs.Service.Exclusion
import CompletionServer.Proofs.Cache.Order
import CompletionServer.Proofs.Cache.Queue
import CompletionServer.Proofs.Cache.History
import CompletionServer.Proofs.Service.Provenance
import CompletionServer.Proofs.Service.Site
import CompletionServer.Proofs.Service.Transparency
import CompletionServer.Proofs.Service.Retention
import CompletionServer.Proofs.Filter.Stages
import CompletionServer.Proofs.Filter.Selection
import CompletionServer.Proofs.Project.History
import CompletionServer.Proofs.Project.Publication
import CompletionServer.Proofs.Project.Watching
import CompletionServer.Proofs.Project.Upkeep
import CompletionServer.Proofs.Project.Freshness
import CompletionServer.Proofs.Project.Vigil
import CompletionServer.Proofs.Service.Course
import CompletionServer.Proofs.Service.Closure
import CompletionServer.Proofs.Service.Accounts
import CompletionServer.Proofs.Service.Children
import CompletionServer.Proofs.Service.Absence
import CompletionServer.Proofs.Service.Atomicity
import CompletionServer.Proofs.Filter.Workers
import CompletionServer.Proofs.Filter.Grouping
import CompletionServer.Proofs.Filter.Inheritance
import CompletionServer.Proofs.Text.Encoding
import CompletionServer.Proofs.Service.Signature
import CompletionServer.Proofs.Outcome
import CompletionServer.Proofs.Project.Sources
import CompletionServer.Proofs.Files.Spelling
import CompletionServer.Proofs.Files.Walking
import CompletionServer.Proofs.Files.Resolution
import CompletionServer.Proofs.Project.Regularity
import CompletionServer.Proofs.Project.Definition
import CompletionServer.Proofs.Project.Forms
import CompletionServer.Proofs.Files.Subtree
import CompletionServer.Proofs.Files.Matching
import CompletionServer.Proofs.Project.Relocation
import CompletionServer.Proofs.Number.Numeral
import CompletionServer.Proofs.Request.Headers
import CompletionServer.Proofs.Yaml.Keys
import CompletionServer.Proofs.Yaml.Sameness
import CompletionServer.Proofs.Project.Spellings
import CompletionServer.Proofs.Json.Tokens
import CompletionServer.Proofs.Json.Grammar
import CompletionServer.Proofs.Introspection.Output
import CompletionServer.Proofs.Service.Handover
import CompletionServer.Proofs.Fuzzy.Span
import CompletionServer.Proofs.Fuzzy.Similarity
import CompletionServer.Proofs.Fuzzy.Weight
import CompletionServer.Proofs.Filter.Weighing
import CompletionServer.Proofs.Service.Buffer
import CompletionServer.Proofs.Text.Strict
import CompletionServer.Proofs.Project.Faults
import CompletionServer.Proofs.Project.Loading
import CompletionServer.Proofs.Telemetry.Endpoint
