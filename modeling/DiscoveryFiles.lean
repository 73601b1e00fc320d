import DiscoveryFiles.Text.Basic
import DiscoveryFiles.Text.CodePoint
import DiscoveryFiles.Text.Position
import DiscoveryFiles.Text.Cased
import DiscoveryFiles.Text.Lowercase
import DiscoveryFiles.Text.Uppercase
import DiscoveryFiles.Text.Word
import DiscoveryFiles.Text.DecimalDigit
import DiscoveryFiles.Text.Printable
import DiscoveryFiles.Text.Letter
import DiscoveryFiles.Text.Identifier
import DiscoveryFiles.Text.CaseVariant
import DiscoveryFiles.Text.CharacterName
import DiscoveryFiles.Number.Shortest
import DiscoveryFiles.Text.Quoted
import DiscoveryFiles.Text.Utf8
import DiscoveryFiles.Json.Basic
import DiscoveryFiles.Json.Error
import DiscoveryFiles.Json.Parser
import DiscoveryFiles.Json.Printer
import DiscoveryFiles.Json.Quoted
import DiscoveryFiles.Json.Equality
import DiscoveryFiles.Pattern.Flag
import DiscoveryFiles.Pattern.Width
import DiscoveryFiles.Pattern.Basic
import DiscoveryFiles.Pattern.Error
import DiscoveryFiles.Pattern.Parser.Cursor
import DiscoveryFiles.Pattern.Parser.Escape
import DiscoveryFiles.Pattern.Parser.Bracket
import DiscoveryFiles.Pattern.Parser.Quantifier
import DiscoveryFiles.Pattern.Parser.Mark
import DiscoveryFiles.Pattern.Parser
import DiscoveryFiles.Pattern.Search
import DiscoveryFiles.Pattern.Trail
import DiscoveryFiles.Pattern.Occurrence
import DiscoveryFiles.Schema.Violation
import DiscoveryFiles.Schema.Fault
import DiscoveryFiles.Schema.Keyword
import DiscoveryFiles.Schema.Reference
import DiscoveryFiles.Schema.Evaluation
import DiscoveryFiles.FileTree.Path
import DiscoveryFiles.FileTree.Basic
import DiscoveryFiles.Kind.Basic
import DiscoveryFiles.Kind.Detection
import DiscoveryFiles.Report.Finding
import DiscoveryFiles.Report.Result
import DiscoveryFiles.Report.Directory
import DiscoveryFiles.Report.Vectors
import DiscoveryFiles.Check.Markdown
import DiscoveryFiles.Check.Html
import DiscoveryFiles.Check.Sections
import DiscoveryFiles.Check.Questions
import DiscoveryFiles.Check.Keywords
import DiscoveryFiles.Check.Empty
import DiscoveryFiles.Log
import DiscoveryFiles.Failure
import DiscoveryFiles.SchemaStore
import DiscoveryFiles.Service.Basic
import DiscoveryFiles.Check.Structured
import DiscoveryFiles.Report.CrossFile
import DiscoveryFiles.Service.Validation
import DiscoveryFiles.Service.Scan
import DiscoveryFiles.CommandLine.Usage
import DiscoveryFiles.CommandLine.Options
import DiscoveryFiles.CommandLine.Settings
import DiscoveryFiles.CommandLine.Run
import DiscoveryFiles.Assistant.Request
import DiscoveryFiles.Assistant.Reading
import DiscoveryFiles.CommandLine.Places
import DiscoveryFiles.Bundled
import DiscoveryFiles.Main
import DiscoveryFiles.Proofs.Bundled.Agreement
import DiscoveryFiles.Proofs.Bundled.Identity
import DiscoveryFiles.Proofs.Bundled.LineEnd
import DiscoveryFiles.Proofs.Bundled.Node
import DiscoveryFiles.Proofs.Bundled.Pattern
import DiscoveryFiles.Proofs.Bundled.Policy
import DiscoveryFiles.Proofs.Bundled.Served
import DiscoveryFiles.Proofs.Bundled.Verdict
import DiscoveryFiles.Proofs.Check.Concatenation
import DiscoveryFiles.Proofs.Check.Element
import DiscoveryFiles.Proofs.Check.Html
import DiscoveryFiles.Proofs.Check.Issue
import DiscoveryFiles.Proofs.Check.LetterCase
import DiscoveryFiles.Proofs.Check.NearestHeader
import DiscoveryFiles.Proofs.Check.PageCase
import DiscoveryFiles.Proofs.Check.Pairing
import DiscoveryFiles.Proofs.Check.Questions
import DiscoveryFiles.Proofs.Check.SectionOrder
import DiscoveryFiles.Proofs.Check.Sections
import DiscoveryFiles.Proofs.Check.Structured
import DiscoveryFiles.Proofs.Check.TextKind
import DiscoveryFiles.Proofs.Check.Whitespace
import DiscoveryFiles.Proofs.Check.Wording
import DiscoveryFiles.Proofs.CommandLine.ExitStatus
import DiscoveryFiles.Proofs.CommandLine.JsonReport
import DiscoveryFiles.Proofs.CommandLine.Logging
import DiscoveryFiles.Proofs.CommandLine.Options
import DiscoveryFiles.Proofs.CommandLine.Printout
import DiscoveryFiles.Proofs.FileTree.Listing
import DiscoveryFiles.Proofs.FileTree.Path
import DiscoveryFiles.Proofs.FileTree.Presence
import DiscoveryFiles.Proofs.Json.Derivation
import DiscoveryFiles.Proofs.Json.Depth
import DiscoveryFiles.Proofs.Json.Equality
import DiscoveryFiles.Proofs.Json.Escape
import DiscoveryFiles.Proofs.Json.Gathering
import DiscoveryFiles.Proofs.Json.Grammar
import DiscoveryFiles.Proofs.Json.Identical
import DiscoveryFiles.Proofs.Json.Integer
import DiscoveryFiles.Proofs.Json.Limit
import DiscoveryFiles.Proofs.Json.Member
import DiscoveryFiles.Proofs.Json.Nesting
import DiscoveryFiles.Proofs.Json.Number
import DiscoveryFiles.Proofs.Json.Numeral
import DiscoveryFiles.Proofs.Json.Reordering
import DiscoveryFiles.Proofs.Json.RoundTrip
import DiscoveryFiles.Proofs.Json.SameValue
import DiscoveryFiles.Proofs.Json.StringText
import DiscoveryFiles.Proofs.Kind.Detection
import DiscoveryFiles.Proofs.Number.Scaled
import DiscoveryFiles.Proofs.Pattern.Counts
import DiscoveryFiles.Proofs.Pattern.Escape
import DiscoveryFiles.Proofs.Pattern.Expression
import DiscoveryFiles.Proofs.Pattern.Item
import DiscoveryFiles.Proofs.Pattern.Reading
import DiscoveryFiles.Proofs.Pattern.Rendering
import DiscoveryFiles.Proofs.Pattern.Search
import DiscoveryFiles.Proofs.Pattern.Step
import DiscoveryFiles.Proofs.Pattern.Stretch
import DiscoveryFiles.Proofs.Pattern.Whole
import DiscoveryFiles.Proofs.Pattern.Word
import DiscoveryFiles.Proofs.Report.CrossFile
import DiscoveryFiles.Proofs.Report.Finding
import DiscoveryFiles.Proofs.Schema.Acceptance
import DiscoveryFiles.Proofs.Schema.Alike
import DiscoveryFiles.Proofs.Schema.Conformance
import DiscoveryFiles.Proofs.Schema.DataOrder
import DiscoveryFiles.Proofs.Schema.Demand
import DiscoveryFiles.Proofs.Schema.Evaluation
import DiscoveryFiles.Proofs.Schema.FaultOrigin
import DiscoveryFiles.Proofs.Schema.Inlining
import DiscoveryFiles.Proofs.Schema.Listed
import DiscoveryFiles.Proofs.Schema.Origin
import DiscoveryFiles.Proofs.Schema.Place
import DiscoveryFiles.Proofs.Schema.Rearrangement
import DiscoveryFiles.Proofs.Schema.RootPath
import DiscoveryFiles.Proofs.Schema.SchemaOrder
import DiscoveryFiles.Proofs.Schema.Search
import DiscoveryFiles.Proofs.Schema.Termination
import DiscoveryFiles.Proofs.Schema.Transparency
import DiscoveryFiles.Proofs.Schema.WellFormed
import DiscoveryFiles.Proofs.SchemaStore.Access
import DiscoveryFiles.Proofs.SchemaStore.Fetch
import DiscoveryFiles.Proofs.SchemaStore.History
import DiscoveryFiles.Proofs.SchemaStore.Location
import DiscoveryFiles.Proofs.Service.Afresh
import DiscoveryFiles.Proofs.Service.Answer
import DiscoveryFiles.Proofs.Service.Attempt
import DiscoveryFiles.Proofs.Service.Avoidance
import DiscoveryFiles.Proofs.Service.Directory
import DiscoveryFiles.Proofs.Service.Escape
import DiscoveryFiles.Proofs.Service.FileText
import DiscoveryFiles.Proofs.Service.Independence
import DiscoveryFiles.Proofs.Service.JsonText
import DiscoveryFiles.Proofs.Service.Recovery
import DiscoveryFiles.Proofs.Service.Validation
import DiscoveryFiles.Proofs.Service.Vectors
import DiscoveryFiles.Proofs.Text.Division
import DiscoveryFiles.Proofs.Text.LetterCase
import DiscoveryFiles.Proofs.Text.Lines
import DiscoveryFiles.Proofs.Text.Lowercase
import DiscoveryFiles.Proofs.Text.Order
import DiscoveryFiles.Proofs.Text.Part
import DiscoveryFiles.Proofs.Text.Position
import DiscoveryFiles.Proofs.Text.Trim
import DiscoveryFiles.Proofs.Text.Utf8
