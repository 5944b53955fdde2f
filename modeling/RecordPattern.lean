import RecordPattern.Capture.Resolution
import RecordPattern.Command.Arguments
import RecordPattern.Command.Collect
import RecordPattern.Command.Input
import RecordPattern.Command.Report
import RecordPattern.Command.Run
import RecordPattern.Composite.Assembly
import RecordPattern.Composite.GroupIndex
import RecordPattern.Files.Error
import RecordPattern.Files.Path
import RecordPattern.Files.Replace
import RecordPattern.Files.Text
import RecordPattern.Files.Tree
import RecordPattern.Json.Document
import RecordPattern.Json.Encode
import RecordPattern.Json.Reader
import RecordPattern.Main
import RecordPattern.Number.Binary64
import RecordPattern.Number.DecimalText
import RecordPattern.Number.IntegerText
import RecordPattern.Number.Shortest
import RecordPattern.Pattern.Compile
import RecordPattern.Pattern.Error
import RecordPattern.Pattern.Find
import RecordPattern.Pattern.Summary
import RecordPattern.Proofs.Capture.Blanks
import RecordPattern.Proofs.Capture.Gift
import RecordPattern.Proofs.Capture.Resolution
import RecordPattern.Proofs.Command.Arguments
import RecordPattern.Proofs.Command.Collect
import RecordPattern.Proofs.Command.Document
import RecordPattern.Proofs.Command.Echo
import RecordPattern.Proofs.Command.Lines
import RecordPattern.Proofs.Command.Report
import RecordPattern.Proofs.Command.Run
import RecordPattern.Proofs.Command.Source
import RecordPattern.Proofs.Composite.Assembly
import RecordPattern.Proofs.Composite.Fault
import RecordPattern.Proofs.Composite.GroupIndex
import RecordPattern.Proofs.Composite.Independence
import RecordPattern.Proofs.Composite.Insertion
import RecordPattern.Proofs.Composite.Naming
import RecordPattern.Proofs.Composite.Ownership
import RecordPattern.Proofs.Composite.References
import RecordPattern.Proofs.Composite.Text
import RecordPattern.Proofs.Files.Directories
import RecordPattern.Proofs.Json.Dump
import RecordPattern.Proofs.Json.Number
import RecordPattern.Proofs.Json.RoundTrip
import RecordPattern.Proofs.Number.IntegerText
import RecordPattern.Proofs.Outcome
import RecordPattern.Proofs.Pattern.Assignment
import RecordPattern.Proofs.Pattern.Compiled
import RecordPattern.Proofs.Pattern.Coverage
import RecordPattern.Proofs.Pattern.Failure
import RecordPattern.Proofs.Pattern.Find
import RecordPattern.Proofs.Pattern.FindAll
import RecordPattern.Proofs.Pattern.Precedence
import RecordPattern.Proofs.Pattern.Session
import RecordPattern.Proofs.Pattern.Slots
import RecordPattern.Proofs.Record.Acceptance
import RecordPattern.Proofs.Record.Fields
import RecordPattern.Proofs.Record.Filling
import RecordPattern.Proofs.Record.Fit
import RecordPattern.Proofs.Record.Laws
import RecordPattern.Proofs.Record.Schema
import RecordPattern.Proofs.Record.Writing
import RecordPattern.Proofs.Regex.Advance
import RecordPattern.Proofs.Regex.Cursor
import RecordPattern.Proofs.Regex.Enclosure.Cursor
import RecordPattern.Proofs.Regex.Enclosure.Escape
import RecordPattern.Proofs.Regex.Enclosure.FlagGroup
import RecordPattern.Proofs.Regex.Enclosure.Frames
import RecordPattern.Proofs.Regex.Enclosure.Groups
import RecordPattern.Proofs.Regex.Enclosure.Matching
import RecordPattern.Proofs.Regex.Enclosure.Raise
import RecordPattern.Proofs.Regex.Enclosure.Reading
import RecordPattern.Proofs.Regex.Enclosure.Search
import RecordPattern.Proofs.Regex.Enclosure.Steps
import RecordPattern.Proofs.Regex.Enclosure.Whole
import RecordPattern.Proofs.Regex.FlagLetters
import RecordPattern.Proofs.Regex.Numbering
import RecordPattern.Proofs.Regex.Reading
import RecordPattern.Proofs.Regex.Stages
import RecordPattern.Proofs.Regex.Succession
import RecordPattern.Proofs.Schema.Entry
import RecordPattern.Proofs.Schema.Entrywise
import RecordPattern.Proofs.Schema.Failure
import RecordPattern.Proofs.Schema.FlagGroups
import RecordPattern.Proofs.Schema.GroupName
import RecordPattern.Proofs.Schema.InlineFlags
import RecordPattern.Proofs.Schema.Wrapped
import RecordPattern.Proofs.Schema.Wrapping
import RecordPattern.Proofs.Spec.Fields
import RecordPattern.Proofs.Spec.FlagSets
import RecordPattern.Proofs.Spec.Lax
import RecordPattern.Proofs.Spec.Loading
import RecordPattern.Proofs.Spec.Reading
import RecordPattern.Proofs.Spec.Violations
import RecordPattern.Proofs.Template.Concatenation
import RecordPattern.Proofs.Template.Filling
import RecordPattern.Proofs.Template.Grammar
import RecordPattern.Proofs.Template.Parsing
import RecordPattern.Proofs.Text.Identifier
import RecordPattern.Proofs.Text.LineEnds
import RecordPattern.Proofs.Text.Pair
import RecordPattern.Proofs.Text.Printable
import RecordPattern.Proofs.Text.Trim
import RecordPattern.Proofs.Text.Utf8
import RecordPattern.Proofs.Toolkit
import RecordPattern.Record.Access
import RecordPattern.Record.Shape
import RecordPattern.Record.Store
import RecordPattern.Record.Type
import RecordPattern.Record.Value
import RecordPattern.Regex.CharClass
import RecordPattern.Regex.CharTest
import RecordPattern.Regex.Check
import RecordPattern.Regex.Choice
import RecordPattern.Regex.Cursor
import RecordPattern.Regex.Error
import RecordPattern.Regex.Escape
import RecordPattern.Regex.FlagGroup
import RecordPattern.Regex.Flags
import RecordPattern.Regex.Groups
import RecordPattern.Regex.Matching
import RecordPattern.Regex.Node
import RecordPattern.Regex.Parser
import RecordPattern.Regex.Search
import RecordPattern.Regex.Token
import RecordPattern.Schema.InlineFlags
import RecordPattern.Schema.Wrapped
import RecordPattern.Spec.FlagName
import RecordPattern.Spec.Load
import RecordPattern.Spec.PatternSpec
import RecordPattern.Spec.Validation
import RecordPattern.Template.Fill
import RecordPattern.Template.Template
import RecordPattern.Text.Base64
import RecordPattern.Text.Blank
import RecordPattern.Text.Casing
import RecordPattern.Text.CharName
import RecordPattern.Text.CharName.Alias
import RecordPattern.Text.CharName.Ancient
import RecordPattern.Text.CharName.EastAsia
import RecordPattern.Text.CharName.Entry
import RecordPattern.Text.CharName.Notations
import RecordPattern.Text.CharName.Rule
import RecordPattern.Text.CharName.Scripts
import RecordPattern.Text.CharName.Symbols
import RecordPattern.Text.Digit
import RecordPattern.Text.Hex
import RecordPattern.Text.Identifier
import RecordPattern.Text.Letter
import RecordPattern.Text.Printable
import RecordPattern.Text.Quoted
import RecordPattern.Text.Ranges
import RecordPattern.Text.Split
import RecordPattern.Text.Utf8
import RecordPattern.Toolkit
import RecordPattern.Toolkit.Standard
import RecordPattern.Yaml.Block
import RecordPattern.Yaml.Cursor
import RecordPattern.Yaml.Document
import RecordPattern.Yaml.Error
import RecordPattern.Yaml.Graph
import RecordPattern.Yaml.Layout
import RecordPattern.Yaml.Load
import RecordPattern.Yaml.Merge
import RecordPattern.Yaml.Moment
import RecordPattern.Yaml.Plain
import RecordPattern.Yaml.Property
import RecordPattern.Yaml.Quoted
import RecordPattern.Yaml.Scalar
import RecordPattern.Yaml.Tag
import RecordPattern.Yaml.Token
import RecordPattern.Yaml.Tokens
