import StepFlow.Analysis
import StepFlow.CheckRules
import StepFlow.Checking.Finding
import StepFlow.Checking.Program
import StepFlow.Checking.Registry
import StepFlow.CommandLine.Arguments
import StepFlow.CommandLine.Files
import StepFlow.CommandLine.Log
import StepFlow.CommandLine.Run
import StepFlow.Compilation
import StepFlow.Diagnostic
import StepFlow.Dialect
import StepFlow.Json.Basic
import StepFlow.Json.Printer
import StepFlow.Json.Reader
import StepFlow.Json.Schema
import StepFlow.Layout
import StepFlow.Main
import StepFlow.Netlist.Basic
import StepFlow.Netlist.Builder
import StepFlow.Netlist.Json
import StepFlow.Netlist.OfProgram
import StepFlow.Netlist.Openness
import StepFlow.Netlist.Uid
import StepFlow.Number.Ascending
import StepFlow.Number.Binary
import StepFlow.Pattern.Basic
import StepFlow.Pattern.CharTest
import StepFlow.Pattern.Fault
import StepFlow.Pattern.Grammar
import StepFlow.Pattern.Keyword
import StepFlow.Pattern.Reader
import StepFlow.Program.Basic
import StepFlow.Program.Condition
import StepFlow.Program.Json
import StepFlow.Program.Statistics
import StepFlow.Reading.ConditionLine
import StepFlow.Reading.Fault
import StepFlow.Reading.Line
import StepFlow.Reading.Metadata
import StepFlow.Reading.Program
import StepFlow.Reading.Rules
import StepFlow.Reading.State
import StepFlow.Session
import StepFlow.SourceKind
import StepFlow.Text.Case
import StepFlow.Text.CaseRange
import StepFlow.Text.Class
import StepFlow.Text.LetterRange
import StepFlow.Text.Numeral
import StepFlow.Text.NumeralRange
import StepFlow.Text.PrintableRange
import StepFlow.Text.Quoted
import StepFlow.Text.Similarity
import StepFlow.Text.Trim
import StepFlow.Text.Utf8
import StepFlow.Xml.Basic
import StepFlow.Xml.Draft
import StepFlow.Proofs.Netlist.Design
import StepFlow.Proofs.Netlist.Meaning
import StepFlow.Proofs.Checking.Findings
import StepFlow.Proofs.Checking.Structure
import StepFlow.Proofs.Checking.Numbering
import StepFlow.Proofs.Netlist.StepBits
import StepFlow.Proofs.Compilation
import StepFlow.Proofs.Reading.Marks
import StepFlow.Proofs.Reading.Waiting
import StepFlow.Proofs.Reading.Accounting
import StepFlow.Proofs.Pattern.Continuation
import StepFlow.Proofs.Pattern.Keyword
import StepFlow.Proofs.Layout.Heads
import StepFlow.Proofs.Layout.Cells
import StepFlow.Proofs.Layout.Signs
import StepFlow.Proofs.Layout.Tidy
import StepFlow.Proofs.Layout.Respacing
import StepFlow.Proofs.Layout.Forms
import StepFlow.Proofs.Layout.LineForm
import StepFlow.Proofs.Text.Lines
import StepFlow.Proofs.Layout.Plain
import StepFlow.Proofs.Normalization
import StepFlow.Proofs.Netlist.Generation
import StepFlow.Proofs.Netlist.Density
import StepFlow.Proofs.Netlist.Capacity
import StepFlow.Proofs.Netlist.Bands
import StepFlow.Proofs.Netlist.Assembly
import StepFlow.Proofs.Netlist.Openness
import StepFlow.Proofs.Xml.Reader
import StepFlow.Proofs.Xml.RoundTrip
import StepFlow.Proofs.Xml.Markup
import StepFlow.Proofs.Xml.Escaping
import StepFlow.Proofs.Pattern.Reads
import StepFlow.Proofs.Pattern.Search
import StepFlow.Proofs.Pattern.Repetition
import StepFlow.Proofs.Reading.Faults
import StepFlow.Proofs.Reading.Times
import StepFlow.Proofs.Reading.LinePatterns
import StepFlow.Proofs.Reading.Declarations
import StepFlow.Proofs.Layout.Labels
import StepFlow.Proofs.Layout.Embedded
import StepFlow.Proofs.Layout.TransitionLines
import StepFlow.Proofs.Reading.Relabeling
import StepFlow.Proofs.Program.RoundTrip
import StepFlow.Proofs.Reading.Comments
import StepFlow.Proofs.Checking.Places
import StepFlow.Proofs.Checking.Registry
import StepFlow.Proofs.CommandLine.Actions
import StepFlow.Proofs.CommandLine.FileOrder
import StepFlow.Proofs.Checking.Gaps
import StepFlow.Proofs.Program.Conditions
import StepFlow.Proofs.Checking.Timers
import StepFlow.Proofs.Checking.References
import StepFlow.Proofs.Reading.Runs
import StepFlow.Proofs.Reading.Filing
import StepFlow.Proofs.Reading.Attachment
import StepFlow.Proofs.Reading.Counts
import StepFlow.Proofs.Reading.Collecting
import StepFlow.Proofs.Reading.Reports
import StepFlow.Proofs.Reading.ExplicitMarks
import StepFlow.Proofs.Reading.EmptyLists
import StepFlow.Proofs.Reading.ReferenceLines
import StepFlow.Proofs.Reading.RestLines
import StepFlow.Proofs.Xml.Legality
import StepFlow.Proofs.Netlist.Legality
import StepFlow.Proofs.Text.Alphabet
import StepFlow.Proofs.Legality
import StepFlow.Proofs.Checking.Groups
import StepFlow.Proofs.Checking.Repetition
import StepFlow.Proofs.Json.Objects
import StepFlow.Proofs.CheckRules.RoundTrip
import StepFlow.Proofs.Layout.CanonicalLines
import StepFlow.Proofs.Layout.SolidText
import StepFlow.Proofs.CheckRules.Overrides
import StepFlow.Proofs.Dialect.KeywordSets
import StepFlow.Proofs.Pattern.Context
import StepFlow.Proofs.Reading.Signals
