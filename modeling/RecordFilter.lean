import RecordFilter.Annotation
import RecordFilter.Binary64
import RecordFilter.Binary64.Decimal
import RecordFilter.Binary64.Shortest
import RecordFilter.Binary64.Text
import RecordFilter.Causes
import RecordFilter.CodeSet
import RecordFilter.CommandLine.Invocation
import RecordFilter.CommandLine.Options
import RecordFilter.CommandLine.RecordText
import RecordFilter.CommandLine.Run
import RecordFilter.Debug
import RecordFilter.Entries
import RecordFilter.Files
import RecordFilter.Filter
import RecordFilter.Filter.Checking
import RecordFilter.Filter.Evaluation
import RecordFilter.Filter.Parser
import RecordFilter.Hexadecimal
import RecordFilter.Integer64
import RecordFilter.Json
import RecordFilter.Json.Number
import RecordFilter.Json.Path
import RecordFilter.Json.Printer
import RecordFilter.Json.Reader
import RecordFilter.Main
import RecordFilter.Pattern
import RecordFilter.Pattern.ByteRanges
import RecordFilter.Pattern.ClassReader
import RecordFilter.Pattern.Cursor
import RecordFilter.Pattern.Escape
import RecordFilter.Pattern.Literal
import RecordFilter.Pattern.Meaning
import RecordFilter.Pattern.Reader
import RecordFilter.Pattern.Search
import RecordFilter.Pattern.Shape
import RecordFilter.Pattern.Size
import RecordFilter.Pattern.Size.Sets
import RecordFilter.Pattern.Size.Tally
import RecordFilter.Pattern.Size.Words
import RecordFilter.Pattern.Written
import RecordFilter.Proofs.Reading.Lexical
import RecordFilter.Session
import RecordFilter.Settings
import RecordFilter.Settings.Format
import RecordFilter.Settings.Loading
import RecordFilter.Synonyms
import RecordFilter.Synonyms.Document
import RecordFilter.Synonyms.Loading
import RecordFilter.Toml.Document
import RecordFilter.Toml.Scalar
import RecordFilter.Toml.Value
import RecordFilter.Unicode.Age
import RecordFilter.Unicode.Case
import RecordFilter.Unicode.CaseMapping
import RecordFilter.Unicode.GeneralCategory
import RecordFilter.Unicode.Lookup
import RecordFilter.Unicode.Property
import RecordFilter.Unicode.Quoted
import RecordFilter.Unicode.Script
import RecordFilter.Unicode.Segmentation
import RecordFilter.Utf8
import RecordFilter.Yaml.Node
import RecordFilter.Yaml.Position
import RecordFilter.Yaml.Scalar
import RecordFilter.Yaml.Token
import RecordFilter.Yaml11.Document
import RecordFilter.Yaml11.Line
import RecordFilter.Yaml11.Scalar
import RecordFilter.Yaml11.Token
import RecordFilter.Yaml12.Data
import RecordFilter.Yaml12.Document
import RecordFilter.Yaml12.Line
import RecordFilter.Yaml12.Scalar
import RecordFilter.Yaml12.Schema
import RecordFilter.Yaml12.Tag
import RecordFilter.Yaml12.Token
import RecordFilter.Proofs.Reading.Runs
import RecordFilter.Proofs.Reading.Invariants
import RecordFilter.Proofs.Reading.Truncation
import RecordFilter.Proofs.Reading.Groups
import RecordFilter.Proofs.Reading.Grammar
import RecordFilter.Proofs.Reading.NormalForm
import RecordFilter.Proofs.Checking.Attempts
import RecordFilter.Proofs.Checking.Lineage
import RecordFilter.Proofs.Checking.Equality
import RecordFilter.Proofs.Checking.Expansion
import RecordFilter.Proofs.Checking.Canonical
import RecordFilter.Proofs.FrontEnds.Loading
import RecordFilter.Proofs.FrontEnds.Degradation
import RecordFilter.Proofs.Json.Numerals
import RecordFilter.Proofs.Json.CompactText
import RecordFilter.Proofs.FrontEnds.Threads
import RecordFilter.Proofs.FrontEnds.Records
import RecordFilter.Proofs.Reading.Depth
import RecordFilter.Proofs.Checking.Congruence
import RecordFilter.Proofs.Numbers.Rounding
import RecordFilter.Proofs.Numbers.Integers
import RecordFilter.Proofs.Checking.Integers
import RecordFilter.Proofs.Unicode.Tables
import RecordFilter.Proofs.Unicode.Lowercase
import RecordFilter.Proofs.Checking.Verbatim
import RecordFilter.Proofs.Numbers.Overflow
import RecordFilter.Proofs.Json.FiniteNumbers
import RecordFilter.Proofs.Checking.Ordering
import RecordFilter.Proofs.Checking.Lists
import RecordFilter.Proofs.Numbers.RoundTrip
import RecordFilter.Proofs.Reading.NumberRuns
import RecordFilter.Proofs.Checking.NumberTerms
import RecordFilter.Proofs.Json.FilterForm
import RecordFilter.Proofs.FrontEnds.Annotation
import RecordFilter.Proofs.FrontEnds.Texts
import RecordFilter.Proofs.Numbers.WholeTexts
import RecordFilter.Proofs.Checking.WholeNumbers
import RecordFilter.Proofs.Checking.Paths
import RecordFilter.Proofs.Checking.Flags
import RecordFilter.Proofs.Reading.Progress
