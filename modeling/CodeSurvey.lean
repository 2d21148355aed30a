import CodeSurvey.Command
import CodeSurvey.Command.Analyze
import CodeSurvey.Command.Arguments
import CodeSurvey.Command.Languages
import CodeSurvey.Command.Run
import CodeSurvey.Command.Usage
import CodeSurvey.Config
import CodeSurvey.Config.Read
import CodeSurvey.Decimal.Dyadic
import CodeSurvey.Decimal.Fixed
import CodeSurvey.Decimal.Shortest
import CodeSurvey.Declaration
import CodeSurvey.Declaration.Json
import CodeSurvey.Entry
import CodeSurvey.Extraction
import CodeSurvey.Failure
import CodeSurvey.FileTree
import CodeSurvey.FileTree.Listing
import CodeSurvey.Glob
import CodeSurvey.Glob.Parse
import CodeSurvey.Grammar
import CodeSurvey.Grammar.Docs
import CodeSurvey.Grammar.Ecma
import CodeSurvey.Grammar.Go
import CodeSurvey.Grammar.Java
import CodeSurvey.Grammar.Python
import CodeSurvey.Grammar.Rust
import CodeSurvey.Identify
import CodeSurvey.Json
import CodeSurvey.Json.Print
import CodeSurvey.Json.Read
import CodeSurvey.Language
import CodeSurvey.Language.Info
import CodeSurvey.Main
import CodeSurvey.Metrics
import CodeSurvey.Metrics.Halstead
import CodeSurvey.Metrics.Lines
import CodeSurvey.Metrics.Maintainability
import CodeSurvey.NameSet
import CodeSurvey.Parser
import CodeSurvey.Path
import CodeSurvey.Record
import CodeSurvey.Record.Json
import CodeSurvey.Registry
import CodeSurvey.Report
import CodeSurvey.Report.Pretty
import CodeSurvey.Signature
import CodeSurvey.Source
import CodeSurvey.Summary
import CodeSurvey.Survey
import CodeSurvey.Symbols
import CodeSurvey.Text.Blank
import CodeSurvey.Text.Comment
import CodeSurvey.Text.Cut
import CodeSurvey.Text.Digits
import CodeSurvey.Text.Docstring
import CodeSurvey.Text.Escape
import CodeSurvey.Text.Line
import CodeSurvey.Text.Occurs
import CodeSurvey.Text.Pattern
import CodeSurvey.Text.Quote
import CodeSurvey.Text.Unseen
import CodeSurvey.Text.Utf8
import CodeSurvey.Text.WordChar
import CodeSurvey.Tree
import CodeSurvey.Walk
import CodeSurvey.Walk.Enter
import CodeSurvey.Walk.Finish
import CodeSurvey.Walk.State
import CodeSurvey.Walk.Tour
import CodeSurvey.Yaml.Cursor
import CodeSurvey.Yaml.Node
import CodeSurvey.Yaml.Scalar
import CodeSurvey.Yaml.Scan
import CodeSurvey.Yaml.Tag
import CodeSurvey.Yaml.Token
import CodeSurvey.Proofs.Openings
import CodeSurvey.Proofs.Contribution
import CodeSurvey.Proofs.Reading
import CodeSurvey.Proofs.Assembly
import CodeSurvey.Proofs.Declarations
import CodeSurvey.Proofs.Filing
import CodeSurvey.Proofs.Callers
import CodeSurvey.Survey.Pool
import CodeSurvey.Proofs.Collect
import CodeSurvey.Proofs.Parsers
import CodeSurvey.Proofs.Fates
import CodeSurvey.Proofs.Pool
import CodeSurvey.Proofs.Accounting
import CodeSurvey.Proofs.Arrival
import CodeSurvey.Proofs.Complexity
import CodeSurvey.Proofs.Tallies
import CodeSurvey.Proofs.Faults
import CodeSurvey.Proofs.Tokens
import CodeSurvey.Proofs.LanguageFilter
import CodeSurvey.Proofs.Lines
import CodeSurvey.Proofs.Isolation
import CodeSurvey.Proofs.Exclusion
import CodeSurvey.Proofs.Interchange
import CodeSurvey.Proofs.RoundTrip
import CodeSurvey.Proofs.Shadowing
import CodeSurvey.Proofs.ExitStatus
import CodeSurvey.Proofs.Cursor
import CodeSurvey.Proofs.Stacks
import CodeSurvey.Proofs.Scopes
import CodeSurvey.Proofs.Declarators
import CodeSurvey.Proofs.Quotes
import CodeSurvey.Proofs.CommentBodies
import CodeSurvey.Proofs.Docstrings
import CodeSurvey.Proofs.CommentRuns
import CodeSurvey.Proofs.Headers
import CodeSurvey.Proofs.LineClasses
import CodeSurvey.Proofs.UseTrees
import CodeSurvey.Proofs.Bounds
import CodeSurvey.Proofs.ImportStatements
import CodeSurvey.Proofs.Moves
import CodeSurvey.Proofs.Traits
import CodeSurvey.Proofs.Words
import CodeSurvey.Proofs.ByteOrder
import CodeSurvey.Proofs.Lookup
import CodeSurvey.Proofs.Paths
import CodeSurvey.Proofs.Listing
