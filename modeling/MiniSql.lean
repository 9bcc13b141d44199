import MiniSql.Binary64.Basic
import MiniSql.Binary64.Layout
import MiniSql.Binary64.Reader
import MiniSql.Binary64.Rounding
import MiniSql.Binary64.Shortest
import MiniSql.Column
import MiniSql.CommandLine.Arguments
import MiniSql.CommandLine.Help
import MiniSql.CommandLine.LogFilter
import MiniSql.CommandLine.Run
import MiniSql.Config
import MiniSql.Config.Toml
import MiniSql.Database.Error
import MiniSql.Database.Result
import MiniSql.Database.Session
import MiniSql.Database.Transaction
import MiniSql.Execution
import MiniSql.Files
import MiniSql.Json.Reader
import MiniSql.Json.Writer
import MiniSql.Literal
import MiniSql.Main
import MiniSql.Notice
import MiniSql.Output.Csv
import MiniSql.Output.Format
import MiniSql.Output.Grid
import MiniSql.Output.Rows
import MiniSql.ParseError
import MiniSql.Predicate.Basic
import MiniSql.Predicate.Clause
import MiniSql.Proofs.Binding
import MiniSql.Proofs.Bounds
import MiniSql.Proofs.Commuting
import MiniSql.Proofs.Conjuncts
import MiniSql.Proofs.Cuts
import MiniSql.Proofs.Effects
import MiniSql.Proofs.Endings
import MiniSql.Proofs.Equality
import MiniSql.Proofs.Faults
import MiniSql.Proofs.Fetching
import MiniSql.Proofs.FilledStatements
import MiniSql.Proofs.FilledTexts
import MiniSql.Proofs.FilledTokens
import MiniSql.Proofs.Filling
import MiniSql.Proofs.Flags
import MiniSql.Proofs.Formula
import MiniSql.Proofs.Handles
import MiniSql.Proofs.Heads
import MiniSql.Proofs.Identity
import MiniSql.Proofs.Insertion
import MiniSql.Proofs.Integers
import MiniSql.Proofs.Joining
import MiniSql.Proofs.JsonNumbers
import MiniSql.Proofs.JsonRows
import MiniSql.Proofs.JsonValues
import MiniSql.Proofs.Layout
import MiniSql.Proofs.Leading
import MiniSql.Proofs.LikeStatements
import MiniSql.Proofs.Likeness
import MiniSql.Proofs.Literals
import MiniSql.Proofs.Lookahead
import MiniSql.Proofs.MissingItems
import MiniSql.Proofs.Nearest
import MiniSql.Proofs.Nesting
import MiniSql.Proofs.Numbering
import MiniSql.Proofs.Numerals
import MiniSql.Proofs.Offsets
import MiniSql.Proofs.Parameterless
import MiniSql.Proofs.Parameters
import MiniSql.Proofs.Pieces
import MiniSql.Proofs.Piping
import MiniSql.Proofs.Platform
import MiniSql.Proofs.Printing
import MiniSql.Proofs.Quoting
import MiniSql.Proofs.Readers
import MiniSql.Proofs.Readings
import MiniSql.Proofs.Records
import MiniSql.Proofs.Requests
import MiniSql.Proofs.RoundTrip
import MiniSql.Proofs.Rows
import MiniSql.Proofs.Runs
import MiniSql.Proofs.Savepoints
import MiniSql.Proofs.Scripts
import MiniSql.Proofs.Selection
import MiniSql.Proofs.Shortest
import MiniSql.Proofs.Showing
import MiniSql.Proofs.Slots
import MiniSql.Proofs.Splitting
import MiniSql.Proofs.Switches
import MiniSql.Proofs.Transactions
import MiniSql.Proofs.Trimming
import MiniSql.Proofs.Uniqueness
import MiniSql.Proofs.Untouched
import MiniSql.Proofs.Writes
import MiniSql.Registry
import MiniSql.Relation
import MiniSql.Row
import MiniSql.Schema
import MiniSql.Script
import MiniSql.Shell.Command
import MiniSql.Shell.Help
import MiniSql.Shell.History
import MiniSql.Shell.Input
import MiniSql.Shell.Session
import MiniSql.Shell.Settings
import MiniSql.Statement.Basic
import MiniSql.Statement.Definition
import MiniSql.Statement.Json
import MiniSql.Statement.Parser
import MiniSql.Text.Alphabetic
import MiniSql.Text.Backspace
import MiniSql.Text.Blank
import MiniSql.Text.CharRange
import MiniSql.Text.Cluster
import MiniSql.Text.Emoji
import MiniSql.Text.Fold
import MiniSql.Text.Guarded
import MiniSql.Text.Hexadecimal
import MiniSql.Text.Lowercase
import MiniSql.Text.Mark
import MiniSql.Text.Numeric
import MiniSql.Text.Quoted
import MiniSql.Text.Width
import MiniSql.Text.Width.Char
import MiniSql.Text.Width.Ligature
import MiniSql.Text.Width.Sequence
import MiniSql.Token.Basic
import MiniSql.Token.Group
import MiniSql.Token.Lexer
import MiniSql.Token.Location
import MiniSql.Toml.Basic
import MiniSql.Toml.Quoted
import MiniSql.Toml.Reader
import MiniSql.Toml.Scalar
import MiniSql.Toml.Writer
import MiniSql.Value
