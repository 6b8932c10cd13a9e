import ModelIdl.Command.Files
import ModelIdl.Command.Help
import ModelIdl.Command.Invocation
import ModelIdl.Command.Line
import ModelIdl.Command.Log
import ModelIdl.Command.Misuse
import ModelIdl.Command.Options
import ModelIdl.Command.Run
import ModelIdl.Decimal.Binary64
import ModelIdl.Decimal.Shortest
import ModelIdl.Dialect.Basic
import ModelIdl.Dialect.Quoting
import ModelIdl.Main
import ModelIdl.Naming.Basic
import ModelIdl.Naming.Physical
import ModelIdl.Naming.SnakeCase
import ModelIdl.Proofs.Token.Spelling
import ModelIdl.Proofs.Schema.Grammar
import ModelIdl.Proofs.Schema.Soundness
import ModelIdl.Proofs.Schema.Completeness
import ModelIdl.Report.Basic
import ModelIdl.Report.Json
import ModelIdl.Schema.Annotations
import ModelIdl.Schema.Declaration
import ModelIdl.Schema.ParseError
import ModelIdl.Schema.Parser
import ModelIdl.Schema.Reader
import ModelIdl.Schema.TypeRef
import ModelIdl.Session.AnyDialect
import ModelIdl.Session.Basic
import ModelIdl.Session.Registry
import ModelIdl.Source.Position
import ModelIdl.Source.Span
import ModelIdl.Text.Alphabetic
import ModelIdl.Text.Blank
import ModelIdl.Text.CaseMapping
import ModelIdl.Text.CodePoints
import ModelIdl.Text.LetterCase
import ModelIdl.Text.Numeric
import ModelIdl.Text.Printable
import ModelIdl.Text.Shown
import ModelIdl.Text.Terminal
import ModelIdl.Token.Basic
import ModelIdl.Token.Cursor
import ModelIdl.Token.Fault
import ModelIdl.Token.Gap
import ModelIdl.Token.Numeral
import ModelIdl.Token.Scan
import ModelIdl.Proofs.Token.Streams
import ModelIdl.Proofs.Schema.Recognition
import ModelIdl.Proofs.Schema.Places
import ModelIdl.Proofs.Schema.Concatenation
import ModelIdl.Proofs.Session.Runs
import ModelIdl.Proofs.Schema.Nesting
import ModelIdl.Proofs.Schema.Prefixes
import ModelIdl.Proofs.Schema.FirstOffence
import ModelIdl.Proofs.Source.Stretches
import ModelIdl.Proofs.Token.Requests
import ModelIdl.Proofs.Token.Gaps
import ModelIdl.Proofs.Token.Layout
import ModelIdl.Proofs.Schema.Relayout
import ModelIdl.Proofs.Dialect.Quoting
import ModelIdl.Proofs.Dialect.Statements
import ModelIdl.Proofs.Session.FirstObjection
import ModelIdl.Proofs.Session.Resolution
import ModelIdl.Proofs.Schema.Sites
import ModelIdl.Proofs.Schema.InPlace
import ModelIdl.Proofs.Session.Lifecycle
import ModelIdl.Proofs.Session.Failures
import ModelIdl.Proofs.Session.Reordering
import ModelIdl.Proofs.Naming.Letters
import ModelIdl.Proofs.Session.EmptyNames
import ModelIdl.Proofs.Schema.Alternatives
import ModelIdl.Proofs.Schema.OpenBodies
import ModelIdl.Proofs.Schema.LeadingAnnotations
import ModelIdl.Proofs.Schema.Expectations
import ModelIdl.Proofs.Session.SequenceStatements
import ModelIdl.Proofs.Naming.SnakeForm
import ModelIdl.Proofs.Naming.SnakeSettled
import ModelIdl.Proofs.Naming.UpperSnake
import ModelIdl.Proofs.Naming.SequenceNames
import ModelIdl.Proofs.Token.Strings
import ModelIdl.Proofs.Token.Integers
import ModelIdl.Proofs.Schema.TypeText
import ModelIdl.Proofs.Naming.Overrides
import ModelIdl.Proofs.Command.Resolving
import ModelIdl.Proofs.Token.ShownStrings
import ModelIdl.Proofs.Schema.AnnotationText
import ModelIdl.Schema.OnDemand
import ModelIdl.Proofs.Schema.OnDemand
import ModelIdl.Proofs.Source.Merging
import ModelIdl.Proofs.Session.Views
import ModelIdl.Proofs.Token.Resumption
