import RequestFilter.Bag
import RequestFilter.Bag.QueryString
import RequestFilter.Binary64
import RequestFilter.Binary64.Shortest
import RequestFilter.Binary64.Text
import RequestFilter.CommandLine
import RequestFilter.Compilation
import RequestFilter.Configuration
import RequestFilter.Configuration.Directory
import RequestFilter.Configuration.File
import RequestFilter.Configuration.Read
import RequestFilter.Configuration.Schema
import RequestFilter.Definition
import RequestFilter.Json.Basic
import RequestFilter.Json.Cursor
import RequestFilter.Json.Fault
import RequestFilter.Json.Numeral
import RequestFilter.Json.Read
import RequestFilter.Json.Text
import RequestFilter.Json.Typed
import RequestFilter.Json.Write
import RequestFilter.Main
import RequestFilter.Operator
import RequestFilter.OrderedMap
import RequestFilter.Pattern
import RequestFilter.Predicate
import RequestFilter.Program
import RequestFilter.QueryBuilder
import RequestFilter.Recorder
import RequestFilter.Rule
import RequestFilter.Rule.Script
import RequestFilter.Sanitizer
import RequestFilter.Scalar
import RequestFilter.Spec
import RequestFilter.Sql.Building
import RequestFilter.Sql.Expression
import RequestFilter.Sql.Keyword
import RequestFilter.Sql.Layout
import RequestFilter.Sql.Lexeme
import RequestFilter.Sql.Render
import RequestFilter.Sql.Select
import RequestFilter.Sql.Statement
import RequestFilter.Storage
import RequestFilter.Storage.Tree
import RequestFilter.Text.Blank
import RequestFilter.Text.CaseTable
import RequestFilter.Text.CharRange
import RequestFilter.Text.Cluster
import RequestFilter.Text.ClusterTable
import RequestFilter.Text.LetterCase
import RequestFilter.Text.Pieces
import RequestFilter.Text.PrintableTable
import RequestFilter.Text.Quoted
import RequestFilter.Text.Utf8
import RequestFilter.Text.WordCase
import RequestFilter.Text.WordTable
import RequestFilter.Value
import RequestFilter.Proofs.Pattern.Matching
import RequestFilter.Proofs.Sql.Meaning
import RequestFilter.Proofs.Building
import RequestFilter.Proofs.Sql.Application
import RequestFilter.Proofs.Numeral
import RequestFilter.Proofs.Sql.Token
import RequestFilter.Proofs.Sql.Induction
import RequestFilter.Proofs.Sql.Spelling
import RequestFilter.Proofs.Sql.Rendering
import RequestFilter.Proofs.Sql.Placeholder
import RequestFilter.Proofs.Sql.Alike
import RequestFilter.Proofs.Sql.Unambiguous
import RequestFilter.Proofs.Sql.Outline
import RequestFilter.Proofs.Sql.Precedence
import RequestFilter.Proofs.Sql.Grouping
import RequestFilter.Proofs.OrderedMap
import RequestFilter.Proofs.Definition.Report
import RequestFilter.Proofs.Definition.Whitelist
import RequestFilter.Proofs.Definition.Compositional
import RequestFilter.Proofs.Definition.Script
import RequestFilter.Proofs.Definition.Refusal
import RequestFilter.Proofs.Sql.Secrecy
import RequestFilter.Proofs.Bag.Decoded
import RequestFilter.Proofs.Sql.Phrase
import RequestFilter.Proofs.Compilation
import RequestFilter.Proofs.Definition.Parallel
import RequestFilter.Proofs.Definition.Program
import RequestFilter.Proofs.Definition.Composition
import RequestFilter.Proofs.Sql.Recorded
import RequestFilter.Proofs.Definition.Session
import RequestFilter.Proofs.Sql.Narrowing
import RequestFilter.Proofs.Text.Pieces
import RequestFilter.Proofs.Text.Quoted
import RequestFilter.Proofs.Bag.QueryString
import RequestFilter.Proofs.Sql.Listing
import RequestFilter.Proofs.Definition.Registration
import RequestFilter.Proofs.Definition.Course
import RequestFilter.Proofs.Definition.Dispatch
import RequestFilter.Proofs.Acceptance
import RequestFilter.Proofs.Sql.Naming
import RequestFilter.Proofs.Sql.Operand
import RequestFilter.Proofs.Pattern.Literal
import RequestFilter.Proofs.Bag.RepeatedKeys
import RequestFilter.Proofs.Json.Grammar
import RequestFilter.Proofs.Json.Outcome
import RequestFilter.Proofs.Json.Numerals
import RequestFilter.Proofs.Json.Answers
import RequestFilter.Proofs.Json.Spelled
import RequestFilter.Proofs.Bag.Document
import RequestFilter.Proofs.Json.Integers
import RequestFilter.Proofs.Json.Refused
import RequestFilter.Proofs.Bag.Operands
import RequestFilter.Proofs.Sql.Standing
import RequestFilter.Proofs.Sql.Integer
import RequestFilter.Proofs.RuleName
import RequestFilter.Proofs.Sanitizer
import RequestFilter.Proofs.Definition.Account
import RequestFilter.Proofs.Declarations
import RequestFilter.Proofs.Bag.History
import RequestFilter.Proofs.Binary64
import RequestFilter.Proofs.Value
import RequestFilter.Proofs.Json.Passed
import RequestFilter.Proofs.Json.Decided
import RequestFilter.Proofs.Json.Shapes
import RequestFilter.Proofs.Configuration.Settings
import RequestFilter.Proofs.Binary64.Nearest
import RequestFilter.Proofs.Binary64.Shortest
import RequestFilter.Proofs.Json.Numbers
import RequestFilter.Proofs.Json.Layout
import RequestFilter.Proofs.Configuration.RoundTrip
import RequestFilter.Proofs.Configuration.Directory
import RequestFilter.Proofs.Configuration.KeyOrder
import RequestFilter.Proofs.Sql.Composed
import RequestFilter.Proofs.Sql.Relocation
import RequestFilter.Proofs.Sql.Writing
import RequestFilter.Proofs.Sql.Node
import RequestFilter.Proofs.Sql.Junction
