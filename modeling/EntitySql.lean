import EntitySql.Calendar
import EntitySql.Catalog.Basic
import EntitySql.Catalog.Memory
import EntitySql.Catalog.Scope
import EntitySql.Condition.Basic
import EntitySql.Condition.Compile
import EntitySql.Condition.References
import EntitySql.Condition.Renaming
import EntitySql.Condition.Script
import EntitySql.Condition.Shape
import EntitySql.Conventions.Basic
import EntitySql.Conventions.ForeignKey
import EntitySql.Conventions.Naming
import EntitySql.Conventions.Usual
import EntitySql.Declaration.Attribute
import EntitySql.Declaration.Basic
import EntitySql.Declaration.Bound
import EntitySql.Declaration.Control
import EntitySql.Declaration.FieldType
import EntitySql.Declaration.Function
import EntitySql.Declaration.Generic
import EntitySql.Declaration.Grammar
import EntitySql.Declaration.Item
import EntitySql.Declaration.Lexeme
import EntitySql.Declaration.Lexer
import EntitySql.Declaration.Mapping
import EntitySql.Declaration.Member
import EntitySql.Declaration.Operand
import EntitySql.Declaration.Operator
import EntitySql.Declaration.Options
import EntitySql.Declaration.Path
import EntitySql.Declaration.Pattern
import EntitySql.Declaration.Reader
import EntitySql.Declaration.Statement
import EntitySql.Declaration.Token
import EntitySql.Declaration.Type
import EntitySql.Declaration.TypeDefinition
import EntitySql.Declaration.TypeExpression
import EntitySql.Dialect.Basic
import EntitySql.Dialect.BuiltIn
import EntitySql.Dialect.Custom
import EntitySql.Entity.Basic
import EntitySql.Entity.NameMatch
import EntitySql.Event
import EntitySql.Failure
import EntitySql.Memo.Basic
import EntitySql.Memo.Program
import EntitySql.Memo.Work
import EntitySql.Number.Binary64
import EntitySql.Number.Positional
import EntitySql.Number.Shortest
import EntitySql.Page
import EntitySql.Parameters
import EntitySql.Predicate.Expression
import EntitySql.Predicate.Meaning
import EntitySql.Predicate.Operator
import EntitySql.Predicate.Parts
import EntitySql.Predicate.Typing
import EntitySql.Proofs.BoundBefore
import EntitySql.Proofs.Compile.Binding
import EntitySql.Proofs.Compile.Chains
import EntitySql.Proofs.Compile.Closure
import EntitySql.Proofs.Compile.Growth
import EntitySql.Proofs.Compile.InStep
import EntitySql.Proofs.Compile.Judged
import EntitySql.Proofs.Compile.Later
import EntitySql.Proofs.Compile.Meaning
import EntitySql.Proofs.Compile.Refusals
import EntitySql.Proofs.Compile.Rules
import EntitySql.Proofs.Compile.Steps
import EntitySql.Proofs.Compile.Surroundings
import EntitySql.Proofs.ConnectionTypes
import EntitySql.Proofs.Grouping
import EntitySql.Proofs.Handles
import EntitySql.Proofs.Harmless
import EntitySql.Proofs.Ignored
import EntitySql.Proofs.Likeness
import EntitySql.Proofs.Links
import EntitySql.Proofs.LooseNames
import EntitySql.Proofs.Membership
import EntitySql.Proofs.Memory.Ensures
import EntitySql.Proofs.Memory.Faithful
import EntitySql.Proofs.Memory.Follows
import EntitySql.Proofs.Memory.PlainNames
import EntitySql.Proofs.Memory.Recall
import EntitySql.Proofs.Memory.Reentrant
import EntitySql.Proofs.Memory.Reliable
import EntitySql.Proofs.Memory.Settles
import EntitySql.Proofs.Navigations
import EntitySql.Proofs.Noninterference
import EntitySql.Proofs.NullTests
import EntitySql.Proofs.Paging
import EntitySql.Proofs.Parameters
import EntitySql.Proofs.Patterns
import EntitySql.Proofs.Positions
import EntitySql.Proofs.Query.Asked
import EntitySql.Proofs.Query.Calls
import EntitySql.Proofs.Query.Chains
import EntitySql.Proofs.Query.Commutation
import EntitySql.Proofs.Query.Echoes
import EntitySql.Proofs.Query.Failures
import EntitySql.Proofs.Query.Groups
import EntitySql.Proofs.Query.Markers
import EntitySql.Proofs.Query.Parts
import EntitySql.Proofs.Query.Preserved
import EntitySql.Proofs.Query.Refusals
import EntitySql.Proofs.Query.Steady
import EntitySql.Proofs.Quoting
import EntitySql.Proofs.Reading.Clauses
import EntitySql.Proofs.Reading.Harmless
import EntitySql.Proofs.Reading.Markers
import EntitySql.Proofs.Reading.Outline
import EntitySql.Proofs.Reading.Precedence
import EntitySql.Proofs.Reading.Renaming
import EntitySql.Proofs.Reading.Sides
import EntitySql.Proofs.Reading.Surroundings
import EntitySql.Proofs.Reading.Tokens
import EntitySql.Proofs.References
import EntitySql.Proofs.Registration
import EntitySql.Proofs.Segments
import EntitySql.Proofs.Session
import EntitySql.Proofs.Spelling
import EntitySql.Proofs.Statement.Described
import EntitySql.Proofs.Statement.Joined
import EntitySql.Proofs.Statement.Keyed
import EntitySql.Proofs.Statement.Preserved
import EntitySql.Proofs.Statement.Remembered
import EntitySql.Proofs.Statement.Requests
import EntitySql.Proofs.Statement.Restricted
import EntitySql.Proofs.Statement.Written
import EntitySql.Proofs.Translation
import EntitySql.Proofs.Transparency
import EntitySql.Proofs.Vocabulary
import EntitySql.Proofs.Wrappers
import EntitySql.Query.Basic
import EntitySql.Query.Clause
import EntitySql.Query.Edit
import EntitySql.Registry.Basic
import EntitySql.Registry.Connection
import EntitySql.Registry.Session
import EntitySql.Registry.TypeName
import EntitySql.Settings.Basic
import EntitySql.Settings.Document
import EntitySql.Sql.Database
import EntitySql.Sql.Identifier
import EntitySql.Sql.Marker
import EntitySql.Sql.Pattern
import EntitySql.Sql.Reader
import EntitySql.Sql.RowRange
import EntitySql.Sql.Token
import EntitySql.Statement.Basic
import EntitySql.Statement.Build
import EntitySql.Statement.Kind
import EntitySql.Text.CodePoints
import EntitySql.Text.Identifier
import EntitySql.Text.Quoted
import EntitySql.Text.Record
import EntitySql.Text.Segments
import EntitySql.Text.Visible
import EntitySql.Value
