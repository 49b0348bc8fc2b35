import EntitySql.Dialect.BuiltIn
import EntitySql.Statement.Kind
import EntitySql.Text.Record

/-!
# Events

Work that is really done, and not only remembered, leaves an event behind.
-/

namespace EntitySql

open EntitySql.Text

/-- How important an event is. -/
inductive EventLevel where
  | trace
  | debug
  deriving DecidableEq

/-- The level as logs show it. -/
def EventLevel.describe : EventLevel → String
  | .trace => "TRACE"
  | .debug => "DEBUG"

/-- Something that was done. -/
inductive Event where
  | registryBuilt (connections : Nat) (defaultDialect : DialectKind) (quoting : Bool)
  | tableResolved (path dialect table : String)
  | columnResolved (path property column : String)
  | keysResolved (path : String) (keys : Nat)
  | statementBuilt (kind : StatementKind) (dialect path sql : String)
  | queryRendered (entity dialect sql : String) (parameters : Nat)
  deriving DecidableEq

namespace Event

/-- Single names are details; statements and registries are not. -/
def level : Event → EventLevel
  | .tableResolved .. | .columnResolved .. | .keysResolved .. => .trace
  | .registryBuilt .. | .statementBuilt .. | .queryRendered .. => .debug

/-- What was done. -/
def message : Event → String
  | .registryBuilt .. => "built registry"
  | .tableResolved .. => "resolved table name"
  | .columnResolved .. => "resolved column name"
  | .keysResolved .. => "resolved key properties"
  | .statementBuilt .. => "built statement"
  | .queryRendered .. => "rendered sql expression"

/-- The particulars, each with its name. -/
def fields : Event → List (String × String)
  | .registryBuilt connections defaultDialect quoting =>
      [ ("connections", toString connections),
        ("default_dialect", defaultDialect.describe),
        ("quote_identifiers", truth quoting) ]
  | .tableResolved path dialect table =>
      [("entity", path), ("dialect", dialect), ("table", table)]
  | .columnResolved path property column =>
      [("entity", path), ("property", property), ("column", column)]
  | .keysResolved path keys => [("entity", path), ("keys", toString keys)]
  | .statementBuilt kind dialect path sql =>
      [("kind", kind.describe), ("dialect", dialect), ("entity", path), ("sql", sql)]
  | .queryRendered entity dialect sql parameters =>
      [ ("entity", entity), ("dialect", dialect), ("sql", sql),
        ("parameters", toString parameters) ]

end Event

end EntitySql
