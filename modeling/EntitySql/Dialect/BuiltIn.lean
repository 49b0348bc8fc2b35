import EntitySql.Dialect.Basic

/-!
# The built-in dialects

The dialects of five database products.  All of them mark a parameter by an at
sign before its name.
-/

namespace EntitySql

open EntitySql.Text

/-- The database products that are known from the start. -/
inductive DialectKind where
  | sqlServer
  | sqlServerCompact
  | postgres
  | mySql
  | sqlite
  deriving DecidableEq

namespace DialectKind

/-- All products, in the order in which messages list them. -/
def all : List DialectKind :=
  [.sqlServer, .sqlServerCompact, .postgres, .mySql, .sqlite]

/-- The name of the product's dialect. -/
def name : DialectKind → String
  | .sqlServer => "sqlserver"
  | .sqlServerCompact => "sqlserverce"
  | .postgres => "postgres"
  | .mySql => "mysql"
  | .sqlite => "sqlite"

/-- The product whose dialect has a name. -/
def ofName? (name : String) : Option DialectKind :=
  all.find? fun kind => kind.name == name

/-- The product as diagnostics show it. -/
def describe : DialectKind → String
  | .sqlServer => "SqlServer"
  | .sqlServerCompact => "SqlServerCe"
  | .postgres => "Postgres"
  | .mySql => "MySql"
  | .sqlite => "Sqlite"

/-- The types of connection that are known to reach the product. -/
def connectionNames : DialectKind → List String
  | .sqlServer => ["mssqlconnection", "mssqlpool", "sqlconnection"]
  | .sqlServerCompact => ["sqlceconnection"]
  | .postgres => ["pgconnection", "pgpool", "postgrespool", "npgsqlconnection"]
  | .mySql => ["mysqlconnection", "mysqlpool"]
  | .sqlite => ["sqliteconnection", "sqlitepool"]

end DialectKind

/-- The marker that all built-in dialects use. -/
def atMarker (name : String) : String :=
  "@" ++ name

/-- Identifiers between brackets. -/
def bracketed : String → String := delimited '[' ']'

/-- Identifiers between double quotes. -/
def doubleQuoted : String → String := delimited '\x22' '\x22'

/-- Identifiers between grave accents. -/
def graveQuoted : String → String := delimited '\x60' '\x60'

/-- An insertion that says between columns and values which generated keys to
return. -/
def insertReturningInserted (insertion : Insertion) : String :=
  if insertion.generatedKeys.isEmpty then insertion.plain
  else
    insertion.head ++ " output "
      ++ commaSeparated (insertion.generatedKeys.map ("inserted." ++ ·)) ++ insertion.tail

/-- An insertion that says at its end which generated keys to return. -/
def insertReturning (insertion : Insertion) : String :=
  if insertion.generatedKeys.isEmpty then insertion.plain
  else insertion.plain ++ " returning " ++ commaSeparated insertion.generatedKeys

/-- An insertion followed by a query for the key generated last. -/
def insertThenQuery (query : String) (insertion : Insertion) : String :=
  if insertion.generatedKeys.isEmpty then insertion.plain
  else insertion.plain ++ "; " ++ query

/-- Paging by `offset` and `fetch`. -/
def offsetFetch (ordering : String) (page : Page) : String :=
  ordering ++ " offset " ++ toString page.offset.toNat ++ " rows fetch next "
    ++ toString page.size.toNat ++ " rows only"

/-- Paging by `offset` and `limit`. -/
def offsetLimit (ordering : String) (page : Page) : String :=
  ordering ++ " offset " ++ toString page.offset.toNat ++ " limit " ++ toString page.size.toNat

/-- Paging by a `limit` with two numbers. -/
def limitPair (ordering : String) (page : Page) : String :=
  ordering ++ " limit " ++ toString page.offset.toNat ++ ", " ++ toString page.size.toNat

/-- The first rows of any order, where counting needs an ordering. -/
def orderedFetch (count : UInt32) : String :=
  "order by 1 offset 0 rows fetch next " ++ toString count.toNat ++ " rows only"

/-- The dialect of a product. -/
def DialectKind.dialect : DialectKind → Dialect
  | .sqlServer =>
      { name := "sqlserver"
        description := "SqlServerSqlBuilder"
        marker := atMarker
        quoteIdentifier := bracketed
        insert := insertReturningInserted
        paging := offsetFetch
        limit := orderedFetch }
  | .sqlServerCompact =>
      { name := "sqlserverce"
        description := "SqlServerCeSqlBuilder"
        marker := atMarker
        quoteIdentifier := bracketed
        insert := insertThenQuery "select @@IDENTITY"
        paging := offsetFetch
        limit := orderedFetch }
  | .postgres =>
      { name := "postgres"
        description := "PostgresSqlBuilder"
        marker := atMarker
        quoteIdentifier := doubleQuoted
        insert := insertReturning
        paging := offsetLimit
        like := fun subject pattern => subject ++ " ilike " ++ pattern }
  | .mySql =>
      { name := "mysql"
        description := "MySqlSqlBuilder"
        marker := atMarker
        quoteIdentifier := graveQuoted
        insert := insertThenQuery "select LAST_INSERT_ID() id"
        paging := limitPair }
  | .sqlite =>
      { name := "sqlite"
        description := "SqliteSqlBuilder"
        marker := atMarker
        quoteIdentifier := id
        insert := insertThenQuery "select last_insert_rowid() id"
        paging := limitPair }

end EntitySql
