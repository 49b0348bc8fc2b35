import EntitySql.Query.Edit
import EntitySql.Statement.Basic

/-!
# Building statements

Statements that depend on the metadata alone are built once for every dialect
and then remembered.  Statements with a predicate are built anew: the text of a
remembered statement, followed by the clauses of a query.
-/

namespace EntitySql

open EntitySql.Text

namespace Scope

/-- Builds a statement and remembers its text. -/
def remembered (scope : Scope) (kind : StatementKind) (related : Option Entity)
    (build : Attempt Statement) : Attempt String :=
  Memory.statementSlot.findOrTryCompute
    ⟨kind, scope.dialect.name, scope.entity.path, related.map (·.path)⟩ do
      let statement ← build
      let sql := statement.text scope.dialect
      Recall.emit (.statementBuilt kind scope.dialect.name scope.entity.path sql)
      return sql

/-- The column of a property with its marker. -/
def assignment (scope : Scope) (property : Property) : Recall Equation := do
  let column ← scope.column property
  return ⟨column, scope.dialect.marker property.name⟩

/-- The columns of several properties with their markers. -/
def assignments (scope : Scope) (properties : List Property) : Recall (List Equation) :=
  properties.mapM scope.assignment

/-- The equations that a row with the key satisfies. -/
def keyEquations (scope : Scope) : Attempt (List Equation) := do
  let keys ← scope.keys
  scope.assignments (keys.map (·.property))

/-- The same equations, with their columns qualified by a table. -/
def qualifiedKeyEquations (scope : Scope) (table : String) : Attempt (List Equation) := do
  let equations ← scope.keyEquations
  return equations.map fun equation => { equation with left := qualified table equation.left }

/-- One row by its key. -/
def get (scope : Scope) : Attempt String :=
  scope.remembered .get none do
    let table ← scope.table
    return .select table (← scope.keyEquations)

/-- All rows. -/
def getAll (scope : Scope) : Attempt String :=
  scope.remembered .getAll none do
    return .select (← scope.table) none

/-- A mapped property is written by an insertion unless the database generates
its value. -/
def isInserted (keys : List KeyProperty) (property : Property) : Bool :=
  !property.generated
    && !keys.any fun key => key.generated && key.property.name == property.name

/-- Inserts one row and returns the generated keys. -/
def insert (scope : Scope) : Attempt String :=
  scope.remembered .insert none do
    let keys ← scope.keys
    let generated := (keys.filter (·.generated)).map (·.property)
    let generatedKeys ← scope.columns generated
    let inserted := (← scope.mapped).filter (isInserted keys)
    let assignments ← scope.assignments inserted
    if assignments.isEmpty then
      throw (.noWritableColumns scope.entity.name "insert")
    let table ← scope.table
    return .insert
      ⟨table, assignments.map (·.left), assignments.map (·.right), generatedKeys⟩

/-- A mapped property is written by an update unless it is part of the key or the
database generates its value. -/
def isUpdated (keys : List KeyProperty) (property : Property) : Bool :=
  !property.generated && !keys.any fun key => key.property.name == property.name

/-- Updates one row by its key. -/
def update (scope : Scope) : Attempt String :=
  scope.remembered .update none do
    let keys ← scope.keys
    let updated := (← scope.mapped).filter (isUpdated keys)
    let assignments ← scope.assignments updated
    if assignments.isEmpty then
      throw (.noWritableColumns scope.entity.name "update")
    let table ← scope.table
    return .update table assignments (← scope.keyEquations)

/-- Deletes one row by its key. -/
def delete (scope : Scope) : Attempt String :=
  scope.remembered .delete none do
    let table ← scope.table
    return .delete table (← scope.keyEquations)

/-- Deletes all rows. -/
def deleteAll (scope : Scope) : Attempt String :=
  scope.remembered .deleteAll none do
    return .delete (← scope.table) none

/-- Counts all rows. -/
def count (scope : Scope) : Attempt String :=
  scope.remembered .count none do
    return .count (← scope.table)

/-- One row if there is any. -/
def any (scope : Scope) : Attempt String :=
  scope.remembered .any none do
    return .any (← scope.table)

/-- All rows, with every mapped column listed. -/
def projectAll (scope : Scope) : Attempt String :=
  scope.remembered .projectAll none do
    let columns ← scope.columns (← scope.mapped)
    return .project (← scope.table) columns

/-- The first column of the key of an entity. -/
def firstKeyColumn (scope : Scope) (entity : Entity) : Attempt String := do
  let columns ← scope.catalog.keyColumns entity scope.dialect
  return columns.head?.getD ""

/-- The tables of the entity and a related one, joined on the property that links
them and the key that it refers to. -/
def join (scope : Scope) (related : Entity) : Attempt Join := do
  let link ← scope.catalog.foreignKey scope.entity related
  let table ← scope.table
  let relatedTable ← scope.catalog.table related scope.dialect
  match link.relation with
  | .oneToOne => do
      let linking ← scope.column link.property
      let key ← scope.firstKeyColumn related
      return ⟨table, relatedTable, qualified table linking, qualified relatedTable key⟩
  | .oneToMany => do
      let key ← scope.firstKeyColumn scope.entity
      let linking ← scope.catalog.column related scope.dialect link.property
      return ⟨table, relatedTable, qualified table key, qualified relatedTable linking⟩

/-- One row by its key, joined with the related rows. -/
def getWith (scope : Scope) (related : Entity) : Attempt String :=
  scope.remembered .getJoined related do
    let table ← scope.table
    let join ← scope.join related
    return .selectJoined join (← scope.qualifiedKeyEquations table)

/-- All rows, joined with the related rows. -/
def getAllWith (scope : Scope) (related : Entity) : Attempt String :=
  scope.remembered .getAllJoined related do
    return .selectJoined (← scope.join related) none

/-- A query on the entity without any clause. -/
def query (scope : Scope) : Query :=
  { scope }

/-- A head followed by the clauses of a query, and the values bound in them. -/
def withQuery (scope : Scope) (head : String) (clauses : Edit Unit) :
    Attempt (String × Parameters) := do
  let (outcome, query) ← clauses.run.run scope.query
  MonadExcept.ofExcept outcome
  let tail ← query.render
  return (head ++ tail, query.parameters)

/-- Deletes the rows that satisfy a predicate. -/
def deleteWhere (scope : Scope) (predicate : Expression) : Attempt (String × Parameters) := do
  scope.withQuery (← scope.deleteAll) (Edit.startWhere predicate)

/-- Counts the rows that satisfy a predicate. -/
def countWhere (scope : Scope) (predicate : Expression) : Attempt (String × Parameters) := do
  scope.withQuery (← scope.count) (Edit.startWhere predicate)

/-- One row if any satisfies a predicate. -/
def anyWhere (scope : Scope) (predicate : Expression) : Attempt (String × Parameters) := do
  let head := Statement.anyHead (← scope.table)
  let (sql, parameters) ← scope.withQuery head (Edit.startWhere predicate)
  return (sql ++ " " ++ scope.dialect.limit 1, parameters)

/-- The rows that satisfy a predicate. -/
def select (scope : Scope) (predicate : Expression) : Attempt (String × Parameters) := do
  scope.withQuery (← scope.getAll) (Edit.startWhere predicate)

/-- One page of the rows that satisfy a predicate, in the order of the key. -/
def selectPaged (scope : Scope) (predicate : Expression) (page : Page) :
    Attempt (String × Parameters) := do
  scope.withQuery (← scope.getAll) do
    Edit.startWhere predicate
    Edit.onPage page

/-- The first row that satisfies a predicate, in the order of the key. -/
def first (scope : Scope) (predicate : Expression) : Attempt (String × Parameters) :=
  scope.selectPaged predicate ⟨1, 1⟩

/-- One page of all rows, in the order of the key. -/
def paged (scope : Scope) (page : Page) : Attempt String := do
  let (sql, _) ← scope.withQuery (← scope.getAll) (Edit.onPage page)
  return sql

/-- The named properties of all rows. -/
def project (scope : Scope) (names : List String) : Attempt String := do
  let (sql, _) ← scope.withQuery "" (Edit.select names)
  return sql

/-- The statements on an entity as diagnostics show them. -/
def describe (scope : Scope) : String :=
  openRecord "Statements"
    [("entity", quoted scope.entity.name), ("dialect", quoted scope.dialect.name)]

end Scope

end EntitySql
