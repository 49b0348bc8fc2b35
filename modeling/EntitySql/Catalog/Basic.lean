import EntitySql.Catalog.Memory
import EntitySql.Condition.Compile

/-!
# The catalogue of names

A catalogue answers for the table of an entity, the column of a property, and
the roles of properties.  It applies the conventions, quotes names for the
dialect, and asks the memory first.
-/

namespace EntitySql

open EntitySql.Text

/-- The conventions in force, and whether names are quoted. -/
structure Catalog where
  conventions : Conventions
  quoting : Bool

namespace Catalog

/-- The table of an entity, in the spelling of the dialect. -/
def table (catalog : Catalog) (entity : Entity) (dialect : Dialect) : Recall String :=
  Memory.tableSlot.findOrCompute (dialect.name, entity.path) do
    let name := catalog.conventions.table entity
    Recall.emit (.tableResolved entity.path dialect.name name)
    return if catalog.quoting then dialect.quoteQualified name else name

/-- The column of a property, in the spelling of the dialect. -/
def column (catalog : Catalog) (entity : Entity) (dialect : Dialect) (property : Property) :
    Recall String :=
  Memory.columnSlot.findOrCompute ⟨dialect.name, entity.path, property.name⟩ do
    let name := catalog.conventions.column property
    Recall.emit (.columnResolved entity.path property.name name)
    return if catalog.quoting then dialect.quoteIdentifier name else name

/-- The columns of several properties. -/
def columns (catalog : Catalog) (entity : Entity) (dialect : Dialect)
    (properties : List Property) : Recall (List String) :=
  properties.mapM (catalog.column entity dialect)

/-- The column of the property with a name. -/
def columnNamed (catalog : Catalog) (entity : Entity) (dialect : Dialect) (name : String) :
    Attempt String :=
  match entity.property? name with
  | none => throw (.unknownProperty entity.name name)
  | some property => catalog.column entity dialect property

/-- The columns of the properties with the given names, up to the first name
without a property. -/
def columnsNamed (catalog : Catalog) (entity : Entity) (dialect : Dialect)
    (names : List String) : Attempt (List String) :=
  names.mapM (catalog.columnNamed entity dialect)

/-- The key of an entity, which is never empty. -/
def keys (catalog : Catalog) (entity : Entity) : Attempt (List KeyProperty) :=
  Memory.keySlot.findOrTryCompute entity.path do
    match catalog.conventions.keys entity with
    | .error failure => throw failure
    | .ok [] => throw (.keyNotFound entity.name)
    | .ok keys => do
        Recall.emit (.keysResolved entity.path keys.length)
        return keys

/-- The columns of the key. -/
def keyColumns (catalog : Catalog) (entity : Entity) (dialect : Dialect) :
    Attempt (List String) := do
  let keys ← catalog.keys entity
  catalog.columns entity dialect (keys.map (·.property))

/-- The mapped properties of an entity. -/
def mapped (catalog : Catalog) (entity : Entity) : Recall (List Property) :=
  Memory.mappedSlot.findOrCompute entity.path (pure (catalog.conventions.mapped entity))

/-- The property that links a source to a related entity. -/
def foreignKey (catalog : Catalog) (source related : Entity) : Attempt ForeignKey :=
  Memory.foreignKeySlot.findOrTryCompute (source.path, related.path)
    (MonadExcept.ofExcept (catalog.conventions.foreignKey source related))

/-- The name that the memory has for a column, or the one it would get. -/
def columnName (catalog : Catalog) (entity : Entity) (dialect : Dialect) (memory : Memory)
    (property : Property) : String :=
  ((catalog.column entity dialect property).run memory).1

/-- Compiles a predicate after the values that are bound already, and names its
columns.  The parameters are those bound by then, also when the predicate has no
SQL form; columns that were looked up before the failure are remembered. -/
def condition (catalog : Catalog) (entity : Entity) (dialect : Dialect)
    (parameters : Parameters) (predicate : Expression) :
    Recall (Except Failure (Condition String) × Parameters) := do
  let (result, draft) := ((predicate.condition entity).run).run { parameters }
  discard (catalog.columns entity dialect draft.lookups)
  let memory ← get
  let named := result.map (Condition.map (catalog.columnName entity dialect memory))
  return (named, draft.parameters)

theorem condition_run (catalog : Catalog) (entity : Entity) (dialect : Dialect)
    (parameters : Parameters) (predicate : Expression) (memory : Memory) :
    (catalog.condition entity dialect parameters predicate).run memory =
      let compiled := (predicate.condition entity).run.run { parameters }
      let after := ((catalog.columns entity dialect compiled.2.lookups).run memory).2
      ((compiled.1.map (Condition.map (catalog.columnName entity dialect after)),
        compiled.2.parameters), after) :=
  rfl

/-- What the memory holds of names, as diagnostics show it. -/
def describe (catalog : Catalog) (memory : Memory) : String :=
  openRecord "Resolvers"
    [ ("quote_identifiers", truth catalog.quoting),
      ("cached_tables", toString memory.tables.size),
      ("cached_columns", toString memory.columns.size) ]

end Catalog

end EntitySql
