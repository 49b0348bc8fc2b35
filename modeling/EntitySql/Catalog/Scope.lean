import EntitySql.Catalog.Basic

/-!
# One entity in one dialect

Queries and statements are about one entity and are written in one dialect.  A
scope holds both together with the catalogue that names things.
-/

namespace EntitySql

/-- An entity, a dialect, and a catalogue of names. -/
structure Scope where
  catalog : Catalog
  entity : Entity
  dialect : Dialect

namespace Scope

/-- The table of the entity. -/
def table (scope : Scope) : Recall String :=
  scope.catalog.table scope.entity scope.dialect

/-- The column of a property of the entity. -/
def column (scope : Scope) (property : Property) : Recall String :=
  scope.catalog.column scope.entity scope.dialect property

/-- The columns of properties of the entity. -/
def columns (scope : Scope) (properties : List Property) : Recall (List String) :=
  scope.catalog.columns scope.entity scope.dialect properties

/-- The columns of the properties with the given names. -/
def columnsNamed (scope : Scope) (names : List String) : Attempt (List String) :=
  scope.catalog.columnsNamed scope.entity scope.dialect names

/-- The key of the entity. -/
def keys (scope : Scope) : Attempt (List KeyProperty) :=
  scope.catalog.keys scope.entity

/-- The columns of the key. -/
def keyColumns (scope : Scope) : Attempt (List String) :=
  scope.catalog.keyColumns scope.entity scope.dialect

/-- The mapped properties of the entity. -/
def mapped (scope : Scope) : Recall (List Property) :=
  scope.catalog.mapped scope.entity

/-- The condition for a predicate over the entity. -/
def condition (scope : Scope) (parameters : Parameters) (predicate : Expression) :
    Recall (Except Failure (Condition String) × Parameters) :=
  scope.catalog.condition scope.entity scope.dialect parameters predicate

end Scope

end EntitySql
