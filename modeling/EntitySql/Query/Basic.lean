import EntitySql.Catalog.Scope
import EntitySql.Query.Clause

/-!
# Queries

A query has at most one clause of each kind.  Its text is the selection, the
where clause, and the ordering or the page requested.  Rendering changes nothing.
-/

namespace EntitySql

open EntitySql.Text

/-- A query in the making. -/
structure Query where
  scope : Scope
  selection : Option Selection := none
  whereClause : Option WhereClause := none
  ordering : List OrderTerm := []
  page : Option Page := none
  parameters : Parameters := {}

namespace Query

/-- The text of the where clause, empty before there is one. -/
def whereText (query : Query) : String :=
  (query.whereClause.map (WhereClause.text query.scope.dialect)).getD ""

/-- The text of the ordering, empty before there is one. -/
def orderText (query : Query) : String :=
  if query.ordering.isEmpty then "" else orderByText query.ordering

/-- The ordering, or else the ascending order of the key. -/
def orderOrKeys (query : Query) : Attempt String :=
  if query.ordering.isEmpty then do
    let columns ← query.scope.keyColumns
    return orderByText (columns.map fun column => ⟨column, .ascending⟩)
  else return query.orderText

/-- What follows the where clause: the ordering, or the page requested. -/
def tailText (query : Query) : Attempt String :=
  match query.page with
  | none => return query.orderText
  | some page => do
      return query.scope.dialect.paging (← query.orderOrKeys) page

/-- The text of the query. -/
def render (query : Query) : Attempt String := do
  let tail ← query.tailText
  let sql := (query.selection.map Selection.text).getD "" ++ query.whereText ++ tail
  Recall.emit
    (.queryRendered query.scope.entity.name query.scope.dialect.name sql query.parameters.size)
  return sql

/-- The query as diagnostics show it. -/
def describe (query : Query) : String :=
  let page := query.page.map fun page =>
    "(" ++ commaSeparated [toString page.number.toInt, toString page.size.toNat] ++ ")"
  openRecord "SqlExpression"
    [ ("entity", quoted query.scope.entity.name),
      ("dialect", quoted query.scope.dialect.name),
      ("where_clause", quoted query.whereText),
      ("order_by", quoted query.orderText),
      ("paging", optional page),
      ("parameters", query.parameters.describe) ]

end Query

end EntitySql
