import EntitySql.Catalog.Scope
import EntitySql.Query.Clause
import EntitySql.Statement.Kind

/-!
# Statements on an entity

A statement on an entity is a record of tables, columns and markers; its text
follows from the record and the dialect.  Rows are picked by their key, so a
statement on one row carries an equation for every property of the key.
-/

namespace EntitySql

open EntitySql.Text

/-- An equation between two columns, or between a column and a marker. -/
structure Equation where
  left : String
  right : String
  deriving DecidableEq

/-- The text of an equation. -/
def Equation.text (equation : Equation) : String :=
  equation.left ++ " = " ++ equation.right

/-- The text of several equations that all hold. -/
def conjunctionText (equations : List Equation) : String :=
  " and ".intercalate (equations.map Equation.text)

/-- A column qualified by its table. -/
def qualified (table column : String) : String :=
  table ++ "." ++ column

/-- Two tables and the equation on which their rows meet. -/
structure Join where
  source : String
  related : String
  condition : Equation
  deriving DecidableEq

/-- A statement on an entity. -/
inductive Statement where
  /-- All columns of the rows with the key, or of all rows. -/
  | select (table : String) (key : Option (List Equation))
  /-- The listed columns of all rows. -/
  | project (table : String) (columns : List String)
  | count (table : String)
  /-- One row if there is any. -/
  | any (table : String)
  | insert (insertion : Insertion)
  | update (table : String) (assignments key : List Equation)
  /-- The rows with the key, or all rows. -/
  | delete (table : String) (key : Option (List Equation))
  /-- All columns of joined rows, of those with the key or of all. -/
  | selectJoined (join : Join) (key : Option (List Equation))
  deriving DecidableEq

namespace Statement

/-- The restriction to the rows with a key. -/
def keyText (key : Option (List Equation)) : String :=
  match key with
  | none => ""
  | some equations => " where " ++ conjunctionText equations

/-- The existence of a row, before any restriction. -/
def anyHead (table : String) : String :=
  "select 1 from " ++ table

/-- The text of a statement. -/
def text (dialect : Dialect) : Statement → String
  | .select table key => (Selection.mk none table).text ++ keyText key
  | .project table columns => (Selection.mk (some columns) table).text
  | .count table => "select count(*) from " ++ table
  | .any table => anyHead table ++ " " ++ dialect.limit 1
  | .insert insertion => dialect.insert insertion
  | .update table assignments key =>
      "update " ++ table ++ " set " ++ commaSeparated (assignments.map Equation.text)
        ++ keyText (some key)
  | .delete table key => "delete from " ++ table ++ keyText key
  | .selectJoined join key =>
      (Selection.mk none join.source).text ++ " left join " ++ join.related
        ++ " on " ++ join.condition.text ++ keyText key

end Statement

end EntitySql
