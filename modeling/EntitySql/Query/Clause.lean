import EntitySql.Condition.Basic

/-!
# Clauses of a query

A query selects columns, restricts the rows by a chain of conditions, and orders
them.  Each clause has a text of its own; those that follow the selection begin
with a blank.
-/

namespace EntitySql

open EntitySql.Text

/-- What a query selects from its table: all columns, or the listed ones. -/
structure Selection where
  columns : Option (List String)
  table : String
  deriving DecidableEq

/-- The text of a selection. -/
def Selection.text (selection : Selection) : String :=
  "select " ++ (selection.columns.map commaSeparated).getD "*" ++ " from " ++ selection.table

/-- A chain of conditions.  All but the first are grouped, and the first one is
unless it stands for itself. -/
structure WhereClause where
  first : Condition String
  firstGrouped : Bool
  rest : List (Connective × Condition String) := []

namespace WhereClause

/-- The first condition as it stands in the clause. -/
def firstUnit (clause : WhereClause) : Condition String :=
  if clause.firstGrouped then .group clause.first else clause.first

/-- A later condition of the clause, with the connective before it. -/
def linkText (dialect : Dialect) (link : Connective × Condition String) : String :=
  " " ++ link.1.symbol ++ " " ++ (Condition.group link.2).text dialect

/-- The text of the clause. -/
def text (dialect : Dialect) (clause : WhereClause) : String :=
  " where " ++ clause.firstUnit.text dialect
    ++ String.join (clause.rest.map (linkText dialect))

/-- The clause with one more condition at its end. -/
def extend (clause : WhereClause) (connective : Connective) (condition : Condition String) :
    WhereClause :=
  { clause with rest := clause.rest ++ [(connective, condition)] }

end WhereClause

/-- The direction of an ordering. -/
inductive Direction where
  | ascending
  | descending
  deriving DecidableEq

/-- The SQL spelling of a direction. -/
def Direction.symbol : Direction → String
  | .ascending => "asc"
  | .descending => "desc"

/-- A column to order by. -/
structure OrderTerm where
  column : String
  direction : Direction
  deriving DecidableEq

/-- A column with its direction. -/
def OrderTerm.text (term : OrderTerm) : String :=
  term.column ++ " " ++ term.direction.symbol

/-- The text of an ordering by at least one column. -/
def orderByText (terms : List OrderTerm) : String :=
  " order by " ++ commaSeparated (terms.map OrderTerm.text)

end EntitySql
