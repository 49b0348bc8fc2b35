/-!
# Kinds of statements

Statements that depend on the metadata alone come in a fixed number of kinds, so
their text can be remembered.
-/

namespace EntitySql

/-- A kind of statement whose text depends on the metadata alone. -/
inductive StatementKind where
  | get
  | getAll
  | insert
  | update
  | delete
  | deleteAll
  | count
  | any
  | projectAll
  | getJoined
  | getAllJoined
  deriving DecidableEq

/-- The kind as diagnostics show it. -/
def StatementKind.describe : StatementKind → String
  | .get => "Get"
  | .getAll => "GetAll"
  | .insert => "Insert"
  | .update => "Update"
  | .delete => "Delete"
  | .deleteAll => "DeleteAll"
  | .count => "Count"
  | .any => "Any"
  | .projectAll => "ProjectAll"
  | .getJoined => "GetJoined"
  | .getAllJoined => "GetAllJoined"

/-- What a remembered statement is about. -/
structure StatementKey where
  kind : StatementKind
  dialect : String
  path : String
  related : Option String
  deriving DecidableEq

end EntitySql
